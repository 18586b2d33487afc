import MiniRpc.RpcServer.Equiv.Decompose

/-!
# Every request is accounted for

A `Request` frame that the server has processed is being served, or its token is in the registry, or
it was cancelled, or it was answered, or the server has begun to close its connection.

* `Tokens`: a token in the registry was never cancelled, and no two entries share one.
* `Accounts`: on each connection and for each id, what became of the frames adds up to no more than
  the frames, and to exactly their number while the connection is not closing.
-/

namespace MiniRpc.RpcServer

variable {cfg : Config} {proper network : Prop} {s s' : State} {phase phase' : Phase}

/-! ### Observers -/

/-- The number of `Request` frames with a property. -/
def received (P : FrameId → ConnId → RpcRequest → Bool) (trace : List Event) : ℕ :=
  trace.countP fun
    | .requestReceived frame conn request => P frame conn request
    | _ => false

/-- One if it is about this request, else zero. -/
def ofRequest (conn : ConnId) (id : UInt64) (c : ConnId) (i : UInt64) : ℕ :=
  if conn = c ∧ id = i then 1 else 0

/-- The number of `Request` frames of a connection with an id. -/
def requests (trace : List Event) (c : ConnId) (i : UInt64) : ℕ :=
  received (fun _ conn request => conn = c ∧ request.requestId_ = i) trace

/-- The number of responses sent on a connection with an id. -/
def responses (trace : List Event) (c : ConnId) (i : UInt64) : ℕ :=
  trace.countP fun
    | .responded conn requestId _ _ => conn = c ∧ requestId = i
    | _ => false

/-- The number of `Cancel` frames of a connection with an id that found a token. -/
def cancels (trace : List Event) (c : ConnId) (i : UInt64) : ℕ :=
  trace.countP fun
    | .cancelReceived conn requestId (some _) => conn = c ∧ requestId = i
    | _ => false

/-- Whether the step being taken has still to answer this request. -/
def Phase.serving (c : ConnId) (i : UInt64) : Phase → ℕ
  | .idle => 0
  | .received _ conn request => ofRequest conn request.requestId_ c i
  | .answering conn requestId _ _ => ofRequest conn requestId c i

/-- The number of entries of the registry for a connection and an id. -/
def active (registry : CancellationRegistry) (c : ConnId) (i : UInt64) : ℕ :=
  (registry.find? c i).elim 0 fun _ => 1

theorem countP_cons_request {p : Event → Bool} {e : Event} {conn c : ConnId} {id i : UInt64}
    (hp : p e = decide (conn = c ∧ id = i)) (trace : List Event) :
    (e :: trace).countP p = trace.countP p + ofRequest conn id c i := by
  rw [List.countP_cons, hp, ofRequest]
  simp only [decide_eq_true_eq]

theorem requests_cons (trace : List Event) (frame : FrameId) (conn : ConnId) (request : RpcRequest)
    (c : ConnId) (i : UInt64) : requests (.requestReceived frame conn request :: trace) c i =
      requests trace c i + ofRequest conn request.requestId_ c i := by
  unfold requests received
  exact countP_cons_request rfl trace

theorem responses_cons (trace : List Event) (conn : ConnId) (id : UInt64) (origin : Origin)
    (output : Bytes) (c : ConnId) (i : UInt64) :
    responses (.responded conn id origin output :: trace) c i =
      responses trace c i + ofRequest conn id c i :=
  countP_cons_request rfl trace

theorem cancels_cons (trace : List Event) (conn : ConnId) (id : UInt64) (t : TokenId)
    (c : ConnId) (i : UInt64) : cancels (.cancelReceived conn id (some t) :: trace) c i =
      cancels trace c i + ofRequest conn id c i :=
  countP_cons_request rfl trace

theorem ofRequest_of_ne {conn c : ConnId} (h : c ≠ conn) (id i : UInt64) :
    ofRequest conn id c i = 0 :=
  if_neg fun hmatch => h hmatch.1.symm

theorem active_of_find {registry : CancellationRegistry} {c : ConnId} {i : UInt64} {t : TokenId}
    (h : registry.find? c i = some t) : active registry c i = 1 := by
  rw [active, h]
  rfl

theorem active_of_none {registry : CancellationRegistry} {c : ConnId} {i : UInt64}
    (h : registry.find? c i = none) : active registry c i = 0 := by
  rw [active, h]
  rfl

/-- An entry is taken out of the registry. -/
theorem active_erase {registry registry' : CancellationRegistry} {conn : ConnId} {id : UInt64}
    {t : TokenId} (hfound : registry.find? conn id = some t)
    (hfind : ∀ c i, registry'.find? c i = if c = conn ∧ i = id then none else registry.find? c i)
    (c : ConnId) (i : UInt64) :
    active registry c i = active registry' c i + ofRequest conn id c i := by
  by_cases hmatch : c = conn ∧ i = id
  · obtain ⟨rfl, rfl⟩ := hmatch
    have hnone : registry'.find? c i = none := by rw [hfind, if_pos ⟨rfl, rfl⟩]
    rw [active_of_find hfound, active_of_none hnone, ofRequest, if_pos ⟨rfl, rfl⟩]
  · rw [active, active, hfind, if_neg hmatch, ofRequest,
      if_neg fun heq => hmatch ⟨heq.1.symm, heq.2.symm⟩, add_zero]

/-- An entry is put into the registry. -/
theorem active_insert {registry registry' : CancellationRegistry} {conn : ConnId} {id : UInt64}
    {t : TokenId} (hnone : registry.find? conn id = none)
    (hfind : ∀ c i, registry'.find? c i = if c = conn ∧ i = id then some t
      else registry.find? c i) (c : ConnId) (i : UInt64) :
    active registry' c i = active registry c i + ofRequest conn id c i := by
  refine active_erase (t := t) (by rw [hfind, if_pos ⟨rfl, rfl⟩]) (fun c i => ?_) c i
  rw [hfind]
  split_ifs with hmatch
  · rw [hmatch.1, hmatch.2, hnone]
  · rfl

/-- The entries of a connection are cleared. -/
theorem active_clear (registry : CancellationRegistry) (conn c : ConnId) (i : UInt64) :
    active (registry.clearConnectionCancellations conn) c i =
      if c = conn then 0 else active registry c i := by
  rw [active, CancellationRegistry.find?_clear]
  split_ifs <;> rfl

/-! ### Tokens -/

/-- A number above the frames whose tokens may be in the registry. -/
def Phase.bound (nextFrame : FrameId) : Phase → FrameId
  | .received frame _ _ => frame
  | _ => nextFrame

/-- The tokens in the registry are those of earlier frames; none was cancelled and no two entries
share one. -/
structure Tokens (registry : CancellationRegistry) (nextFrame : FrameId) (phase : Phase) :
    Prop where
  frame : ∀ frame conn request, phase = .received frame conn request → frame < nextFrame
  registered : ∀ c i t, registry.find? c i = some t → t < phase.bound nextFrame
  canceled : ∀ t ∈ registry.canceled_, t < phase.bound nextFrame
  unique : ∀ c i c' i' t, registry.find? c i = some t → registry.find? c' i' = some t →
    c = c' ∧ i = i'
  live : ∀ c i t, registry.find? c i = some t → t ∉ registry.canceled_

theorem tokens_init : Tokens (State.init cfg).cancellationRegistry_ 0 .idle where
  frame _ _ _ h := by cases h
  registered c i t h := by
    cases (CancellationRegistry.find?_init _ _ c i).symm.trans h
  canceled t h := absurd h (Finset.notMem_empty t)
  unique c i c' i' t h := by
    cases (CancellationRegistry.find?_init _ _ c i).symm.trans h
  live c i t h := by
    cases (CancellationRegistry.find?_init _ _ c i).symm.trans h

/-- The step goes on to an answer or ends. -/
theorem Tokens.advance {registry : CancellationRegistry} {nextFrame : FrameId}
    (h : Tokens registry nextFrame phase)
    (hphase : ∀ frame conn request, phase' ≠ .received frame conn request) :
    Tokens registry nextFrame phase' := by
  have hbound : phase.bound nextFrame ≤ phase'.bound nextFrame := by
    cases phase' with
    | received frame conn request => exact absurd rfl (hphase frame conn request)
    | idle | answering =>
      cases phase with
      | received frame conn request => exact (h.frame _ _ _ rfl).le
      | idle | answering => exact le_rfl
  exact ⟨fun frame conn request heq => absurd heq (hphase frame conn request),
    fun c i t ht => (h.registered c i t ht).trans_le hbound,
    fun t ht => (h.canceled t ht).trans_le hbound, h.unique, h.live⟩

/-- Entries are taken out of the registry; their tokens may be cancelled. -/
theorem Tokens.shrink {registry registry' : CancellationRegistry} {nextFrame : FrameId}
    (h : Tokens registry nextFrame phase)
    (hfind : ∀ c i t, registry'.find? c i = some t → registry.find? c i = some t)
    (hcanceled : ∀ t ∈ registry'.canceled_, t ∈ registry.canceled_ ∨
      ∃ c i, registry.find? c i = some t ∧ registry'.find? c i = none) :
    Tokens registry' nextFrame phase where
  frame := h.frame
  registered c i t ht := h.registered c i t (hfind c i t ht)
  canceled t ht := by
    rcases hcanceled t ht with hold | ⟨c, i, hfound, -⟩
    · exact h.canceled t hold
    · exact h.registered c i t hfound
  unique c i c' i' t ht ht' := h.unique c i c' i' t (hfind c i t ht) (hfind c' i' t ht')
  live c i t ht hmem := by
    rcases hcanceled t hmem with hold | ⟨c', i', hfound, hnone⟩
    · exact h.live c i t (hfind c i t ht) hold
    · obtain ⟨rfl, rfl⟩ := h.unique c i c' i' t (hfind c i t ht) hfound
      cases hnone.symm.trans ht

/-- The entry of a request is taken out. -/
theorem Tokens.erase {registry registry' : CancellationRegistry} {nextFrame : FrameId}
    (h : Tokens registry nextFrame phase) {conn : ConnId} {id : UInt64}
    (hfind : ∀ c i, registry'.find? c i = if c = conn ∧ i = id then none else registry.find? c i)
    (hcanceled : ∀ t ∈ registry'.canceled_, t ∈ registry.canceled_ ∨
      registry.find? conn id = some t) : Tokens registry' nextFrame phase := by
  refine h.shrink (fun c i t ht => ?_) fun t ht => (hcanceled t ht).imp_right fun hfound =>
    ⟨conn, id, hfound, by rw [hfind, if_pos ⟨rfl, rfl⟩]⟩
  rw [hfind] at ht
  split_ifs at ht
  exact ht

/-- The token of the frame that was just received is registered. -/
theorem Tokens.register {registry registry' : CancellationRegistry} {nextFrame : FrameId}
    {frame : FrameId} {conn : ConnId} {request : RpcRequest}
    (h : Tokens registry nextFrame (.received frame conn request))
    (hcanceled : registry'.canceled_ = registry.canceled_)
    (hfind : ∀ c i, registry'.find? c i = if c = conn ∧ i = request.requestId_ then some frame
      else registry.find? c i) : Tokens registry' nextFrame .idle := by
  have hframe := h.frame _ _ _ rfl
  -- The number of the frame is above every token registered or cancelled before.
  have hold : ∀ {c i t}, registry.find? c i = some t → t ≠ frame := fun ht heq =>
    absurd (h.registered _ _ _ ht) (heq ▸ Nat.lt_irrefl _)
  have hcases : ∀ {c i t}, registry'.find? c i = some t →
      (c = conn ∧ i = request.requestId_ ∧ t = frame) ∨ registry.find? c i = some t := by
    intro c i t ht
    rw [hfind] at ht
    split_ifs at ht with hmatch
    · exact .inl ⟨hmatch.1, hmatch.2, (Option.some.inj ht).symm⟩
    · exact .inr ht
  refine ⟨fun _ _ _ heq => (by cases heq), fun c i t ht => ?_, fun t ht => ?_,
    fun c i c' i' t ht ht' => ?_, fun c i t ht hmem => ?_⟩
  · rcases hcases ht with ⟨-, -, rfl⟩ | ht
    · exact hframe
    · exact (h.registered c i t ht).trans hframe
  · exact (h.canceled t (hcanceled ▸ ht)).trans hframe
  · rcases hcases ht with ⟨rfl, rfl, rfl⟩ | ht <;> rcases hcases ht' with ⟨rfl, rfl, heq⟩ | ht'
    · exact ⟨rfl, rfl⟩
    · exact absurd rfl (hold ht')
    · exact absurd heq (hold ht)
    · exact h.unique c i c' i' t ht ht'
  · rw [hcanceled] at hmem
    rcases hcases ht with ⟨-, -, rfl⟩ | ht
    · exact absurd (h.canceled t hmem) (Nat.lt_irrefl t)
    · exact h.live c i t ht hmem

theorem Tokens.step (h : Tokens s.cancellationRegistry_ s.nextFrame phase)
    (ht : Transition cfg proper network (s, phase) (s', phase')) :
    Tokens s'.cancellationRegistry_ s'.nextFrame phase' := by
  cases ht with
  | receive request hup =>
    refine ⟨fun _ _ _ heq => ?_, h.registered, h.canceled, h.unique, h.live⟩
    obtain ⟨rfl, -, -⟩ := Phase.received.inj heq
    exact Nat.lt_succ_self _
  | invokeSync | unknownMethod | refuseLimit | refuseDuplicate | respond | close | drop =>
    exact h.advance fun _ _ _ heq => by cases heq
  | register _ _ hcanceled hfind => exact h.register hcanceled hfind
  | cancel hfound hcanceled hfind =>
    refine h.erase hfind fun t ht => ?_
    rw [hcanceled, Finset.mem_insert] at ht
    rcases ht with rfl | ht
    · exact .inr hfound
    · exact .inl ht
  | takeCanceled _ _ hcanceled hfind => exact h.erase hfind fun t ht => .inl (hcanceled ▸ ht)
  | take _ _ hcanceled hfind =>
    exact (h.erase hfind fun t ht => .inl (hcanceled ▸ ht)).advance fun _ _ _ heq => by cases heq
  | @down _ conn =>
    refine h.shrink (fun c i t ht => ?_) fun t ht => ?_
    · rw [CancellationRegistry.find?_clear] at ht
      split_ifs at ht
      exact ht
    · rcases (CancellationRegistry.mem_canceled_clear _ conn t).mp ht with hold | ⟨i, hfound⟩
      · exact .inl hold
      · exact .inr ⟨conn, i, hfound, by rw [CancellationRegistry.find?_clear, if_pos rfl]⟩
  | _ => exact h

/-! ### Connections -/

/-- A connection not yet accepted has received nothing, and one that is not closing is connected. -/
structure Links (connections : ConnId → Connection) (trace : List Event) : Prop where
  new : ∀ c, (connections c).state = .kNew → ∀ i, requests trace c i = 0
  connected : ∀ c, (connections c).state ≠ .kNew → (connections c).closing = false →
    (connections c).connected = true

theorem Links.update {connections : ConnId → Connection} {trace : List Event}
    (h : Links connections trace) {conn : ConnId} {c : Connection}
    (hnew : c.state = .kNew → (connections conn).state = .kNew)
    (hconnected : c.state ≠ .kNew → c.closing = false → c.connected = true) :
    Links (Function.update connections conn c) trace := by
  refine ⟨fun c' hstate => ?_, fun c' hstate => ?_⟩
  all_goals by_cases hc : c' = conn
  · subst hc
    rw [Function.update_self] at hstate
    exact h.new c' (hnew hstate)
  · rw [Function.update_of_ne hc] at hstate
    exact h.new c' hstate
  · subst hc
    rw [Function.update_self] at hstate ⊢
    exact hconnected hstate
  · rw [Function.update_of_ne hc] at hstate ⊢
    exact h.connected c' hstate

/-- A connection begins to close. -/
theorem Links.close {connections : ConnId → Connection} {trace : List Event}
    (h : Links connections trace) (conn : ConnId) :
    Links (Function.update connections conn (connections conn).close) trace :=
  h.update id fun _ hclosing => by cases hclosing

theorem Links.step (h : Links s.connections s.trace)
    (ht : Transition cfg proper network (s, phase) (s', phase')) :
    Links s'.connections s'.trace := by
  cases ht with
  | receive request hup =>
    refine ⟨fun c hstate i => ?_, h.connected⟩
    have hne : c ≠ _ := fun heq => by cases hup.symm.trans (heq ▸ hstate)
    rw [requests_cons, h.new c hstate, ofRequest_of_ne hne]
  | up => exact h.update (fun hstate => (by cases hstate)) fun _ _ => rfl
  | closing _ hc hclosing =>
    refine h.update (fun hstate => ?_) fun _ hclosing' => ?_
    · cases hc.symm.trans hstate
    · cases hclosing.symm.trans hclosing'
  | @forceClose _ conn | @close _ conn | @refuseDuplicate _ _ conn =>
    have hclose := h.close conn
    exact ⟨hclose.new, hclose.connected⟩
  | @down _ conn =>
    have hdown : Links (Function.update s.connections conn .down) s.trace :=
      h.update (fun hstate => (by cases hstate)) fun _ hclosing => (by cases hclosing)
    exact ⟨hdown.new, hdown.connected⟩
  | _ => exact ⟨h.new, h.connected⟩

/-! ### Accounts -/

/-- What became of the frames of a connection with an id. -/
def account (s : State) (phase : Phase) (c : ConnId) (i : UInt64) : ℕ :=
  phase.serving c i + active s.cancellationRegistry_ c i + cancels s.trace c i +
    responses s.trace c i

/-- No more than the frames is accounted for, and every frame while the connection is not
closing. -/
structure Accounts (s : State) (phase : Phase) : Prop where
  le : ∀ c i, account s phase c i ≤ requests s.trace c i
  eq : ∀ c i, (s.connections c).closing = false → requests s.trace c i ≤ account s phase c i

theorem accounts_init : Accounts (.init cfg) .idle where
  le c i := by
    have hactive : active (State.init cfg).cancellationRegistry_ c i = 0 :=
      active_of_none (CancellationRegistry.find?_init _ _ c i)
    rw [account, hactive]
    exact le_rfl
  eq _ _ _ := Nat.zero_le _

/-- A step that changes what is accounted for by as much as the number of frames. -/
theorem Accounts.balance (h : Accounts s phase)
    (hbalance : ∀ c i, account s' phase' c i + requests s.trace c i =
      account s phase c i + requests s'.trace c i)
    (hconnections : s'.connections = s.connections) : Accounts s' phase' where
  le c i := by
    have hle := h.le c i
    have hbalance := hbalance c i
    omega
  eq c i hclosing := by
    have hge := h.eq c i (hconnections ▸ hclosing)
    have hbalance := hbalance c i
    omega

/-- A connection changes; if it is not closing afterwards, it was new. -/
theorem Accounts.update (h : Accounts s phase) (hlinks : Links s.connections s.trace)
    {conn : ConnId} {c : Connection}
    (hc : c.closing = false → (s.connections conn).state = .kNew) :
    Accounts (s.setConnection conn c) phase where
  le := h.le
  eq c' i hclosing := by
    by_cases hne : c' = conn
    · subst hne
      have hnew : c.closing = false := by
        rwa [State.connections_setConnection_self] at hclosing
      have hzero : requests s.trace c' i = 0 := hlinks.new c' (hc hnew) i
      exact hzero.trans_le (Nat.zero_le _)
    · rw [State.connections_setConnection_of_ne s c hne] at hclosing
      exact h.eq c' i hclosing

/-- A request on a closing connection is given up. -/
theorem Accounts.giveUp (h : Accounts s phase) {conn : ConnId} {id : UInt64}
    (hserving : ∀ c i, phase.serving c i = ofRequest conn id c i)
    (hclosing : (s.connections conn).closing = true) : Accounts s .idle where
  le c i := by
    have hle := h.le c i
    simp only [account, Phase.serving] at hle ⊢
    omega
  eq c i hopen := by
    have hne : c ≠ conn := fun heq => by cases hclosing.symm.trans (heq ▸ hopen)
    have heq := h.eq c i hopen
    simp only [account, hserving, ofRequest_of_ne hne] at heq
    simp only [account, Phase.serving]
    exact heq

/-- The connection of a request begins to close. -/
theorem Accounts.forceClose (h : Accounts s phase) (hlinks : Links s.connections s.trace)
    {conn : ConnId} {id : UInt64}
    (hserving : ∀ c i, phase.serving c i = ofRequest conn id c i) :
    Accounts (s.setConnection conn (s.connections conn).close) .idle := by
  refine (h.update hlinks fun hclosing => (by cases hclosing)).giveUp hserving ?_
  rw [State.connections_setConnection_self]
  rfl

theorem Accounts.step (h : Accounts s phase)
    (htokens : Tokens s.cancellationRegistry_ s.nextFrame phase)
    (hlinks : Links s.connections s.trace)
    (ht : Transition cfg proper network (s, phase) (s', phase')) : Accounts s' phase' := by
  cases ht with
  | @receive _ conn request hup =>
    refine h.balance (fun c i => ?_) rfl
    show ofRequest conn request.requestId_ c i + active s.cancellationRegistry_ c i +
      cancels s.trace c i + responses s.trace c i + requests s.trace c i = _
    rw [requests_cons]
    simp only [account, Phase.serving]
    omega
  | invokeSync | unknownMethod | refuseLimit => exact h.balance (fun _ _ => rfl) rfl
  | @register _ frame conn request _ registry _ hnone _ hfind =>
    refine h.balance (fun c i => ?_) rfl
    have hactive := active_insert hnone hfind c i
    simp only [account, Phase.serving]
    omega
  | @respond _ conn requestId origin r hvalid hconnected =>
    refine h.balance (fun c i => ?_) rfl
    show 0 + active s.cancellationRegistry_ c i + cancels s.trace c i +
      responses (.responded conn requestId origin _ :: s.trace) c i + requests s.trace c i =
        _ + requests s.trace c i
    rw [responses_cons]
    simp only [account, Phase.serving]
    omega
  | @cancel _ conn requestId token registry hfound _ hfind =>
    refine h.balance (fun c i => ?_) rfl
    have hactive := active_erase hfound hfind c i
    show 0 + active registry c i +
      cancels (.cancelReceived conn requestId (some token) :: s.trace) c i +
      responses s.trace c i + requests s.trace c i = _ + requests s.trace c i
    rw [cancels_cons]
    simp only [account, Phase.serving]
    omega
  | @take _ inv r l token tasks registry _ hfound _ hfind =>
    refine h.balance (fun c i => ?_) rfl
    have hactive := active_erase hfound hfind c i
    simp only [account, Phase.serving]
    omega
  | takeCanceled _ hfound _ _ htoken => exact absurd htoken (htokens.live _ _ _ hfound)
  | @refuseDuplicate _ frame conn request =>
    have hclose := Accounts.forceClose h hlinks fun c i =>
      (rfl : _ = ofRequest conn request.requestId_ c i)
    exact ⟨hclose.le, hclose.eq⟩
  | @close _ conn requestId =>
    have hclose := Accounts.forceClose h hlinks fun c i => (rfl : _ = ofRequest conn requestId c i)
    exact ⟨hclose.le, hclose.eq⟩
  | @drop _ conn requestId origin r hconnected =>
    -- The connection was accepted, since one of its frames is being answered.
    refine h.giveUp (fun c i => (rfl : _ = ofRequest conn requestId c i)) ?_
    by_contra hopen
    have hnew : (s.connections conn).state ≠ .kNew := fun hnew => by
      have hle := h.le conn requestId
      rw [hlinks.new conn hnew, account, Phase.serving, ofRequest, if_pos ⟨rfl, rfl⟩] at hle
      omega
    cases hconnected.symm.trans (hlinks.connected conn hnew (Bool.eq_false_of_not_eq_true hopen))
  | @forceClose _ conn =>
    have hclose : Accounts (s.setConnection conn (s.connections conn).close) .idle :=
      h.update hlinks fun hopen => by cases hopen
    exact ⟨hclose.le, hclose.eq⟩
  | closing _ _ hclosing =>
    exact h.update hlinks fun hopen => by cases hclosing.symm.trans hopen
  | up hnew => exact h.update hlinks fun _ => hnew
  | @down _ conn =>
    have hdown : Accounts (s.setConnection conn .down) .idle :=
      h.update hlinks fun hopen => by cases hopen
    have hactive := active_clear s.cancellationRegistry_ conn
    refine ⟨fun c i => le_trans ?_ (hdown.le c i), fun c i hopen => ?_⟩
    · show 0 + active (s.cancellationRegistry_.clearConnectionCancellations conn) c i +
        cancels s.trace c i + responses s.trace c i ≤
          0 + active s.cancellationRegistry_ c i + cancels s.trace c i + responses s.trace c i
      gcongr
      rw [hactive]
      split_ifs
      · exact Nat.zero_le _
      · exact le_rfl
    · have heq := hdown.eq c i hopen
      have hne : c ≠ conn := fun heq => by
        subst heq
        cases (congrArg Connection.closing (Function.update_self c .down s.connections)).symm.trans
          hopen
      unfold account at heq ⊢
      dsimp only at heq ⊢
      rw [hactive, if_neg hne]
      exact heq
  | _ => exact ⟨h.le, h.eq⟩

/-- The three laws together. -/
structure Books (s : State) (phase : Phase) : Prop where
  tokens : Tokens s.cancellationRegistry_ s.nextFrame phase
  links : Links s.connections s.trace
  accounts : Accounts s phase

theorem books_init : Books (.init cfg) .idle :=
  ⟨tokens_init, ⟨fun _ _ _ => rfl, fun _ hstate => absurd rfl hstate⟩, accounts_init⟩

theorem Books.step (h : Books s phase)
    (ht : Transition cfg proper network (s, phase) (s', phase')) : Books s' phase' :=
  ⟨h.tokens.step ht, h.links.step ht, h.accounts.step h.tokens h.links ht⟩

theorem books_of_reachable (h : (machine cfg).Reachable s) : Books s .idle :=
  invariant (P := fun x => Books x.1 x.2) books_init (fun _ _ hP ht => hP.step ht) h

end MiniRpc.RpcServer
