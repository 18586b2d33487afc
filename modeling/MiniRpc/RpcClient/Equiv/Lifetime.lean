import MiniRpc.RpcClient.Equiv.Clock
import MiniRpc.RpcClient.Equiv.Sent
import MiniRpc.RpcClient.Equiv.Timers

/-!
# How long a call stays pending

A call with a timeout is over after a bounded time, whatever happens to its connection, if the loop
runs every timer at most `δ` after it is due.  `Timely δ` is that condition on a run: time passes
only as long as no live timer would be more than `δ` late.

The bound is `Config.lifetime`: one request timeout, and for each resend one wait for a reconnect
and one more request timeout.  `PendingRequest.reserve` is the part of it that is left once the
current timer of a request has fired; whenever a request gets a new timer, the delay of the timer is
paid out of the reserve (`reserve_waiting`, `reserve_rearmed`, `reserve_resent`).
-/

namespace MiniRpc.RpcClient

variable {cfg : Config} {proper network : Prop} {s s' : State} {id : UInt64} {p : PendingRequest}
  {δ : ℕ}

/-- Time passes only as long as no live timer is more than `δ` late. -/
def Timely (δ : ℕ) (s : State) : Action → Prop
  | .tick d => (s.loop_.tick d).OnTime δ
  | _ => True

instance (δ : ℕ) (s : State) : (a : Action) → Decidable (Timely δ s a)
  | .tick _ => inferInstanceAs (Decidable (EventLoop.OnTime _ _))
  | .drawId _ | .queueCall _ | .queueCancel _ | .runTask | .transmit _ | .loseConnection
  | .fireTimer _ | .sweep | .enterUser | .connectionUp | .connectionDown _ | .connectionError _ _
  | .deliver _ | .resume _ | .call _ | .cancel _ | .connect | .disconnect _ | .leaveUser =>
    .isTrue trivial

/-- When the last call under the id was accepted. -/
def acceptedAt : List Event → UInt64 → Option ℕ
  | [], _ => none
  | .requestSent _ requestId _ _ time :: trace, id =>
    if requestId = id then some time else acceptedAt trace id
  | _ :: trace, id => acceptedAt trace id

/-! ### The bound -/

namespace PendingRequest

/-- How often the request can still wait for a reconnect. -/
def resendsLeft (p : PendingRequest) : ℕ := if p.allowReconnect then p.remainingResends.toNat else 0

/-- The time one request timeout can take. -/
def requestRound (δ : ℕ) (p : PendingRequest) : ℕ := p.requestTimeout + δ

/-- The time a wait for a reconnect and the request timeout after it can take. -/
def reconnectRound (δ : ℕ) (p : PendingRequest) : ℕ := p.reconnectTimeout + δ + p.requestRound δ

/-- The time the request can still be pending after its current timer has fired. -/
def reserve (δ : ℕ) (p : PendingRequest) : ℕ :=
  match p.phase with
  | .kWaitingResponse => p.resendsLeft * p.reconnectRound δ
  | .kWaitingReconnect => (p.resendsLeft - 1) * p.reconnectRound δ + p.requestRound δ

end PendingRequest

/-- How long a call can be pending when no timer is more than `δ` late. -/
def Config.lifetime (cfg : Config) (δ : ℕ) (a : CallArgs) : ℕ :=
  (newPending cfg a).requestRound δ + (newPending cfg a).reserve δ

theorem resendsLeft_pos (hallow : p.allowReconnect = true) (hremaining : p.remainingResends ≠ 0) :
    0 < p.resendsLeft := by
  unfold PendingRequest.resendsLeft
  rw [if_pos hallow, ← toNat_sub_one hremaining]
  exact Nat.succ_pos _

/-- A resend, or a wait that expires, takes one of the resends. -/
theorem resendsLeft_spend (hallow : p.allowReconnect = true) (hremaining : p.remainingResends ≠ 0)
    (phase : RequestPhase) (timerId : Option TimerId) :
    PendingRequest.resendsLeft
      { p with phase := phase, remainingResends := p.remainingResends - 1, timerId := timerId } =
        p.resendsLeft - 1 := by
  unfold PendingRequest.resendsLeft
  rw [if_pos hallow, if_pos hallow, ← toNat_sub_one hremaining]
  rfl

/-- One round is taken out of several. -/
theorem round_add {n : ℕ} (hn : 0 < n) (r : ℕ) : r + (n - 1) * r = n * r := by
  rw [Nat.add_comm, ← Nat.succ_mul, Nat.succ_eq_add_one, Nat.sub_add_cancel hn]

/-- A request that starts to wait for a reconnect pays for its timer. -/
theorem reserve_waiting (hphase : p.phase = .kWaitingResponse) (hallow : p.allowReconnect = true)
    (hremaining : p.remainingResends ≠ 0) (t : TimerId) :
    p.reconnectTimeout + δ + (waitingEntry p t).reserve δ = p.reserve δ := by
  have hround := round_add (resendsLeft_pos hallow hremaining) (p.reconnectRound δ)
  have hold : p.reserve δ = p.resendsLeft * p.reconnectRound δ := by
    unfold PendingRequest.reserve
    rw [hphase]
  have hnew : (waitingEntry p t).reserve δ =
      (p.resendsLeft - 1) * p.reconnectRound δ + p.requestRound δ := rfl
  have hsum : p.reconnectRound δ = p.reconnectTimeout + δ + p.requestRound δ := rfl
  omega

/-- A request that is resent pays for its timer. -/
theorem reserve_resent (hphase : p.phase = .kWaitingReconnect) (hallow : p.allowReconnect = true)
    (hremaining : p.remainingResends ≠ 0) (t : Option TimerId) :
    p.requestTimeout + δ + (resentEntry p t).reserve δ = p.reserve δ := by
  have hspend := resendsLeft_spend hallow hremaining .kWaitingResponse t
  have hold : p.reserve δ = (p.resendsLeft - 1) * p.reconnectRound δ + p.requestRound δ := by
    unfold PendingRequest.reserve
    rw [hphase]
  have hnew : (resentEntry p t).reserve δ = (p.resendsLeft - 1) * p.reconnectRound δ := by
    unfold resentEntry
    rw [← hspend]
    rfl
  have hround : p.requestRound δ = p.requestTimeout + δ := rfl
  omega

/-- A request that goes on waiting pays for its new timer. -/
theorem reserve_rearmed (hphase : p.phase = .kWaitingReconnect) (hallow : p.allowReconnect = true)
    (hmore : p.remainingResends - 1 ≠ 0) (hremaining : p.remainingResends ≠ 0) (t : TimerId) :
    p.reconnectTimeout + δ + (rearmedEntry p t).reserve δ ≤ p.reserve δ := by
  have hspend := resendsLeft_spend hallow hremaining p.phase (some t)
  have hpos : 0 < (rearmedEntry p t).resendsLeft := resendsLeft_pos hallow hmore
  have hleft : (rearmedEntry p t).resendsLeft = p.resendsLeft - 1 := hspend
  have hround := round_add hpos (p.reconnectRound δ)
  have hold : p.reserve δ = (p.resendsLeft - 1) * p.reconnectRound δ + p.requestRound δ := by
    unfold PendingRequest.reserve
    rw [hphase]
  have hnew : (rearmedEntry p t).reserve δ =
      ((rearmedEntry p t).resendsLeft - 1) * p.reconnectRound δ + p.requestRound δ := by
    have hphase' : (rearmedEntry p t).phase = .kWaitingReconnect := hphase
    unfold PendingRequest.reserve
    rw [hphase']
    rfl
  have hsum : p.reconnectRound δ = p.reconnectTimeout + δ + p.requestRound δ := rfl
  rw [hleft] at hround hnew
  omega

/-! ### The invariant -/

/-- The request of a timer is over within the lifetime of its call: what is left of the lifetime
when the timer is due covers the time the timer may be late and the reserve of the request. -/
def WithinLifetime (cfg : Config) (δ : ℕ) (trace : List Event) (deadline : ℕ) (id : UInt64)
    (p : PendingRequest) : Prop :=
  ∃ a accepted, acceptedCall trace id = some a ∧ acceptedAt trace id = some accepted ∧
    deadline + δ + p.reserve δ ≤ accepted + cfg.lifetime δ a

/-- No timer is more than `δ` late, and the requests with a timeout stay within the lifetime of
their calls. -/
structure InTime (cfg : Config) (δ : ℕ) (s : State) : Prop where
  onTime : s.loop_.OnTime δ
  fits : ∀ t timer p, s.loop_.timers.lookup t = some timer →
    s.pendingRequests_.lookup timer.task.requestId = some p → 0 < p.requestTimeout →
      WithinLifetime cfg δ s.trace timer.deadline timer.task.requestId p

theorem inTime_init : InTime cfg δ .init where
  onTime := EventLoop.onTime_init δ
  fits t _ _ h := by cases (Finmap.lookup_empty t).symm.trans h

/-- The request `id` and its timer change; the other requests keep their timers and what is known of
their calls. -/
theorem InTime.update (h : InTime cfg δ s) (htimers : Timers s) (id : UInt64)
    (honTime : s'.loop_.OnTime δ)
    (hpending : ∀ id', id' ≠ id → s'.pendingRequests_.lookup id' = s.pendingRequests_.lookup id')
    (haccepted : ∀ id', id' ≠ id → acceptedCall s'.trace id' = acceptedCall s.trace id' ∧
      acceptedAt s'.trace id' = acceptedAt s.trace id')
    (htimer : ∀ t timer, s'.loop_.timers.lookup t = some timer →
      (timer.task.requestId = id ∧ ∀ p, s'.pendingRequests_.lookup id = some p →
        0 < p.requestTimeout → WithinLifetime cfg δ s'.trace timer.deadline id p) ∨
      ((s.pendingRequests_.lookup id).bind PendingRequest.timerId ≠ some t ∧
        s.loop_.timers.lookup t = some timer)) : InTime cfg δ s' where
  onTime := honTime
  fits t timer p ht hp hpos := by
    rcases htimer t timer ht with ⟨hid, hfits⟩ | ⟨hne, hold⟩
    · rw [hid] at hp ⊢
      exact hfits p hp hpos
    · -- the timer of another request
      have hid : timer.task.requestId ≠ id := by
        intro hid
        obtain ⟨q, hq, hqt⟩ := htimers.live t timer hold
        rw [hid] at hq
        exact hne (by rw [hq]; exact hqt)
      rw [hpending _ hid] at hp
      obtain ⟨hcall, hat⟩ := haccepted _ hid
      have hfits := h.fits t timer p hold hp hpos
      unfold WithinLifetime at hfits ⊢
      rw [hcall, hat]
      exact hfits

/-- A request leaves with its timer. -/
theorem InTime.erase (h : InTime cfg δ s) (htimers : Timers s)
    (hp : s.pendingRequests_.lookup id = some p)
    (hpending : s'.pendingRequests_ = s.pendingRequests_.erase id)
    (hloop : s'.loop_ = s.loop_.cancelIfSet p.timerId)
    (haccepted : ∀ id', acceptedCall s'.trace id' = acceptedCall s.trace id' ∧
      acceptedAt s'.trace id' = acceptedAt s.trace id') : InTime cfg δ s' := by
  refine h.update htimers id ?_ (fun id' hid => ?_) (fun id' _ => haccepted id')
    fun t timer ht => .inr ?_
  · rw [hloop]
    exact h.onTime.cancelIfSet _
  · rw [hpending, Finmap.lookup_erase_ne hid]
  · rw [hloop] at ht
    rw [hp]
    exact EventLoop.lookup_of_cancelIfSet _ ht

/-- What a request has left when it gets a new timer. -/
theorem InTime.spend (h : InTime cfg δ s) (htimers : Timers s)
    (hp : s.pendingRequests_.lookup id = some p) (hpos : 0 < p.requestTimeout) :
    ∃ a accepted, acceptedCall s.trace id = some a ∧ acceptedAt s.trace id = some accepted ∧
      s.now + p.reserve δ ≤ accepted + cfg.lifetime δ a := by
  have hentry := htimers.entries id p hp
  obtain ⟨t, ht⟩ : ∃ t, p.timerId = some t := by
    cases hphase : p.phase with
    | kWaitingResponse =>
      obtain ⟨t, _, ht, _⟩ := hentry.request hphase hpos
      exact ⟨t, ht⟩
    | kWaitingReconnect =>
      obtain ⟨t, _, ht, _⟩ := hentry.reconnect hphase
      exact ⟨t, ht⟩
  obtain ⟨timer, hlookup, hid⟩ := hentry.requestId ht
  obtain ⟨a, accepted, hcall, hat, hle⟩ := h.fits t timer p hlookup (hid ▸ hp) hpos
  have hlate : s.now ≤ timer.deadline + δ := EventLoop.onTime_iff.mp h.onTime t timer hlookup
  exact ⟨a, accepted, hid ▸ hcall, hid ▸ hat, by omega⟩

/-- A pending request gets a new reconnect timer, paid out of its reserve. -/
theorem InTime.wait (h : InTime cfg δ s) (htimers : Timers s) {q : PendingRequest}
    (hp : s.pendingRequests_.lookup id = some p)
    (hpending : s'.pendingRequests_ = s.pendingRequests_.insert id q)
    (hloop : s'.loop_ = (s.loop_.cancelIfSet p.timerId).runAfter q.reconnectTimeout
      (.onReconnectTimeout id))
    (htimeout : q.requestTimeout = p.requestTimeout)
    (hreserve : q.reconnectTimeout + δ + q.reserve δ ≤ p.reserve δ)
    (haccepted : ∀ id', acceptedCall s'.trace id' = acceptedCall s.trace id' ∧
      acceptedAt s'.trace id' = acceptedAt s.trace id') : InTime cfg δ s' := by
  refine h.update htimers id ?_ (fun id' hid => ?_) (fun id' _ => haccepted id')
    fun t timer ht => ?_
  · rw [hloop]
    exact (h.onTime.cancelIfSet _).runAfter _ _
  · rw [hpending, Finmap.lookup_insert_of_ne _ hid]
  · rw [hloop] at ht
    rcases EventLoop.lookup_of_runAfter _ ht with ⟨_, rfl⟩ | hold
    · refine .inl ⟨rfl, fun q' hq' hpos => ?_⟩
      rw [hpending, Finmap.lookup_insert] at hq'
      obtain rfl := Option.some.inj hq'
      obtain ⟨a, accepted, hcall, hat, hle⟩ := h.spend htimers hp (htimeout ▸ hpos)
      refine ⟨a, accepted, (haccepted id).1.trans hcall, (haccepted id).2.trans hat, ?_⟩
      rw [EventLoop.now_cancelIfSet]
      have hnow : s.loop_.now = s.now := rfl
      dsimp only
      omega
    · rw [hp]
      exact .inr (EventLoop.lookup_of_cancelIfSet _ hold)

/-- A call is accepted, with its request timer. -/
theorem InTime.accept (h : InTime cfg δ s) (htimers : Timers s) {a : CallArgs}
    (hnew : s.pendingRequests_.lookup id = none)
    (hpending : s'.pendingRequests_ = s.pendingRequests_.insert id { newPending cfg a with
      timerId := (s.loop_.runAfterIfPos a.timeout (.onRequestTimeout id)).2 })
    (hloop : s'.loop_ = (s.loop_.runAfterIfPos a.timeout (.onRequestTimeout id)).1)
    {conn : ConnId} {frame : Bytes}
    (htrace : s'.trace = .requestSent conn id a frame s.now :: s.trace) : InTime cfg δ s' := by
  refine h.update htimers id ?_ (fun id' hid => ?_) (fun id' hid => ?_) fun t timer ht => ?_
  · rw [hloop]
    exact h.onTime.runAfterIfPos _ _
  · rw [hpending, Finmap.lookup_insert_of_ne _ hid]
  · rw [htrace, acceptedCall, acceptedAt, if_neg (Ne.symm hid), if_neg (Ne.symm hid)]
    exact ⟨rfl, rfl⟩
  · rw [hloop] at ht
    rcases EventLoop.lookup_of_runAfterIfPos _ ht with ⟨_, rfl⟩ | hold
    · refine .inl ⟨rfl, fun q hq _ => ?_⟩
      rw [hpending, Finmap.lookup_insert] at hq
      obtain rfl := Option.some.inj hq
      rw [htrace]
      refine ⟨a, s.now, ?_, ?_, ?_⟩
      · rw [acceptedCall, if_pos rfl]
      · rw [acceptedAt, if_pos rfl]
      · -- the whole lifetime is left
        have hround : (newPending cfg a).requestRound δ = a.timeout + δ := rfl
        have hnow : s.loop_.now = s.now := rfl
        unfold Config.lifetime
        rw [hround, hnow, Nat.add_assoc s.now, Nat.add_assoc s.now]
        exact Nat.le_refl _
    · rw [hnew]
      exact .inr ⟨fun heq => (by cases heq), hold⟩

/-- A request is resent, with a new request timer paid out of its reserve. -/
theorem InTime.resend (h : InTime cfg δ s) (htimers : Timers s) {q : PendingRequest}
    (hp : s.pendingRequests_.lookup id = some p)
    (hpending : s'.pendingRequests_ = s.pendingRequests_.insert id q)
    (hloop : s'.loop_ = ((s.loop_.cancelIfSet p.timerId).runAfterIfPos p.requestTimeout
      (.onRequestTimeout id)).1)
    (htimeout : q.requestTimeout = p.requestTimeout)
    (hreserve : p.requestTimeout + δ + q.reserve δ = p.reserve δ)
    (haccepted : ∀ id', acceptedCall s'.trace id' = acceptedCall s.trace id' ∧
      acceptedAt s'.trace id' = acceptedAt s.trace id') : InTime cfg δ s' := by
  refine h.update htimers id ?_ (fun id' hid => ?_) (fun id' _ => haccepted id')
    fun t timer ht => ?_
  · rw [hloop]
    exact (h.onTime.cancelIfSet _).runAfterIfPos _ _
  · rw [hpending, Finmap.lookup_insert_of_ne _ hid]
  · rw [hloop] at ht
    rcases EventLoop.lookup_of_runAfterIfPos _ ht with ⟨_, rfl⟩ | hold
    · refine .inl ⟨rfl, fun q' hq' hpos => ?_⟩
      rw [hpending, Finmap.lookup_insert] at hq'
      obtain rfl := Option.some.inj hq'
      obtain ⟨a, accepted, hcall, hat, hle⟩ := h.spend htimers hp (htimeout ▸ hpos)
      refine ⟨a, accepted, (haccepted id).1.trans hcall, (haccepted id).2.trans hat, ?_⟩
      rw [EventLoop.now_cancelIfSet]
      have hnow : s.loop_.now = s.now := rfl
      dsimp only
      omega
    · rw [hp]
      exact .inr (EventLoop.lookup_of_cancelIfSet _ hold)

theorem InTime.step (h : InTime cfg δ s) (hledger : Ledger s) (hphases : Phases s)
    (htimers : Timers s) (hnow : s'.now = s.now) (ht : Transition cfg proper network s s') :
    InTime cfg δ s' := by
  have hsame : ∀ id : UInt64, acceptedCall s.trace id = acceptedCall s.trace id ∧
      acceptedAt s.trace id = acceptedAt s.trace id := fun _ => ⟨rfl, rfl⟩
  have hcancel : ∀ {t : TimerId} {timer : Timer TimerTask} {p : PendingRequest},
      s.loop_.timers.lookup t = some timer →
      s.pendingRequests_.lookup timer.task.requestId = some p →
      s.loop_.cancel t = s.loop_.cancelIfSet p.timerId := fun ht hp => by
    rw [htimers.timerId_eq ht hp]
    rfl
  cases ht with
  | accept hcalling =>
    have hnone := Finmap.lookup_eq_none.mpr
      (hledger.not_mem_of_calling (hcalling ▸ List.mem_cons_self))
    exact h.accept htimers hnone rfl rfl rfl
  | lose _ _ _ hp | respond _ hp | cancel hp | resendFailed _ _ _ hp =>
    exact h.erase htimers hp rfl rfl hsame
  | timeOut ht _ hp | exhaust ht _ hp => exact h.erase htimers hp rfl (hcancel ht hp) hsame
  | startWait _ hp hphase hallow hremaining =>
    exact h.wait htimers hp rfl rfl rfl (reserve_waiting hphase hallow hremaining _).le hsame
  | rearm ht _ hp hphase hmore =>
    obtain ⟨hallow, hremaining⟩ := (hphases.entries _ _ hp).waiting hphase
    refine h.wait htimers hp rfl ?_ rfl (reserve_rearmed hphase hallow hmore hremaining _) hsame
    rw [hcancel ht hp]
    rfl
  | resend _ _ hp hphase =>
    obtain ⟨hallow, hremaining⟩ := (hphases.entries _ _ hp).waiting hphase
    exact h.resend htimers hp rfl rfl rfl (reserve_resent hphase hallow hremaining _) hsame
  | @stray t timer ht =>
    refine ⟨h.onTime.cancelIfSet (some t), fun t' timer' p ht' => ?_⟩
    exact h.fits t' timer' p (EventLoop.lookup_of_cancelIfSet (o := some t) _ ht').2
  | tick d =>
    obtain rfl : d = 0 := by
      have hsum : s.now + d = s.now := hnow
      omega
    exact ⟨h.onTime, h.fits⟩
  | _ => exact ⟨h.onTime, h.fits⟩

/-! ### Bounded lifetimes -/

/-- The client took the callback of an accepted call within the lifetime of the call. -/
def CompletedInTime (cfg : Config) (δ : ℕ) (s : State) : Prop :=
  ∀ c ∈ s.takenCallbacks, c.cause ≠ .rejected → ∃ a accepted,
    acceptedCall s.trace c.requestId = some a ∧ acceptedAt s.trace c.requestId = some accepted ∧
      (0 < a.timeout → c.time ≤ accepted + cfg.lifetime δ a)

theorem acceptedAt_of_acceptedCall {trace : List Event} {a : CallArgs}
    (h : acceptedCall trace id = some a) : ∃ accepted, acceptedAt trace id = some accepted := by
  induction trace with
  | nil => cases h
  | cons e trace ih =>
    cases e with
    | requestSent conn id' b frame time =>
      simp only [acceptedCall, acceptedAt] at h ⊢
      split_ifs at h ⊢
      · exact ⟨time, rfl⟩
      · exact ih h
    | _ => exact ih h

/-- An id is accepted once. -/
theorem Transition.accepted_of_known (ht : Transition cfg proper network s s') (hledger : Ledger s)
    (hknown : s.Known id) : acceptedCall s'.trace id = acceptedCall s.trace id ∧
      acceptedAt s'.trace id = acceptedAt s.trace id := by
  cases ht with
  | @accept id' a calling conn hcalling =>
    have hne : id' ≠ id := by
      rintro rfl
      exact hledger.not_known_of_calling (hcalling ▸ List.mem_cons_self) hknown
    simp only [acceptedCall, acceptedAt, if_neg hne, and_self]
  | _ => exact ⟨rfl, rfl⟩

/-- What was accepted is pending or its callback was taken. -/
theorem known_of_accepted (h : (machine cfg).Reachable s) {a : CallArgs}
    (ha : acceptedCall s.trace id = some a) : s.Known id := by
  refine invariant (P := fun s => ∀ id a, acceptedCall s.trace id = some a → s.Known id)
    (fun _ _ h => by cases h) (fun s s' hold ht id a ha => ?_) h id a ha
  have hkept : acceptedCall s.trace id = some a → s'.Known id := fun ha => ht.known (hold id a ha)
  cases ht with
  | accept =>
    simp only [acceptedCall] at ha
    split_ifs at ha with hid
    · exact .inl (Finmap.mem_insert.mpr (.inl hid.symm))
    · exact hkept ha
  | _ => exact hkept ha

/-- A callback that is not of a rejected call is that of a pending request. -/
theorem Takes.pending {c : Completion} (h : Takes s s' c) (hcause : c.cause ≠ .rejected) :
    ∃ p, s.pendingRequests_.lookup c.requestId = some p ∧ c.time = s.now := by
  cases h with
  | reject => exact absurd rfl hcause
  | lose _ _ hp | respond _ hp | cancel hp | timeOut _ _ hp | exhaust hp | resendFailed _ hp =>
    exact ⟨_, hp, rfl⟩

theorem CompletedInTime.step (h : CompletedInTime cfg δ s) (hinTime : InTime cfg δ s)
    (hledger : Ledger s) (htimers : Timers s) (hbudget : Budget cfg s)
    (ht : Transition cfg proper network s s') : CompletedInTime cfg δ s' := by
  intro c hc hcause
  rcases ht.mem_takenCallbacks hc with hold | hnew
  · obtain ⟨hcall, hat⟩ := ht.accepted_of_known hledger (.inr (State.taken_pos hold))
    rw [hcall, hat]
    exact h c hold hcause
  · obtain ⟨p, hp, htime⟩ := hnew.pending hcause
    obtain ⟨hcall, hat⟩ := ht.accepted_of_known hledger (.inl (Finmap.mem_of_lookup_eq_some hp))
    obtain ⟨a, ha, hbalanced⟩ := hbudget.pending _ p hp
    obtain ⟨accepted, haccepted⟩ := acceptedAt_of_acceptedCall ha
    refine ⟨a, accepted, hcall.trans ha, hat.trans haccepted, fun hpos => ?_⟩
    obtain ⟨b, accepted', hb, haccepted', hle⟩ :=
      hinTime.spend htimers hp (hbalanced.serves.requestTimeout ▸ hpos)
    obtain rfl : a = b := Option.some.inj (ha.symm.trans hb)
    obtain rfl : accepted = accepted' := Option.some.inj (haccepted.symm.trans haccepted')
    rw [htime]
    omega

/-- What holds of a run in which no timer is more than `δ` late. -/
structure ServedInTime (cfg : Config) (δ : ℕ) (s : State) : Prop where
  /-- A pending request with a timeout is within the lifetime of its call. -/
  pending : ∀ id p, s.pendingRequests_.lookup id = some p → 0 < p.requestTimeout →
    ∃ a accepted, acceptedCall s.trace id = some a ∧ acceptedAt s.trace id = some accepted ∧
      s.now ≤ accepted + cfg.lifetime δ a
  completed : CompletedInTime cfg δ s
  /-- After its lifetime a call with a timeout is over: it is not pending, and its callback was
  taken, once. -/
  ended : ∀ id a accepted, acceptedCall s.trace id = some a →
    acceptedAt s.trace id = some accepted → 0 < a.timeout → accepted + cfg.lifetime δ a < s.now →
      id ∉ s.pendingRequests_ ∧ s.taken id = 1

/-- **Bounded lifetimes.** When the loop runs every timer at most `δ` late, a call with a timeout is
over within its lifetime, whatever connections are lost and whatever the user code does. -/
theorem servedInTime_of_reachable (h : (machine cfg).ReachableBy (Timely δ) s)
    (hcalls : s.nextRequestId_ ≤ 2 ^ 64) : ServedInTime cfg δ s := by
  obtain ⟨⟨hledger, htimers⟩, ⟨_, hbudget⟩, hinTime, hcompleted⟩ := invariant_of_clock
    (P := fun s => (Ledger s ∧ Timers s) ∧ (Phases s ∧ Budget cfg s) ∧
      InTime cfg δ s ∧ CompletedInTime cfg δ s)
    ⟨⟨ledger_init, timers_init⟩, ⟨phases_init, budget_init⟩, inTime_init,
      fun _ hc => absurd hc List.not_mem_nil⟩
    (fun s d hP hbound honTime => by
      obtain ⟨⟨hledger, htimers⟩, ⟨hphases, hbudget⟩, hinTime, hcompleted⟩ := hP
      have ht : Transition cfg False True s { s with loop_ := s.loop_.tick d } := .tick d
      exact ⟨⟨hledger.step hbound ht, htimers.step hledger ht⟩,
        ⟨hphases.step ht, hbudget.step hphases ht⟩, ⟨honTime, hinTime.fits⟩, hcompleted⟩)
    (fun s s' hP hbound hnow ht => by
      obtain ⟨⟨hledger, htimers⟩, ⟨hphases, hbudget⟩, hinTime, hcompleted⟩ := hP
      exact ⟨⟨hledger.step hbound ht, htimers.step hledger ht⟩,
        ⟨hphases.step ht, hbudget.step hphases ht⟩,
        hinTime.step hledger hphases htimers hnow ht,
        hcompleted.step hinTime hledger htimers hbudget ht⟩) h hcalls
  have hpending : ∀ id p, s.pendingRequests_.lookup id = some p → 0 < p.requestTimeout →
      ∃ a accepted, acceptedCall s.trace id = some a ∧ acceptedAt s.trace id = some accepted ∧
        s.now ≤ accepted + cfg.lifetime δ a := by
    intro id p hp hpos
    obtain ⟨a, accepted, ha, hat, hle⟩ := hinTime.spend htimers hp hpos
    exact ⟨a, accepted, ha, hat, by omega⟩
  refine ⟨hpending, hcompleted, fun id a accepted ha hat hpos hlate => ?_⟩
  have hnot : id ∉ s.pendingRequests_ := by
    intro hmem
    obtain ⟨p, hp⟩ := Finmap.mem_iff.mp hmem
    obtain ⟨b, hb, hbalanced⟩ := hbudget.pending id p hp
    obtain rfl : a = b := Option.some.inj (ha.symm.trans hb)
    obtain ⟨b, accepted', hb, hat', hle⟩ :=
      hpending id p hp (hbalanced.serves.requestTimeout ▸ hpos)
    obtain rfl : a = b := Option.some.inj (ha.symm.trans hb)
    obtain rfl : accepted = accepted' := Option.some.inj (hat.symm.trans hat')
    omega
  have htaken := (known_of_accepted h.reachable ha).resolve_left hnot
  exact ⟨hnot, Nat.le_antisymm (hledger.taken_le_one id) htaken⟩

/-- A call that takes its whole lifetime, so that the bound is attained: the connection is lost when the request timer is due, the
next one comes up when the wait for it is due, and the call times out on it. -/
theorem servedInTime_of_reachable_resent :
    let a : CallArgs := ⟨text "s", text "m", text "p", ⟨7⟩, 5, true, 3, none⟩
    let s := (machine .default).afterBy (Timely 0) [.connectionUp, .leaveUser, .resume [],
      .resume [], .enterUser, .call a, .leaveUser, .tick 5, .connectionDown [1], .resume [],
      .resume [], .leaveUser, .tick 3, .connectionUp, .leaveUser, .resume [1], .resume [],
      .resume [], .tick 5, .fireTimer 2]
    (∃ accepted, acceptedAt s.trace 1 = some accepted ∧
      s.takenCallbacks.map (fun c => (c.requestId, c.time)) =
        [(1, accepted + Config.default.lifetime 0 a)]) ∧
      ServedInTime .default 0 s :=
  ⟨⟨0, by decide +kernel, by decide +kernel⟩,
    servedInTime_of_reachable (Machine.reachableBy_afterBy _) (by decide +kernel)⟩

end MiniRpc.RpcClient
