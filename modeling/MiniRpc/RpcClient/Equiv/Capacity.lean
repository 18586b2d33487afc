import MiniRpc.RpcClient.Equiv.Completions
import MiniRpc.RpcClient.Equiv.Ledger

/-!
# The capacity of a client

A call that is accepted takes a slot, and the slot is free again when the callback of the request
is taken (`Releases`): no other transition makes a request pending
(`Transition.releases_or_accepts`).  So the limit is never exceeded, a connected client refuses a
call for capacity only when the limit is reached (`callInLoop_connected`), and there is room again
in the callback of a request that was completed (`CapacityRespected.room`).
-/

namespace MiniRpc.RpcClient

variable {cfg : Config} {proper network : Prop} {s s' s'' : State} {id : UInt64} {a : CallArgs}

/-! ### Slots -/

/-- `callInLoop` accepted a call with this id. -/
def Event.accepts (id : UInt64) : Event → Bool
  | .requestSent _ requestId _ _ _ => requestId == id
  | _ => false

namespace State

/-- How many calls with this id were accepted. -/
def accepted (s : State) (id : UInt64) : ℕ := s.trace.countP (Event.accepts id)

/-- How many callbacks of accepted calls with this id were taken. -/
def released (s : State) (id : UInt64) : ℕ :=
  s.takenCallbacks.countP fun c => c.requestId == id && c.cause != .rejected

/-- The accepted calls with this id that are pending or whose callback was taken. -/
def slots (s : State) (id : UInt64) : ℕ :=
  (if id ∈ s.pendingRequests_ then 1 else 0) + s.released id

end State

/-- No call is accepted: a pending request stays pending or its callback is taken. -/
structure Releases (s s' : State) : Prop where
  pending : ∀ id ∈ s'.pendingRequests_, id ∈ s.pendingRequests_
  slots : ∀ id, s'.slots id ≤ s.slots id

theorem Releases.refl (s : State) : Releases s s := ⟨fun _ h => h, fun _ => Nat.le_refl _⟩

theorem Releases.trans (h : Releases s s') (h' : Releases s' s'') : Releases s s'' where
  pending id hmem := h.pending id (h'.pending id hmem)
  slots id := (h'.slots id).trans (h.slots id)

theorem Releases.card_le (h : Releases s s') :
    s'.pendingRequests_.keys.card ≤ s.pendingRequests_.keys.card := by
  apply Finset.card_le_card
  intro id hmem
  rw [Finmap.mem_keys] at hmem ⊢
  exact h.pending id hmem

/-- No callback of an accepted call is taken. -/
theorem Releases.of_perm (hpending : ∀ id ∈ s'.pendingRequests_, id ∈ s.pendingRequests_)
    (htaken : s'.takenCallbacks.Perm s.takenCallbacks) : Releases s s' := by
  refine ⟨hpending, fun id => ?_⟩
  have hreleased : s'.released id = s.released id := htaken.countP_eq _
  have hmem := hpending id
  simp only [State.slots, hreleased]
  split_ifs with hnew hold
  · exact Nat.le_refl _
  · exact absurd (hmem hnew) hold
  · omega
  · exact Nat.le_refl _

/-- The callback of a call that is rejected. -/
theorem Releases.of_rejected {c : Completion} (hc : c.cause = .rejected)
    (hpending : s'.pendingRequests_ = s.pendingRequests_)
    (htaken : s'.takenCallbacks.Perm (c :: s.takenCallbacks)) : Releases s s' := by
  have hreleased : ∀ id, s'.released id = s.released id := by
    intro id
    refine (htaken.countP_eq _).trans (List.countP_cons_of_neg ?_)
    simp [hc]
  refine ⟨fun id hmem => hpending ▸ hmem, fun id => ?_⟩
  rw [State.slots, State.slots, hpending, hreleased]

/-- The callback of a pending request. -/
theorem Releases.of_completed {c : Completion} (hmem : c.requestId ∈ s.pendingRequests_)
    (hpending : s'.pendingRequests_ = s.pendingRequests_.erase c.requestId)
    (htaken : s'.takenCallbacks.Perm (c :: s.takenCallbacks)) : Releases s s' := by
  refine ⟨fun id h => ?_, fun id => ?_⟩
  · rw [hpending] at h
    exact (Finmap.mem_erase.mp h).2
  · have hreleased : s'.released id ≤ s.released id + if c.requestId = id then 1 else 0 := by
      unfold State.released
      rw [htaken.countP_eq, List.countP_cons]
      by_cases heq : c.requestId = id
      · rw [if_pos heq]
        split_ifs <;> omega
      · rw [if_neg heq, if_neg (by simp [heq])]
    simp only [State.slots, hpending, Finmap.mem_erase]
    by_cases heq : c.requestId = id
    · subst heq
      simp only [ne_eq, not_true_eq_false, false_and, if_false, hmem, if_true] at hreleased ⊢
      omega
    · have hne : id ≠ c.requestId := fun he => heq he.symm
      simp only [ne_eq, hne, not_false_eq_true, true_and, if_neg heq] at hreleased ⊢
      omega

/-- What a transition that accepts a call does. -/
structure Accepts (cfg : Config) (s s' : State) : Prop where
  room : ∀ n ∈ cfg.maxPendingRequests_, s.pendingRequests_.keys.card < n
  entry : ∃ id p, s'.pendingRequests_ = s.pendingRequests_.insert id p ∧
    ∃ conn a frame time, s'.trace = .requestSent conn id a frame time :: s.trace ∧
      RpcRequest.OutputMessageLen a.service.length a.method.length a.payload.length ≤
        cfg.effectiveMaxMessageSize
  stack : s'.stack = s.stack

/-- Only an accepted call makes a request pending. -/
theorem Transition.pending_subset_or_accepts (ht : Transition cfg proper network s s') :
    (∀ id ∈ s'.pendingRequests_, id ∈ s.pendingRequests_) ∨ Accepts cfg s s' := by
  cases ht with
  | accept hcalling hstatus hconn hlen hmax =>
    exact .inr ⟨hmax, ⟨_, _, rfl, _, _, _, _, rfl, hlen⟩, rfl⟩
  | startWait _ hp | rearm _ _ hp | resend _ _ hp =>
    exact .inl fun id hmem => (mem_insert_of_lookup hp id).mp hmem
  | lose | respond | cancel | timeOut | exhaust | resendFailed =>
    exact .inl fun id hmem => (Finmap.mem_erase.mp hmem).2
  | _ => exact .inl fun _ hmem => hmem

/-- A transition accepts a call, or no slot is taken. -/
theorem Transition.releases_or_accepts (ht : Transition cfg proper network s s') :
    Releases s s' ∨ Accepts cfg s s' := by
  rcases ht.pending_subset_or_accepts with hsubset | haccepts
  · left
    rcases ht.taken_cases with hperm | ⟨c, htakes⟩
    · exact .of_perm hsubset hperm
    · rcases htakes.pending with ⟨hrejected, hsame⟩ | ⟨hmem, herase⟩
      · exact .of_rejected hrejected hsame htakes.perm
      · exact .of_completed hmem herase htakes.perm
  · exact .inr haccepts

/-! ### The limit -/

theorem card_le_of_accepts {n : ℕ} (h : Accepts cfg s s') (hn : n ∈ cfg.maxPendingRequests_) :
    s'.pendingRequests_.keys.card ≤ n := by
  obtain ⟨id, p, hpending, -⟩ := h.entry
  rw [hpending]
  exact (Finmap.card_keys_insert_le _ id p).trans (h.room n hn)

/-- The limit is never exceeded. -/
theorem card_le_of_reachable {n : ℕ} (hn : n ∈ cfg.maxPendingRequests_)
    (h : (machine cfg).Reachable s) : s.pendingRequests_.keys.card ≤ n := by
  apply invariant (P := fun s => s.pendingRequests_.keys.card ≤ n) _ _ h
  · exact Nat.zero_le n
  · intro s s' hle ht
    rcases ht.releases_or_accepts with hreleases | haccepts
    · exact hreleases.card_le.trans hle
    · exact card_le_of_accepts haccepts hn

/-- An accepted call is pending or its callback was taken, and not both. -/
theorem slots_le_of_reachable (h : (machine cfg).Reachable s) (id : UInt64) :
    s.slots id ≤ s.accepted id := by
  apply invariant (P := fun s => ∀ id, s.slots id ≤ s.accepted id) _ _ h
  · intro id
    exact Nat.le_refl 0
  · intro s s' hle ht id
    rcases ht.releases_or_accepts with hreleases | haccepts
    · exact (hreleases.slots id).trans ((hle id).trans ht.trace_suffix.sublist.countP_le)
    · obtain ⟨id', p, hpending, conn, a, frame, time, htrace, -⟩ := haccepts.entry
      have htaken : s'.released id = s.released id := by
        unfold State.released State.takenCallbacks State.held
        rw [haccepts.stack, htrace]
        rfl
      have haccepted : s'.accepted id = s.accepted id + if id' = id then 1 else 0 := by
        unfold State.accepted
        rw [htrace, List.countP_cons]
        simp only [Event.accepts, beq_iff_eq]
      have hold := hle id
      simp only [State.slots, hpending, Finmap.mem_insert, htaken, haccepted] at hold ⊢
      by_cases heq : id' = id
      · rw [if_pos heq]
        split_ifs at hold ⊢ <;> omega
      · have hne : id ≠ id' := fun he => heq he.symm
        simp only [hne, false_or, if_neg heq, Nat.add_zero]
        exact hold

/-! ### Calls -/

/-- The client is connected. -/
def Connected (s : State) : Prop := s.status_ = .kConnected ∧ s.connectedConn.isSome = true

/-- The request of the call is within the size limit. -/
def Fits (cfg : Config) (a : CallArgs) : Prop :=
  RpcRequest.OutputMessageLen a.service.length a.method.length a.payload.length ≤
    cfg.effectiveMaxMessageSize

/-- The call is refused for capacity: its callback is invoked next, with `RESOURCE_EXHAUSTED`. -/
def Refused (s s' : State) (id : UInt64) (a : CallArgs) : Prop :=
  s'.pendingRequests_ = s.pendingRequests_ ∧
    s'.stack = .callbacks
      [rejection s id a .RESOURCE_EXHAUSTED (text "too many pending requests")] :: s.stack

/-- The call is accepted: its request is pending. -/
def Accepted (s s' : State) (id : UInt64) (a : CallArgs) : Prop :=
  (∃ p, p.callback = a.cb ∧ s'.pendingRequests_ = s.pendingRequests_.insert id p) ∧
    s'.stack = s.stack

theorem not_refused_of_accepted (h : Accepted s s' id a) : ¬ Refused s s' id a := by
  rintro ⟨-, hstack⟩
  rw [h.2] at hstack
  exact List.cons_ne_self _ _ hstack.symm

/-- A connected client looks at the limit and at nothing else. -/
theorem callInLoop_connected (h : Connected s) (hfits : Fits cfg a) (id : UInt64) :
    if cfg.maxPendingRequests_.any fun n => decide (s.pendingRequests_.keys.card ≥ n) then
      Refused s (callInLoop cfg s id a) id a
    else Accepted s (callInLoop cfg s id a) id a := by
  obtain ⟨conn, hconn⟩ := Option.isSome_iff_exists.mp h.2
  have hencodable : (RpcRequest.mk id a.service a.method a.payload).Encodable :=
    RpcRequest.encodable_of_outputMessageLen (hfits.trans cfg.effectiveMaxMessageSize_le)
  unfold callInLoop
  rw [if_pos h.1, hconn]
  dsimp only
  rw [if_neg (not_lt.mpr hfits)]
  split
  · exact ⟨rfl, rfl⟩
  · simp only [RpcRequest.encode_eq hencodable]
    rw [if_neg (by simp), send_armRequestTimer s id (newPending cfg a) a.timeout rfl conn _
      (.requestSent conn id a _)]
    exact ⟨⟨_, rfl, rfl⟩, rfl⟩

/-- Whether the call is refused depends on the number of pending requests. -/
structure Decided (n : ℕ) (s s' : State) (id : UInt64) (a : CallArgs) : Prop where
  refused : Refused s s' id a ↔ s.pendingRequests_.keys.card = n
  accepted : Accepted s s' id a ↔ s.pendingRequests_.keys.card < n

theorem decided_callInLoop {n : ℕ} (hn : cfg.maxPendingRequests_ = some n)
    (hle : s.pendingRequests_.keys.card ≤ n) (h : Connected s) (hfits : Fits cfg a) (id : UInt64) :
    Decided n s (callInLoop cfg s id a) id a := by
  have hcall := callInLoop_connected h hfits id
  rw [hn, Option.any_some] at hcall
  by_cases hfull : s.pendingRequests_.keys.card ≥ n
  · rw [if_pos (decide_eq_true hfull)] at hcall
    constructor
    · exact iff_of_true hcall (Nat.le_antisymm hle hfull)
    · exact iff_of_false (fun haccepted => not_refused_of_accepted haccepted hcall)
        (not_lt.mpr hfull)
  · rw [if_neg (by simpa using hfull)] at hcall
    constructor
    · exact iff_of_false (not_refused_of_accepted hcall) (by omega)
    · exact iff_of_true hcall (not_le.mp hfull)

/-! ### Steps that execute no call -/

/-- The actions in which `callInLoop` may run.  While user code runs, `runTask` is not possible. -/
def Action.executesCall : Action → Bool
  | .call _ | .runTask => true
  | _ => false

/-- The same client with a size limit under which no request fits. -/
def Config.refusing (cfg : Config) : Config := { cfg with
  maxMessageSize_ := some 1
  maxMessageSize_bounds := by
    intro n hn
    obtain rfl := Option.some.inj hn
    decide }

theorem not_accepts_refusing : ¬ Accepts cfg.refusing s s' := by
  intro h
  obtain ⟨-, -, -, -, a, -, -, -, hlen⟩ := h.entry
  have hlen : RpcRequest.OutputMessageLen a.service.length a.method.length a.payload.length ≤ 1 :=
    hlen
  simp only [RpcRequest.OutputMessageLen, VERSION_LEN, REQUEST_TYPE_LEN] at hlen
  omega

theorem releases_of_steps (h : Steps cfg.refusing proper network s s') : Releases s s' := by
  apply Machine.preserved_of_chain (P := Releases s) _ h (.refl s)
  intro t t' ht htt
  rcases htt.releases_or_accepts with hreleases | haccepts
  · exact ht.trans hreleases
  · exact absurd haccepts not_accepts_refusing

/-- Only `callInLoop` and `onRpcMessage` look at the limits. -/
theorem step_refusing {b : Action} (hb : b.executesCall = false)
    (hmsg : ∀ msg, b ≠ .deliver msg) : step cfg.refusing s b = step cfg s b := by
  cases b with
  | call | runTask => cases hb
  | deliver msg => exact absurd rfl (hmsg msg)
  | _ => rfl

/-- A step that executes no call takes no slot: it is a step of a client that accepts none. -/
theorem releases_of_step {b : Action} (hb : b.executesCall = false)
    (h : step cfg s b = some s') : Releases s s' := by
  have hsteps : Steps cfg.refusing False True s s' := by
    cases b with
    | call | runTask => cases hb
    | deliver msg =>
      cases stepped_of_step h with
      | @deliver conn _ _ hcurrent =>
        rw [onRpcMessage_eq]
        cases validResponse? cfg msg with
        | none => exact .single (.forceClose conn)
        | some response => exact steps_onResponse hcurrent False.elim trivial
    | _ =>
      rw [← step_refusing rfl fun _ hmsg => by cases hmsg] at h
      exact steps_step False.elim (fun _ => trivial) h
  exact releases_of_steps hsteps

theorem releases_of_run {as : List Action} (hrun : (machine cfg).Run s as s')
    (has : ∀ b ∈ as, b.executesCall = false) : Releases s s' := by
  induction hrun with
  | nil => exact .refl _
  | cons hs _ ih =>
    apply (releases_of_step (has _ List.mem_cons_self) hs).trans
    apply ih
    intro b hb
    exact has b (List.mem_cons_of_mem _ hb)

/-! ### Completions -/

/-- In the step from `s` to `s'` the callback `c` is taken because its response has arrived, it
timed out or it was cancelled. -/
structure Completes (cfg : Config) (s : State) (b : Action) (c : Completion) (s' : State) :
    Prop where
  step : step cfg s b = some s'
  held : c ∈ s'.held
  new : c ∉ s.held
  cause : c.cause ∈ singleCauses

theorem Completes.stack {b : Action} {c : Completion} (h : Completes cfg s b c s') :
    s'.stack = .callbacks [c] :: s.stack :=
  stack_of_single h.step h.held h.new h.cause

theorem Completes.pending {b : Action} {c : Completion} (h : Completes cfg s b c s') :
    c.cause ≠ .rejected := by
  intro hrejected
  have hcause := h.cause
  rw [hrejected] at hcause
  exact absurd hcause (by decide)

theorem Completes.not_callInLoop {b : Action} {c : Completion} (h : Completes cfg s b c s')
    {t : State} (hstack : t.stack = s.stack) (id : UInt64) (a : CallArgs) :
    s' ≠ callInLoop cfg t id a := by
  rintro rfl
  have hcompletion := h.stack
  rcases stack_callInLoop cfg t id a with hsame | ⟨c', hc', hpushed⟩
  · rw [hsame, hstack] at hcompletion
    exact List.cons_ne_self _ _ hcompletion.symm
  · rw [hpushed, hstack] at hcompletion
    obtain ⟨hframe, -⟩ := List.cons.inj hcompletion
    obtain ⟨rfl, -⟩ := List.cons.inj (Frame.callbacks.inj hframe)
    exact h.pending hc'

theorem Completes.releases {b : Action} {c : Completion} (h : Completes cfg s b c s') :
    Releases s s' := by
  by_cases hb : b.executesCall = false
  · exact releases_of_step hb h.step
  · cases stepped_of_step h.step with
    | @call a => exact absurd rfl (h.not_callInLoop (t := (fetchRequestId s a).2) rfl _ a)
    | @runTask task tasks _ htasks =>
      cases task with
      | callInLoop id a =>
        exact absurd rfl (h.not_callInLoop
          (t := { s with loop_ := s.loop_.setTasks tasks }) rfl id a)
      | cancelInLoop id =>
        have hsteps : Steps cfg.refusing False True s
            (cancelInLoop { s with loop_ := s.loop_.setTasks tasks } id) :=
          .head (.dequeueCancel htasks) (steps_cancelInLoop False.elim)
        exact releases_of_steps hsteps
    | _ => exact absurd rfl hb

/-- The request was pending and is not any more. -/
theorem Completes.erased {b : Action} {c : Completion} (h : Completes cfg s b c s') :
    c.requestId ∈ s.pendingRequests_ ∧ c.requestId ∉ s'.pendingRequests_ := by
  have hslots := h.releases.slots c.requestId
  have htrace : s.trace <:+ s'.trace := by
    have hsteps : Steps cfg False True s s' := steps_step False.elim (fun _ => trivial) h.step
    apply Machine.preserved_of_chain (P := fun t => s.trace <:+ t.trace) _ hsteps List.suffix_rfl
    intro t t' hsuffix ht
    exact hsuffix.trans ht.trace_suffix
  have hreleased : s.released c.requestId + 1 ≤ s'.released c.requestId := by
    have hcount := (htrace.filterMap Event.invocation?).sublist.countP_le
      (p := fun d => d.requestId == c.requestId && d.cause != .rejected)
    have hheld : s'.held = c :: s.held := by
      unfold State.held
      rw [h.stack]
      rfl
    unfold State.released State.takenCallbacks
    rw [hheld, List.countP_append, List.countP_append, List.countP_cons,
      if_pos (by simp [h.pending])]
    omega
  simp only [State.slots] at hslots
  split_ifs at hslots with hnew hold hold
  · omega
  · omega
  · exact ⟨hold, hnew⟩
  · omega

theorem Completes.card_lt {b : Action} {c : Completion} (h : Completes cfg s b c s') :
    s'.pendingRequests_.keys.card < s.pendingRequests_.keys.card := by
  obtain ⟨hmem, hnot⟩ := h.erased
  apply Finset.card_lt_card
  rw [Finset.ssubset_iff_of_subset]
  · exact ⟨c.requestId, Finmap.mem_keys.mpr hmem, fun h => hnot (Finmap.mem_keys.mp h)⟩
  · intro id hid
    rw [Finmap.mem_keys] at hid ⊢
    exact h.releases.pending id hid

/-! ### Every run -/

/-- What a limit of `n` pending requests means in a state. -/
structure CapacityRespected (cfg : Config) (n : ℕ) (s : State) : Prop where
  /-- There are at most `n` pending requests. -/
  bounded : s.pendingRequests_.keys.card ≤ n
  /-- A call of user code while connected is refused exactly if `n` requests are pending. -/
  call : ∀ a s', step cfg s (.call a) = some s' → Connected s → Fits cfg a →
    Decided n s s' (UInt64.ofNat s.nextRequestId_) a
  /-- So is a call of another thread that the loop executes while connected. -/
  runTask : ∀ id a tasks s', s.loop_.tasks = .callInLoop id a :: tasks →
    step cfg s .runTask = some s' → Connected s → Fits cfg a → Decided n s s' id a
  /-- A request whose callback was taken does not count: an entry under its id belongs to another
  accepted call, and there is none unless the 64-bit ids have started over. -/
  gone : ∀ c ∈ s.takenCallbacks, c.cause ≠ .rejected → c.requestId ∈ s.pendingRequests_ →
    2 ≤ s.accepted c.requestId
  /-- After a single completion the request is gone and there is room for a call, so the first call
  that is made while connected is accepted.  Its callback is the next thing that runs. -/
  room : ∀ b c s', Completes cfg s b c s' → s'.stack = .callbacks [c] :: s.stack ∧
    ∀ as t, (machine cfg).Run s' as t → (∀ b ∈ as, b.executesCall = false) →
      c.requestId ∉ t.pendingRequests_ ∧ t.pendingRequests_.keys.card < n ∧
        ∀ a t', step cfg t (.call a) = some t' → Connected t → Fits cfg a →
          Accepted t t' (UInt64.ofNat t.nextRequestId_) a

theorem decided_of_call {n : ℕ} (hn : cfg.maxPendingRequests_ = some n)
    (hle : s.pendingRequests_.keys.card ≤ n) (h : step cfg s (.call a) = some s')
    (hconnected : Connected s) (hfits : Fits cfg a) :
    Decided n s s' (UInt64.ofNat s.nextRequestId_) a := by
  cases stepped_of_step h with
  | call =>
    have hdecided := decided_callInLoop (s := (fetchRequestId s a).2) hn hle hconnected hfits
      (UInt64.ofNat s.nextRequestId_)
    exact ⟨hdecided.refused, hdecided.accepted⟩

/-- **The capacity is respected, and promptly released.** -/
theorem capacityRespected_of_reachable {n : ℕ} (hn : cfg.maxPendingRequests_ = some n)
    (h : (machine cfg).Reachable s) : CapacityRespected cfg n s := by
  have hle := card_le_of_reachable hn h
  constructor
  · exact hle
  · intro a s' hs hconnected hfits
    exact decided_of_call hn hle hs hconnected hfits
  · intro id a tasks s' htasks hs hconnected hfits
    cases stepped_of_step hs with
    | runTask _ htasks' =>
      obtain ⟨rfl, rfl⟩ := List.cons.inj (htasks.symm.trans htasks')
      have hdecided := decided_callInLoop (s := { s with loop_ := s.loop_.setTasks tasks }) hn hle
        hconnected hfits id
      exact ⟨hdecided.refused, hdecided.accepted⟩
  · intro c hc hcause hmem
    have hslots := slots_le_of_reachable h c.requestId
    have hreleased : 0 < s.released c.requestId :=
      List.countP_pos_iff.mpr ⟨c, hc, by simp [hcause]⟩
    rw [State.slots, if_pos hmem] at hslots
    omega
  · intro b c s' hcompletes
    refine ⟨hcompletes.stack, fun as t hrun has => ?_⟩
    have hreleases := releases_of_run hrun has
    have hlt : t.pendingRequests_.keys.card < n :=
      hreleases.card_le.trans_lt (hcompletes.card_lt.trans_le hle)
    refine ⟨fun hmem => hcompletes.erased.2 (hreleases.pending _ hmem), hlt, ?_⟩
    intro a t' hs hconnected hfits
    exact (decided_of_call hn hlt.le hs hconnected hfits).accepted.mpr hlt

theorem pos_of_limited : ∀ n ∈ some 1, 0 < n := by
  intro n hn
  obtain rfl := Option.some.inj hn
  decide

/-- The default configuration with a limit of one pending request. -/
def limited : Config := { Config.default with
  maxPendingRequests_ := some 1
  maxPendingRequests_pos := pos_of_limited }

/-- A client whose only slot is taken. -/
theorem capacityRespected_of_reachable_full :
    ((machine limited).after [.connectionUp,
      .call ⟨text "s", text "m", [], ⟨7⟩, 0, false, 0, none⟩]).pendingRequests_.keys.card = 1 ∧
    CapacityRespected limited 1 ((machine limited).after [.connectionUp,
      .call ⟨text "s", text "m", [], ⟨7⟩, 0, false, 0, none⟩]) :=
  ⟨by decide, capacityRespected_of_reachable rfl (Machine.reachable_after _)⟩

end MiniRpc.RpcClient
