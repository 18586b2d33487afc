import MiniRpc.RpcClient.Equiv.Ledger
import MiniRpc.RpcClient.Equiv.Phase

/-!
# The resend budget

`acceptedCall`, `resends`, `expiredWaits` and `sentFrames` read from the trace what happened to an
id since the last call accepted under it.  `Budget` says that the remaining resends of a pending
request, its resends and its expired waits add up to the limit of the call, and that the frames sent
for a call are all the same.
-/

namespace MiniRpc.RpcClient

variable {cfg : Config} {proper network : Prop} {s s' : State} {id : UInt64} {p : PendingRequest}

/-- The last call accepted under the id. -/
def acceptedCall : List Event → UInt64 → Option CallArgs
  | [], _ => none
  | .requestSent _ requestId a _ _ :: trace, id =>
    if requestId = id then some a else acceptedCall trace id
  | _ :: trace, id => acceptedCall trace id

/-- How often the call was resent by `checkReconnect`. -/
def resends : List Event → UInt64 → ℕ
  | [], _ => 0
  | .requestSent _ requestId _ _ _ :: trace, id => if requestId = id then 0 else resends trace id
  | .requestResent _ requestId _ _ :: trace, id =>
    if requestId = id then resends trace id + 1 else resends trace id
  | _ :: trace, id => resends trace id

/-- How many of its waits for a reconnect expired. -/
def expiredWaits : List Event → UInt64 → ℕ
  | [], _ => 0
  | .requestSent _ requestId _ _ _ :: trace, id =>
    if requestId = id then 0 else expiredWaits trace id
  | .waitExpired requestId _ :: trace, id =>
    if requestId = id then expiredWaits trace id + 1 else expiredWaits trace id
  | _ :: trace, id => expiredWaits trace id

/-- The request frames sent for the call over all connections, the latest first. -/
def sentFrames : List Event → UInt64 → List Bytes
  | [], _ => []
  | .requestSent _ requestId _ frame _ :: trace, id =>
    if requestId = id then [frame] else sentFrames trace id
  | .requestResent _ requestId frame _ :: trace, id =>
    if requestId = id then frame :: sentFrames trace id else sentFrames trace id
  | _ :: trace, id => sentFrames trace id

/-- The frame of a call: the encoding of its arguments under its id. -/
def callFrame (id : UInt64) (a : CallArgs) : Bytes :=
  (RpcRequest.mk id a.service a.method a.payload).fields.flatten

/-- The entry belongs to the call; only its phase, its remaining resends and its timer change. -/
def PendingRequest.Serves (cfg : Config) (a : CallArgs) (p : PendingRequest) : Prop :=
  p = { newPending cfg a with
    phase := p.phase, remainingResends := p.remainingResends, timerId := p.timerId }

/-- What was spent for a call. -/
structure Spent (cfg : Config) (id : UInt64) (a : CallArgs) (resends expiredWaits : ℕ)
    (frames : List Bytes) : Prop where
  le_limit : resends + expiredWaits ≤ (cfg.resendLimit a).toNat
  frames : frames = List.replicate (resends + 1) (callFrame id a)
  not_allowed : a.allowReconnect = false → resends = 0 ∧ expiredWaits = 0

/-- The remaining resends, the resends and the expired waits add up to the limit of the call. -/
structure Balanced (cfg : Config) (p : PendingRequest) (a : CallArgs)
    (resends expiredWaits : ℕ) : Prop where
  serves : p.Serves cfg a
  budget : p.remainingResends.toNat + resends + expiredWaits = (cfg.resendLimit a).toNat

/-- The budget of every call. -/
structure Budget (cfg : Config) (s : State) : Prop where
  spent : ∀ id a, acceptedCall s.trace id = some a →
    Spent cfg id a (resends s.trace id) (expiredWaits s.trace id) (sentFrames s.trace id)
  pending : ∀ id p, s.pendingRequests_.lookup id = some p → ∃ a,
    acceptedCall s.trace id = some a ∧
      Balanced cfg p a (resends s.trace id) (expiredWaits s.trace id)

theorem budget_init : Budget cfg .init where
  spent _ _ h := by cases h
  pending id _ h := by cases (Finmap.lookup_empty id).symm.trans h

theorem PendingRequest.Serves.frame {a : CallArgs} (h : p.Serves cfg a) (id : UInt64) :
    requestFrame id p = callFrame id a := by
  unfold PendingRequest.Serves at h
  rw [h]
  rfl

theorem PendingRequest.Serves.update {a : CallArgs} (h : p.Serves cfg a) (phase : RequestPhase)
    (remainingResends : UInt8) (timerId : Option TimerId) :
    PendingRequest.Serves cfg a
      { p with phase := phase, remainingResends := remainingResends, timerId := timerId } := by
  unfold PendingRequest.Serves at h ⊢
  rw [h]

theorem PendingRequest.Serves.allowReconnect {a : CallArgs} (h : p.Serves cfg a)
    (hallow : p.allowReconnect = true) : a.allowReconnect = true := by
  unfold PendingRequest.Serves at h
  rw [h] at hallow
  exact (Bool.and_eq_true_iff.mp hallow).1

/-- The counter does not wrap. -/
theorem toNat_sub_one {n : UInt8} (h : n ≠ 0) : (n - 1).toNat + 1 = n.toNat := by
  have hpos : (1 : UInt8).toNat ≤ n.toNat := Nat.pos_of_ne_zero fun hz => h (UInt8.toNat_inj.mp hz)
  rw [UInt8.toNat_sub_of_le _ _ (UInt8.le_iff_toNat_le.mpr hpos)]
  exact Nat.sub_add_cancel hpos

theorem Budget.pending_erase (h : Budget cfg s) (id' : UInt64) (id : UInt64) (p : PendingRequest)
    (hp : (s.pendingRequests_.erase id').lookup id = some p) :
    ∃ a, acceptedCall s.trace id = some a ∧
      Balanced cfg p a (resends s.trace id) (expiredWaits s.trace id) :=
  h.pending id p (Finmap.lookup_erase_eq_some.mp hp).2

/-- A wait for a reconnect expires. -/
theorem Budget.spent_waitExpired (h : Budget cfg s) (hphases : Phases s)
    (hp : s.pendingRequests_.lookup id = some p) (hphase : p.phase = .kWaitingReconnect)
    (time : ℕ) (id' : UInt64) (a : CallArgs) (ha : acceptedCall s.trace id' = some a) :
    Spent cfg id' a (resends s.trace id') (expiredWaits (.waitExpired id time :: s.trace) id')
      (sentFrames s.trace id') := by
  have hold := h.spent id' a ha
  by_cases hid : id = id'
  · subst hid
    obtain ⟨b, haccepted, hb⟩ := h.pending id p hp
    obtain rfl : b = a := Option.some.inj (haccepted.symm.trans ha)
    obtain ⟨hallow, hremaining⟩ := (hphases.entries id p hp).waiting hphase
    have hbudget := hb.budget
    have hpos := toNat_sub_one hremaining
    refine ⟨?_, hold.frames, fun hnot => ?_⟩
    · simp only [expiredWaits, if_true]
      omega
    · cases (hb.serves.allowReconnect hallow).symm.trans hnot
  · refine ⟨?_, hold.frames, ?_⟩
    · simp only [expiredWaits, if_neg hid]
      exact hold.le_limit
    · simp only [expiredWaits, if_neg hid]
      exact hold.not_allowed

/-- Another request keeps its balance when a wait for a reconnect expires. -/
theorem Budget.pending_waitExpired (h : Budget cfg s) {id' : UInt64} (hne : id' ≠ id)
    (hp : s.pendingRequests_.lookup id' = some p) (time : ℕ) :
    ∃ a, acceptedCall s.trace id' = some a ∧
      Balanced cfg p a (resends s.trace id')
        (expiredWaits (.waitExpired id time :: s.trace) id') := by
  have hne : id ≠ id' := fun he => hne he.symm
  simp only [expiredWaits, if_neg hne]
  exact h.pending id' p hp

theorem Budget.accept (h : Budget cfg s) (conn : ConnId) (id : UInt64) (a : CallArgs) (time : ℕ)
    (id' : UInt64) (b : CallArgs)
    (hb : acceptedCall (.requestSent conn id a (callFrame id a) time :: s.trace) id' = some b) :
    Spent cfg id' b (resends (.requestSent conn id a (callFrame id a) time :: s.trace) id')
      (expiredWaits (.requestSent conn id a (callFrame id a) time :: s.trace) id')
      (sentFrames (.requestSent conn id a (callFrame id a) time :: s.trace) id') := by
  simp only [acceptedCall, resends, expiredWaits, sentFrames] at hb ⊢
  split_ifs at hb ⊢ with hid
  · obtain rfl := Option.some.inj hb
    subst hid
    exact ⟨Nat.zero_le _, rfl, fun _ => ⟨rfl, rfl⟩⟩
  · exact h.spent id' b hb

theorem Budget.step (h : Budget cfg s) (hphases : Phases s)
    (ht : Transition cfg proper network s s') : Budget cfg s' := by
  cases ht with
  | @accept id a calling conn hcalling hstatus hconn hlen hmax =>
    refine ⟨h.accept conn id a s.now, fun id' p hp => ?_⟩
    simp only [acceptedCall, resends, expiredWaits]
    rcases Finmap.lookup_insert_eq_some.mp hp with ⟨rfl, rfl⟩ | ⟨hne, hold⟩
    · rw [if_pos rfl, if_pos rfl, if_pos rfl]
      exact ⟨a, rfl, rfl, by simp only [newPending, Nat.add_zero]⟩
    · have hne : id ≠ id' := fun he => hne he.symm
      simp only [if_neg hne]
      exact h.pending id' p hold
  | lose | respond | cancel | timeOut | resendFailed =>
    exact ⟨h.spent, h.pending_erase _⟩
  | @exhaust id p t deadline ht hdue hp hphase hlast =>
    refine ⟨h.spent_waitExpired hphases hp hphase s.now, fun id' p' hp' => ?_⟩
    obtain ⟨hne, hold⟩ := Finmap.lookup_erase_eq_some.mp hp'
    exact h.pending_waitExpired hne hold s.now
  | @startWait id p hconn hp hphase hallow hremaining =>
    refine ⟨h.spent, fun id' p' hp' => ?_⟩
    rcases Finmap.lookup_insert_eq_some.mp hp' with ⟨rfl, rfl⟩ | ⟨hne, hold⟩
    · obtain ⟨b, haccepted, hb⟩ := h.pending _ p hp
      exact ⟨b, haccepted, hb.serves.update _ _ _, hb.budget⟩
    · exact h.pending id' p' hold
  | @rearm id p t deadline ht hdue hp hphase hmore =>
    refine ⟨h.spent_waitExpired hphases hp hphase s.now, fun id' p' hp' => ?_⟩
    rcases Finmap.lookup_insert_eq_some.mp hp' with ⟨rfl, rfl⟩ | ⟨hne, hold⟩
    · obtain ⟨b, haccepted, hb⟩ := h.pending _ p hp
      have hpos := toNat_sub_one ((hphases.entries _ p hp).waiting hphase).2
      have hbudget := hb.budget
      refine ⟨b, haccepted, hb.serves.update _ _ _, ?_⟩
      simp only [rearmedEntry, resends, expiredWaits, if_true]
      omega
    · exact h.pending_waitExpired hne hold s.now
  | @resend conn c id waiting rest p hstack hc hp hphase henc =>
    obtain ⟨b, haccepted, hb⟩ := h.pending id p hp
    obtain ⟨hallow, hremaining⟩ := (hphases.entries id p hp).waiting hphase
    have hpos := toNat_sub_one hremaining
    have hbudget := hb.budget
    refine ⟨fun id' a ha => ?_, fun id' p' hp' => ?_⟩
    · have hold := h.spent id' a ha
      simp only [resends, expiredWaits, sentFrames]
      split_ifs with hid
      · subst hid
        obtain rfl : b = a := Option.some.inj (haccepted.symm.trans ha)
        refine ⟨by omega, ?_, fun hnot => ?_⟩
        · rw [hold.frames, hb.serves.frame]
          rfl
        · cases (hb.serves.allowReconnect hallow).symm.trans hnot
      · exact hold
    · simp only [acceptedCall, resends, expiredWaits]
      rcases Finmap.lookup_insert_eq_some.mp hp' with ⟨rfl, rfl⟩ | ⟨hne, hold⟩
      · refine ⟨b, haccepted, hb.serves.update _ _ _, ?_⟩
        simp only [resentEntry, if_true]
        omega
      · have hne : id ≠ id' := fun he => hne he.symm
        simp only [if_neg hne]
        exact h.pending id' p' hold
  | _ => exact ⟨h.spent, h.pending⟩

/-- An accepted call is one of the calls. -/
theorem accepted_mem_calls (h : (machine cfg).Reachable s) {a : CallArgs}
    (ha : acceptedCall s.trace id = some a) : (id, a) ∈ s.calls := by
  refine (invariant (P := fun s => Provenance s ∧
    ∀ id a, acceptedCall s.trace id = some a → (id, a) ∈ s.calls)
    ⟨provenance_init, fun _ _ h => by cases h⟩ (fun s s' hP ht => ⟨hP.1.step ht, ?_⟩) h).2 id a ha
  intro id' b hb
  cases ht with
  | accept hcalling =>
    simp only [acceptedCall] at hb
    split_ifs at hb with hid
    · obtain rfl := Option.some.inj hb
      exact hid ▸ hP.1.calling _ (hcalling ▸ List.mem_cons_self)
    · exact hP.2 id' b hb
  | draw => exact .tail _ (hP.2 id' b hb)
  | _ => exact hP.2 id' b hb

/-! ### An exhausted budget -/

/-- In the trace an expired wait of the request spends the last resend, at the given time. -/
def ExhaustedAt (cfg : Config) (trace : List Event) (id : UInt64) (time : ℕ) : Prop :=
  ∃ later earlier a, trace = later ++ .waitExpired id time :: earlier ∧
    acceptedCall earlier id = some a ∧
      resends earlier id + expiredWaits earlier id + 1 = (cfg.resendLimit a).toNat

/-- The client fails a call with `RECONNECT_TIMEOUT` only then. -/
def Exhausted (cfg : Config) (s : State) : Prop :=
  ∀ c ∈ s.takenCallbacks, c.cause ≠ .response → c.response.errorCode_ = .RECONNECT_TIMEOUT →
    ExhaustedAt cfg s.trace c.requestId c.time

theorem ExhaustedAt.of_suffix {trace trace' : List Event} {time : ℕ}
    (h : ExhaustedAt cfg trace id time) (hsuffix : trace <:+ trace') :
    ExhaustedAt cfg trace' id time := by
  obtain ⟨new, rfl⟩ := hsuffix
  obtain ⟨later, earlier, a, rfl, ha⟩ := h
  exact ⟨new ++ later, earlier, a, (List.append_assoc _ _ _).symm, ha⟩

theorem Exhausted.step (h : Exhausted cfg s) (hphases : Phases s) (hbudget : Budget cfg s)
    (ht : Transition cfg proper network s s') : Exhausted cfg s' := by
  intro c hc hcause hcode
  rcases ht.mem_takenCallbacks hc with hold | hnew
  · exact (h c hold hcause hcode).of_suffix ht.trace_suffix
  · cases hnew with
    | @reject _ _ errorCode _ hreject =>
      obtain rfl : errorCode = .RECONNECT_TIMEOUT := hcode
      exact absurd hreject (by decide)
    | @lose _ _ errorCode _ hlose =>
      obtain rfl : errorCode = .RECONNECT_TIMEOUT := hcode
      exact absurd hlose (by decide)
    | respond => exact absurd rfl hcause
    | cancel =>
      have hne : RpcErrorCode.REQUEST_CANCELED ≠ .RECONNECT_TIMEOUT := by decide
      exact absurd hcode hne
    | timeOut =>
      have hne : RpcErrorCode.REQUEST_TIMEOUT ≠ .RECONNECT_TIMEOUT := by decide
      exact absurd hcode hne
    | resendFailed =>
      have hne : RpcErrorCode.INTERNAL_ERROR ≠ .RECONNECT_TIMEOUT := by decide
      exact absurd hcode hne
    | @exhaust id p hp hphase hlast htrace =>
      obtain ⟨a, haccepted, hbalanced⟩ := hbudget.pending id p hp
      have hremaining := ((hphases.entries id p hp).waiting hphase).2
      have hpos := toNat_sub_one hremaining
      have hsum := hbalanced.budget
      rw [hlast] at hpos
      refine ⟨[], s.trace, a, htrace, haccepted, ?_⟩
      rw [← hsum, ← hpos]
      simp only [UInt8.toNat_zero]
      omega

/-- While there is no connection, every pending request waits for a reconnect. -/
theorem Phases.waiting_of_current_none (h : Phases s) (hcurrent : s.tcpClient_.current = none)
    (hp : s.pendingRequests_.lookup id = some p) : p.phase = .kWaitingReconnect := by
  cases hphase : p.phase with
  | kWaitingReconnect => rfl
  | kWaitingResponse =>
    obtain ⟨hnotConnected, hnotDisconnecting⟩ := h.not_connected hcurrent
    rcases (h.entries id p hp).response hphase with hstatus | hstatus
    · exact absurd hstatus hnotConnected
    · exact absurd hstatus hnotDisconnecting

end MiniRpc.RpcClient
