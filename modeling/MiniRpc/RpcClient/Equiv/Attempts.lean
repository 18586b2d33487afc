import MiniRpc.RpcClient.Equiv.Ignored

/-!
# What is sent for a call

`attempts` lists the connections on which the `Request` frame of a call was sent.  Over all
connections a call is sent as often as its budget allows (`Attempts.length_le`), and not at all when
it was rejected (`RejectedUnsent`).  A `Cancel` frame is sent only for a call that was given up
(`CancelsMeant`).
-/

namespace MiniRpc.RpcClient

variable {cfg : Config} {proper network : Prop} {s s' : State} {id : UInt64} {p : PendingRequest}

/-- The connection on which an event sends the `Request` frame of the call. -/
def Event.attempt? (id : UInt64) : Event → Option ConnId
  | .requestSent conn requestId _ _ _ => if requestId = id then some conn else none
  | .requestResent conn requestId _ _ => if requestId = id then some conn else none
  | _ => none

/-- The connections on which the `Request` frame of the call was sent, the latest first. -/
def attempts (trace : List Event) (id : UInt64) : List ConnId :=
  trace.filterMap (Event.attempt? id)

theorem attempts_cons (e : Event) (trace : List Event) (id : UInt64) :
    attempts (e :: trace) id = (e.attempt? id).toList ++ attempts trace id := by
  unfold attempts
  cases h : e.attempt? id with
  | none => exact List.filterMap_cons_none h
  | some conn => exact List.filterMap_cons_some h

theorem count_attempts (trace : List Event) (id : UInt64) (conn : ConnId) :
    (attempts trace id).count conn = requestsSent trace conn id := by
  unfold attempts requestsSent
  rw [List.count, List.countP_filterMap]
  apply List.countP_congr
  intro e _
  cases e with
  | requestSent c requestId =>
    by_cases hid : requestId = id <;> simp [Event.attempt?, Event.sendsRequest, hid]
  | requestResent c requestId =>
    by_cases hid : requestId = id <;> simp [Event.attempt?, Event.sendsRequest, hid]
  | _ => simp [Event.attempt?, Event.sendsRequest]

theorem attempts_eq_nil_iff {trace : List Event} :
    attempts trace id = [] ↔ ∀ conn, requestsSent trace conn id = 0 := by
  simp only [List.eq_nil_iff_forall_not_mem, ← count_attempts, List.count_eq_zero]

/-- What was not accepted was not sent. -/
theorem Sent.attempts_eq_nil (h : Sent s) (hknown : ¬ s.Known id) : attempts s.trace id = [] :=
  attempts_eq_nil_iff.mpr fun conn => Nat.eq_zero_of_not_pos fun hpos =>
    hknown (h.known conn id hpos)

/-! ### All frames of a call -/

/-- The frames that the budget counts are all there are. -/
structure Counted (s : State) : Prop where
  unaccepted : ∀ id, acceptedCall s.trace id = none → attempts s.trace id = []
  accepted : ∀ id a, acceptedCall s.trace id = some a →
    (attempts s.trace id).length = resends s.trace id + 1

theorem counted_init : Counted .init where
  unaccepted _ _ := rfl
  accepted _ _ h := by cases h

theorem Counted.step (h : Counted s) (hconns : Connections s) (hbudget : Budget cfg s)
    (ht : Transition cfg proper network s s') : Counted s' := by
  cases ht with
  | @accept id a calling conn hcalling =>
    -- nothing was sent for the call before
    have hnil := hconns.sent.attempts_eq_nil
      (hconns.ledger.not_known_of_calling (hcalling ▸ List.mem_cons_self))
    constructor
    · intro id' hnone
      simp only [acceptedCall] at hnone
      split_ifs at hnone with hid
      rw [attempts_cons, Event.attempt?, if_neg hid]
      exact h.unaccepted id' hnone
    · intro id' b hb
      simp only [acceptedCall, resends] at hb ⊢
      rw [attempts_cons, Event.attempt?]
      split_ifs at hb ⊢ with hid
      · rw [← hid, hnil]
        rfl
      · exact h.accepted id' b hb
  | @resend _ conn id waiting rest p hstack hc hp =>
    obtain ⟨b, hb, -⟩ := hbudget.pending id p hp
    constructor
    · intro id' hnone
      have hnone : acceptedCall s.trace id' = none := hnone
      have hid : id ≠ id' := by
        rintro rfl
        cases hb.symm.trans hnone
      rw [attempts_cons, Event.attempt?, if_neg hid]
      exact h.unaccepted id' hnone
    · intro id' a ha
      have hold := h.accepted id' a ha
      simp only [resends]
      rw [attempts_cons, Event.attempt?]
      split_ifs with hid
      · exact congrArg Nat.succ hold
      · exact hold
  | _ => exact ⟨h.unaccepted, h.accepted⟩

/-! ### Rejected calls -/

/-- What is not pending after a transition was not sent in it. -/
theorem Sent.attempts_of_not_mem (h : Sent s) (hledger : Ledger s)
    (ht : Transition cfg proper network s s') (hnot : id ∉ s'.pendingRequests_)
    (hnil : attempts s.trace id = []) : attempts s'.trace id = [] := by
  rw [attempts_eq_nil_iff] at hnil ⊢
  intro conn
  cases h.sends hledger ht with
  | none heq => exact (heq conn id).trans (hnil conn)
  | @one c id' hconn hold hnew hphase heq =>
    have hne : id' ≠ id := fun hid => hnot (hid ▸ hnew)
    rw [heq, hnil, if_neg fun hmatch => hne hmatch.2]

/-- A call that was rejected was not sent. -/
def RejectedUnsent (s : State) : Prop :=
  ∀ c ∈ s.takenCallbacks, c.cause = .rejected → attempts s.trace c.requestId = []

theorem RejectedUnsent.step (h : RejectedUnsent s) (hconns : Connections s) (hledger : Ledger s')
    (ht : Transition cfg proper network s s') : RejectedUnsent s' := by
  intro c hc hcause
  apply hconns.sent.attempts_of_not_mem hconns.ledger ht
  · exact hledger.not_mem_of_taken (State.taken_pos hc)
  · rcases ht.mem_takenCallbacks hc with hold | hnew
    · exact h c hold hcause
    · cases hnew with
      | reject _ _ hcalling =>
        exact hconns.sent.attempts_eq_nil (hconns.ledger.not_known_of_calling hcalling)
      | _ => cases hcause

/-! ### Cancels -/

theorem Transition.takenCallbacks_subset (ht : Transition cfg proper network s s') :
    s.takenCallbacks ⊆ s'.takenCallbacks := by
  intro c hc
  rcases ht.taken_cases with hperm | ⟨d, htakes⟩
  · exact hperm.mem_iff.mpr hc
  · exact htakes.perm.mem_iff.mpr (List.mem_cons_of_mem d hc)

/-- A cancel is sent only for a call that was cancelled or timed out. -/
def CancelsMeant (s : State) : Prop :=
  ∀ conn id, 0 < cancelsSent s.trace conn id →
    ∃ c ∈ s.takenCallbacks, c.requestId = id ∧ c.GivenUp

theorem CancelsMeant.step (h : CancelsMeant s) (ht : Transition cfg proper network s s') :
    CancelsMeant s' := by
  intro conn id hpos
  have hold : 0 < cancelsSent s.trace conn id →
      ∃ c ∈ s'.takenCallbacks, c.requestId = id ∧ c.GivenUp := by
    intro hpos
    obtain ⟨c, hc, hid⟩ := h conn id hpos
    exact ⟨c, ht.takenCallbacks_subset hc, hid⟩
  cases ht with
  | @sendCancel conn' id' hconn hheld =>
    by_cases hid : id' = id
    · obtain ⟨c, hc, hmeant⟩ := hheld
      exact ⟨c, List.mem_append_left _ hc, hid ▸ hmeant⟩
    · refine hold ?_
      rwa [cancelsSent, List.countP_cons_of_neg (by simp [Event.sendsCancel, hid])] at hpos
  | _ => exact hold hpos

theorem cancelsMeant_of_reachable (h : (machine cfg).Reachable s) : CancelsMeant s :=
  invariant (fun _ _ hpos => absurd hpos (Nat.lt_irrefl 0)) (fun _ _ hP => hP.step) h

/-! ### Every run -/

/-- What is known of the frames of the calls. -/
structure Attempts (cfg : Config) (s : State) : Prop where
  connections : Connections s
  budget : Budget cfg s
  counted : Counted s
  rejected : RejectedUnsent s

theorem attempts_init : Attempts cfg .init :=
  ⟨connections_init, budget_init, counted_init, fun _ hc => absurd hc List.not_mem_nil⟩

theorem Attempts.step (h : Attempts cfg s) (hbound : s'.nextRequestId_ ≤ 2 ^ 64)
    (ht : Transition cfg proper network s s') : Attempts cfg s' where
  connections := h.connections.step hbound ht
  budget := h.budget.step h.connections.phases ht
  counted := h.counted.step h.connections h.budget ht
  rejected := h.rejected.step h.connections (h.connections.step hbound ht).ledger ht

theorem attempts_of_reachable (h : (machine cfg).Reachable s) (hcalls : s.nextRequestId_ ≤ 2 ^ 64) :
    Attempts cfg s :=
  invariant_of_bound attempts_init (fun _ _ hP => hP.step) h hcalls

/-- What was sent was accepted. -/
theorem Counted.acceptedCall (h : Counted s) (hsent : attempts s.trace id ≠ []) :
    ∃ a, acceptedCall s.trace id = some a := by
  cases ha : RpcClient.acceptedCall s.trace id with
  | none => exact absurd (h.unaccepted id ha) hsent
  | some a => exact ⟨a, rfl⟩

/-- A call is sent as often as its budget allows. -/
theorem Attempts.length_le (h : Attempts cfg s) {a : CallArgs}
    (ha : RpcClient.acceptedCall s.trace id = some a) :
    (attempts s.trace id).length ≤ 1 + (cfg.resendLimit a).toNat := by
  have hlength := h.counted.accepted id a ha
  have hle := (h.budget.spent id a ha).le_limit
  omega

/-- A call that is not to be resent is sent once. -/
theorem Attempts.length_eq_one (h : Attempts cfg s) {a : CallArgs}
    (ha : RpcClient.acceptedCall s.trace id = some a)
    (hnone : a.allowReconnect = false ∨ cfg.resendLimit a = 0) :
    (attempts s.trace id).length = 1 := by
  have hlength := h.counted.accepted id a ha
  have hspent := h.budget.spent id a ha
  rcases hnone with hnot | hzero
  · rw [hlength, (hspent.not_allowed hnot).1]
  · have hle := hspent.le_limit
    rw [hzero, UInt8.toNat_zero] at hle
    omega

end MiniRpc.RpcClient
