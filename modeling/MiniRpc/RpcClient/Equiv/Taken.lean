import MiniRpc.RpcClient.Equiv.Decompose

/-!
# The callbacks taken for invocation

`takenCallbacks` are the callbacks held by the operations in progress and those invoked already.
A transition keeps them and takes at most one more; `Takes` lists how.
-/

namespace MiniRpc.RpcClient

variable {cfg : Config} {proper network : Prop} {s s' : State} {id : UInt64}

/-- The callback invoked by an event. -/
def Event.invocation? : Event → Option Completion
  | .invoked c => some c
  | _ => none

namespace State

/-- The callbacks taken for invocation, held by an operation or invoked already. -/
def takenCallbacks (s : State) : List Completion := s.held ++ s.trace.filterMap Event.invocation?

/-- How often a callback was taken for this id. -/
def taken (s : State) (id : UInt64) : ℕ := s.takenCallbacks.countP fun c => c.requestId == id

end State

/-- How a callback is taken in a transition from `s` to `s'`. -/
inductive Takes (s s' : State) : Completion → Prop
  | reject {id : UInt64} {a : CallArgs} {errorCode : RpcErrorCode} (errorMessage : Bytes)
      (hcode : errorCode ∈ rejectionCodes) (hcalling : (id, a) ∈ s.calling)
      (htrace : s'.trace = s.trace) :
      Takes s s' (rejection s id a errorCode errorMessage)
  | lose {id : UInt64} {p : PendingRequest} {errorCode : RpcErrorCode} (errorMessage : Bytes)
      (hcode : errorCode ∈ lossCodes) (hp : s.pendingRequests_.lookup id = some p)
      (hgone : s.connectedConn = none ∨ s.status_ ≠ .kConnected) :
      Takes s s' (lostCompletion s.now errorCode errorMessage (id, p.callback))
  | respond {p : PendingRequest} {conn : ConnId} {response : RpcResponse}
      (hconn : s.tcpClient_.current = some conn)
      (hp : s.pendingRequests_.lookup response.requestId_ = some p)
      (htrace : s'.trace = .received conn response :: s.trace) :
      Takes s s' ⟨response.requestId_, p.callback, response, .response, s.now⟩
  | cancel {id : UInt64} {p : PendingRequest} (hp : s.pendingRequests_.lookup id = some p)
      (hignored : s'.ignoredResponseRequests_ =
        s.ignoredResponseRequests_.insert id (s.now + oneMinute)) (htrace : s'.trace = s.trace) :
      Takes s s' ⟨id, p.callback, failure id .REQUEST_CANCELED (text "rpc request canceled"),
        .canceled, s.now⟩
  | timeOut {id : UInt64} {p : PendingRequest} {t : TimerId} {deadline : ℕ}
      (ht : s.loop_.timers.lookup t = some ⟨deadline, .onRequestTimeout id⟩)
      (hdue : deadline ≤ s.now) (hp : s.pendingRequests_.lookup id = some p)
      (hphase : p.phase = .kWaitingResponse)
      (hignored : s'.ignoredResponseRequests_ =
        s.ignoredResponseRequests_.insert id (s.now + oneMinute)) (htrace : s'.trace = s.trace) :
      Takes s s' ⟨id, p.callback, failure id .REQUEST_TIMEOUT (text "rpc request timeout"),
        .requestTimeout, s.now⟩
  | exhaust {id : UInt64} {p : PendingRequest} (hp : s.pendingRequests_.lookup id = some p)
      (hphase : p.phase = .kWaitingReconnect) (hlast : p.remainingResends - 1 = 0)
      (htrace : s'.trace = .waitExpired id s.now :: s.trace) :
      Takes s s' ⟨id, p.callback, failure id .RECONNECT_TIMEOUT (text "rpc reconnect timeout"),
        .reconnectTimeout, s.now⟩
  | resendFailed {id : UInt64} {p : PendingRequest} (errorMessage : Bytes)
      (hp : s.pendingRequests_.lookup id = some p) (hphase : p.phase = .kWaitingReconnect)
      (htrace : s'.trace = s.trace) :
      Takes s s' ⟨id, p.callback, failure id .INTERNAL_ERROR errorMessage, .resendFailed, s.now⟩

theorem State.taken_pos {c : Completion} (hc : c ∈ s.takenCallbacks) : 0 < s.taken c.requestId :=
  List.countP_pos_iff.mpr ⟨c, hc, beq_self_eq_true c.requestId⟩

theorem takenCallbacks_of_stack {stack : List Frame} (hstack : s.stack = stack) :
    s.takenCallbacks = { s with stack := stack }.takenCallbacks := by
  rw [← hstack]

/-- A frame that holds no callback is taken off the stack. -/
theorem perm_of_pop {f : Frame} {stack : List Frame} (hstack : s.stack = f :: stack)
    (hf : ∀ cs, f = .callbacks cs → cs = []) :
    ({ s with stack := stack } : State).takenCallbacks.Perm s.takenCallbacks := by
  rw [takenCallbacks_of_stack hstack]
  cases f with
  | callbacks cs =>
    rw [hf cs rfl]
    exact .refl _
  | _ => exact .refl _

/-- What a transition does when it takes a callback: a call is rejected, or a pending request is
erased. -/
structure TakesCallback (s s' : State) (c : Completion) : Prop where
  takes : Takes s s' c
  perm : s'.takenCallbacks.Perm (c :: s.takenCallbacks)
  pending : (c.cause = .rejected ∧ s'.pendingRequests_ = s.pendingRequests_) ∨
    (c.requestId ∈ s.pendingRequests_ ∧
      s'.pendingRequests_ = s.pendingRequests_.erase c.requestId)

theorem TakesCallback.of_pending {c : Completion} {p : PendingRequest} (htakes : Takes s s' c)
    (hp : s.pendingRequests_.lookup c.requestId = some p)
    (hpending : s'.pendingRequests_ = s.pendingRequests_.erase c.requestId)
    (hperm : s'.takenCallbacks.Perm (c :: s.takenCallbacks)) : TakesCallback s s' c :=
  ⟨htakes, hperm, .inr ⟨Finmap.mem_of_lookup_eq_some hp, hpending⟩⟩

/-- A transition keeps the callbacks taken and takes at most one more. -/
theorem Transition.taken_cases (h : Transition cfg proper network s s') :
    s'.takenCallbacks.Perm s.takenCallbacks ∨ ∃ c, TakesCallback s s' c := by
  cases h with
  | leaveUser hstack | skipCheck hstack | stopCheck hstack =>
    exact .inl (perm_of_pop hstack fun _ hf => by cases hf)
  | closeCallbacks hstack => exact .inl (perm_of_pop hstack fun cs hf => by cases hf; rfl)
  | @invoke c cs rest hstack =>
    rw [takenCallbacks_of_stack hstack]
    exact .inl (@List.perm_middle _ c (cs ++ rest.flatMap _) _)
  | reject errorMessage hcode hcalling =>
    right
    exact ⟨_, .reject errorMessage hcode (hcalling ▸ List.mem_cons_self) rfl, .refl _,
      .inl ⟨rfl, rfl⟩⟩
  | @lose id p cs cs' rest errorCode errorMessage hcode hstack hp hcs hgone =>
    refine .inr ⟨_, .of_pending (.lose errorMessage hcode hp hgone) hp rfl ?_⟩
    rw [takenCallbacks_of_stack hstack]
    exact (hcs.append_right _).append_right _
  | respond hconn hp => exact .inr ⟨_, .of_pending (.respond hconn hp rfl) hp rfl (.refl _)⟩
  | cancel hp => exact .inr ⟨_, .of_pending (.cancel hp rfl rfl) hp rfl (.refl _)⟩
  | timeOut ht hdue hp hphase =>
    exact .inr ⟨_, .of_pending (.timeOut ht hdue hp hphase rfl rfl) hp rfl (.refl _)⟩
  | exhaust ht hdue hp hphase hlast =>
    exact .inr ⟨_, .of_pending (.exhaust hp hphase hlast rfl) hp rfl (.refl _)⟩
  | resendFailed errorMessage hstack hc hp hphase =>
    refine .inr ⟨_, .of_pending (.resendFailed errorMessage hp hphase rfl) hp rfl ?_⟩
    rw [takenCallbacks_of_stack hstack]
    exact .refl _
  | resend hstack | up hstack | down hstack | error _ hstack | startCheck hstack
  | skipResend hstack =>
    rw [takenCallbacks_of_stack hstack]
    exact .inl (.refl _)
  | clearIgnored hf hstack =>
    refine .inl (perm_of_pop hstack fun cs hcs => ?_)
    subst hcs
    rcases hf with ⟨_, hf⟩ | ⟨_, hf⟩ <;> cases hf
  | _ => exact .inl (.refl _)

/-- A callback taken after a transition was taken before or is taken in it. -/
theorem Transition.mem_takenCallbacks (h : Transition cfg proper network s s') {c : Completion}
    (hc : c ∈ s'.takenCallbacks) : c ∈ s.takenCallbacks ∨ Takes s s' c := by
  rcases h.taken_cases with hperm | ⟨d, hd⟩
  · exact .inl (hperm.mem_iff.mp hc)
  · rcases List.mem_cons.mp (hd.perm.mem_iff.mp hc) with rfl | hold
    · exact .inr hd.takes
    · exact .inl hold

/-- The trace only grows. -/
theorem Transition.trace_suffix (h : Transition cfg proper network s s') :
    s.trace <:+ s'.trace := by
  cases h with
  | draw | forceClose | sendCancel | connectionCallback | connectionErrorCallback | invoke | accept
  | respond | exhaust | rearm | resend | respondIgnored | sweep => exact List.suffix_cons _ _
  | respondUnknown => exact (List.suffix_cons _ _).trans (List.suffix_cons _ _)
  | _ => exact List.suffix_rfl

end MiniRpc.RpcClient
