import MiniRpc.RpcClient.Equiv.Decompose

/-!
# The clock

Only `tick` moves the clock (`now_step`): an operation takes no time.  So a condition on how far
time passes is a condition on the `tick` steps alone, and `invariant_of_clock` is the invariant rule
for the runs that satisfy one.
-/

namespace MiniRpc.RpcClient

variable {cfg : Config} {proper network : Prop} {s s' : State}

@[simp] theorem now_push (s : State) (f : Frame) : (s.push f).now = s.now := rfl

@[simp] theorem now_emit (s : State) (e : Event) : (s.emit e).now = s.now := rfl

@[simp] theorem now_send (s : State) (conn : ConnId) (frame : Bytes) (e : Event) :
    (s.send conn frame e).now = s.now := rfl

@[simp] theorem now_complete (s : State) (c : Completion) : (s.complete c).now = s.now := rfl

@[simp] theorem now_erasePending (s : State) (id : UInt64) : (s.erasePending id).now = s.now := rfl

@[simp] theorem now_ignoreResponse (s : State) (id : UInt64) :
    (ignoreResponse s id).now = s.now := rfl

@[simp] theorem now_forceClose (s : State) (conn : ConnId) : (forceClose s conn).now = s.now := rfl

@[simp] theorem now_cancelTimer (s : State) (o : Option TimerId) : (s.cancelTimer o).now = s.now :=
  EventLoop.now_cancelIfSet _ _

@[simp] theorem now_armTimer (s : State) (id : UInt64) (d : ℕ) (task : TimerTask) :
    (s.armTimer id d task).now = s.now := rfl

@[simp] theorem now_armRequestTimer (s : State) (id : UInt64) (timeout : ℕ) :
    (s.armRequestTimer id timeout).now = s.now := by
  unfold State.armRequestTimer
  split_ifs <;> rfl

@[simp] theorem now_failAllPendingRequests (s : State) (order : List UInt64)
    (errorCode : RpcErrorCode) (errorMessage : Bytes) :
    (failAllPendingRequests s order errorCode errorMessage).now = s.now := by
  unfold failAllPendingRequests
  dsimp only
  rw [foldl_cancelTimer]
  exact now_foldl_cancelIfSet _ _

@[simp] theorem now_failAllDisreconnectRequests (s : State) (order : List UInt64)
    (errorCode : RpcErrorCode) (errorMessage : Bytes) :
    (failAllDisreconnectRequests s order errorCode errorMessage).now = s.now :=
  (now_foldl_takeCallback _ _ _).trans (now_foldl_startReconnectWait _ _)

@[simp] theorem now_runConnectionCallback (s : State) (conn : ConnId) (up : Bool) :
    (runConnectionCallback cfg s conn up).now = s.now := by
  unfold runConnectionCallback
  split_ifs <;> rfl

theorem now_callInLoop (s : State) (id : UInt64) (a : CallArgs) :
    (callInLoop cfg s id a).now = s.now := by
  unfold callInLoop
  split
  · rfl
  · dsimp only
    split_ifs
    · rfl
    · rfl
    · rfl
    · exact now_armRequestTimer _ id a.timeout

theorem now_cancelInLoop (s : State) (id : UInt64) : (cancelInLoop s id).now = s.now := by
  unfold cancelInLoop
  split
  · rfl
  · simp [now_sendCancel]

theorem now_runTimer (s : State) (task : TimerTask) : (runTimer s task).now = s.now := by
  cases task with
  | onRequestTimeout id =>
    unfold runTimer onRequestTimeout
    dsimp only
    split
    · rfl
    · split_ifs
      · rfl
      · simp [now_sendCancel]
  | onReconnectTimeout id =>
    unfold runTimer onReconnectTimeout
    dsimp only
    split
    · rfl
    · split_ifs <;> rfl

theorem now_onRpcMessage (s : State) (conn : ConnId) (msg : Bytes) :
    (onRpcMessage cfg s conn msg).now = s.now := by
  rw [onRpcMessage_eq]
  split
  · unfold onResponse
    dsimp only
    split
    · split_ifs <;> rfl
    · simp
  · rfl

theorem now_disconnect (s : State) (order : List UInt64) : (disconnect s order).now = s.now := by
  unfold disconnect
  dsimp only
  split <;> first | rfl | exact now_failAllPendingRequests _ _ _ _

theorem now_resumed {order : List UInt64} {f : Frame} (h : Resumed cfg s order f s') :
    s'.now = s.now := by
  cases h with
  | resend =>
    unfold resend
    split
    · rfl
    · split_ifs
      · rfl
      · dsimp only
        split_ifs
        · exact now_cancelTimer _ _
        · exact (now_armRequestTimer _ _ _).trans (now_cancelTimer _ _)
  | onConnectionDown => exact now_runConnectionCallback _ _ _
  | _ => rfl

/-- Only `tick` moves the clock. -/
theorem now_step {a : Action} (ha : ∀ d, a ≠ .tick d) (h : step cfg s a = some s') :
    s'.now = s.now := by
  cases stepped_of_step h with
  | @tick d => exact absurd rfl (ha d)
  | resume _ hresumed => exact (now_resumed hresumed).trans rfl
  | @runTask task tasks =>
    cases task with
    | callInLoop id a => exact (now_callInLoop _ id a).trans rfl
    | cancelInLoop id => exact (now_cancelInLoop _ id).trans rfl
  | fireTimer _ hfire =>
    obtain ⟨deadline, _, _, rfl⟩ := EventLoop.fire_eq_some hfire
    exact (now_runTimer _ _).trans rfl
  | connectionUp => exact now_runConnectionCallback _ _ _
  | connectionDown =>
    unfold onConnectionDown
    dsimp only
    split_ifs
    · exact now_failAllPendingRequests _ _ _ _
    · exact now_failAllDisreconnectRequests _ _ _ _
  | connectionError => exact now_failAllDisreconnectRequests _ _ _ _
  | deliver => exact now_onRpcMessage _ _ _
  | call => exact (now_callInLoop _ _ _).trans rfl
  | cancel => exact now_cancelInLoop _ _
  | connect =>
    unfold connect
    split_ifs <;> rfl
  | disconnect => exact now_disconnect _ _
  | _ => rfl

/-- The clock does not go back. -/
theorem Transition.now_le (h : Transition cfg proper network s s') : s.now ≤ s'.now := by
  cases h with
  | tick d => exact Nat.le_add_right _ d
  | lose | respond | cancel | resendFailed => exact (EventLoop.now_cancelIfSet _ _).ge
  | accept => exact (EventLoop.now_runAfterIfPos _ _ _).ge
  | resend => exact ((EventLoop.now_runAfterIfPos _ _ _).trans (EventLoop.now_cancelIfSet _ _)).ge
  | startWait => exact ((EventLoop.now_runAfter _ _ _).trans (EventLoop.now_cancelIfSet _ _)).ge
  | _ => exact Nat.le_refl _

/-- **Invariant rule with a clock.** What holds initially, is kept when time passes as the runs
allow, and is kept by every transition that takes no time holds in every state of these runs. -/
theorem invariant_of_clock {C : State → Action → Prop} {P : State → Prop} (h0 : P .init)
    (htick : ∀ s d, P s → s.nextRequestId_ ≤ 2 ^ 64 → C s (.tick d) →
      P { s with loop_ := s.loop_.tick d })
    (hP : ∀ s s', P s → s'.nextRequestId_ ≤ 2 ^ 64 → s'.now = s.now →
      Transition cfg False True s s' → P s')
    (h : (machine cfg).ReachableBy C s) (hcalls : s.nextRequestId_ ≤ 2 ^ 64) : P s := by
  refine h.invariant (P := fun s => s.nextRequestId_ ≤ 2 ^ 64 → P s) (fun _ => h0) ?_ hcalls
  intro s a s' _ hC hold hs hcalls
  have hs : step cfg s a = some s' := hs
  have hsteps : Steps cfg False True s s' := steps_step False.elim (fun _ => trivial) hs
  by_cases ha : ∃ d, a = .tick d
  · obtain ⟨d, rfl⟩ := ha
    cases stepped_of_step hs with
    | tick => exact htick s d (hold hcalls) hcalls hC
  · -- the step takes no time, so neither does a transition of it
    have hnow : s'.now = s.now := now_step (fun d heq => ha ⟨d, heq⟩) hs
    refine (Machine.preserved_of_chain (P := fun t => s.now ≤ t.now ∧
      (t.nextRequestId_ ≤ 2 ^ 64 → t.now = s.now → P t)) (fun t t' ht htt => ?_) hsteps
      ⟨Nat.le_refl _, fun hle _ => hold hle⟩).2 hcalls hnow
    have hle := htt.now_le
    refine ⟨ht.1.trans hle, fun hbound hstill => ?_⟩
    have hback : t.now = s.now := Nat.le_antisymm (hle.trans hstill.le) ht.1
    exact hP t t' (ht.2 (htt.next_le.trans hbound) hback) hbound (hstill.trans hback.symm) htt

end MiniRpc.RpcClient
