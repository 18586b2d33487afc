import MiniRpc.RpcClient.Equiv.Loops

/-!
# The queue of the loop

`SameQueue`: most operations leave the queue of the loop, and the calls that other threads are about
to queue, as they are.  `QueueStep` says what each step of the client does to them.
-/

namespace MiniRpc.RpcClient

variable {cfg : Config} {s s' s'' : State} {id : UInt64}

/-! ### What the operations leave as it is -/

/-- The queue of the loop and the calls of the other threads are the same. -/
structure SameQueue (s s' : State) : Prop where
  calling : s'.calling = s.calling
  tasks : s'.loop_.tasks = s.loop_.tasks

theorem SameQueue.refl (s : State) : SameQueue s s := ⟨rfl, rfl⟩

theorem SameQueue.trans (h : SameQueue s s') (h' : SameQueue s' s'') : SameQueue s s'' :=
  ⟨h'.calling.trans h.calling, h'.tasks.trans h.tasks⟩

theorem sameQueue_cancelTimer (s : State) (timerId : Option TimerId) :
    SameQueue s (s.cancelTimer timerId) :=
  ⟨rfl, s.loop_.tasks_cancelIfSet timerId⟩

theorem SameQueue.armRequestTimer (h : SameQueue s s') (id : UInt64) (timeout : ℕ) :
    SameQueue s (s'.armRequestTimer id timeout) := by
  unfold State.armRequestTimer
  split_ifs
  · exact ⟨h.calling, h.tasks⟩
  · exact h

theorem SameQueue.send (h : SameQueue s s') (conn : ConnId) (frame : Bytes) (e : Event) :
    SameQueue s (s'.send conn frame e) := ⟨h.calling, h.tasks⟩

theorem sameQueue_callInLoop (cfg : Config) (s : State) (id : UInt64) (a : CallArgs) :
    SameQueue s (callInLoop cfg s id a) := by
  unfold callInLoop
  split
  · exact ⟨rfl, rfl⟩
  · dsimp only
    split_ifs
    · exact ⟨rfl, rfl⟩
    · exact ⟨rfl, rfl⟩
    · exact ⟨rfl, rfl⟩
    · refine .send (.armRequestTimer ?_ id a.timeout) _ _ _
      exact ⟨rfl, rfl⟩

theorem sameQueue_sendCancel (s : State) (id : UInt64) : SameQueue s (sendCancel s id) := by
  unfold sendCancel
  split
  · exact .refl s
  · dsimp only
    split_ifs
    · exact .refl s
    · exact ⟨rfl, rfl⟩

theorem sameQueue_cancelInLoop (s : State) (id : UInt64) : SameQueue s (cancelInLoop s id) := by
  unfold cancelInLoop
  split
  · exact .refl s
  · rename_i p hp
    have htimer := sameQueue_cancelTimer s p.timerId
    have hsend := sameQueue_sendCancel
      (ignoreResponse ((s.cancelTimer p.timerId).erasePending id) id) id
    exact ⟨hsend.calling.trans htimer.calling, hsend.tasks.trans htimer.tasks⟩

theorem sameQueue_runTimer (s : State) (task : TimerTask) : SameQueue s (runTimer s task) := by
  cases task with
  | onRequestTimeout id =>
    unfold runTimer onRequestTimeout
    dsimp only
    split
    · exact .refl s
    · split_ifs
      · exact .refl s
      · have hsend := sameQueue_sendCancel (ignoreResponse (s.erasePending id) id) id
        exact ⟨hsend.calling, hsend.tasks⟩
  | onReconnectTimeout id =>
    unfold runTimer onReconnectTimeout
    dsimp only
    split
    · exact .refl s
    · split_ifs
      · exact .refl s
      · exact ⟨rfl, rfl⟩
      · exact ⟨rfl, rfl⟩

theorem sameQueue_onRpcMessage (cfg : Config) (s : State) (conn : ConnId) (msg : Bytes) :
    SameQueue s (onRpcMessage cfg s conn msg) := by
  unfold onRpcMessage
  split_ifs
  · exact ⟨rfl, rfl⟩
  · exact ⟨rfl, rfl⟩
  · exact ⟨rfl, rfl⟩
  · dsimp only
    split_ifs
    · exact ⟨rfl, rfl⟩
    · unfold onResponse
      dsimp only
      split
      · split_ifs
        · exact ⟨rfl, rfl⟩
        · exact ⟨rfl, rfl⟩
      · exact ⟨rfl, EventLoop.tasks_cancelIfSet _ _⟩

/-- A loop over requests leaves the queue alone if its rounds do. -/
theorem sameQueue_foldl {β ι : Type} (state : β → State) (f : β → ι → β)
    (hf : ∀ b i, SameQueue (state b) (state (f b i))) (items : List ι) (b : β) :
    SameQueue (state b) (state (items.foldl f b)) := by
  induction items generalizing b with
  | nil => exact .refl _
  | cons i items ih => exact (hf b i).trans (ih (f b i))

theorem sameQueue_startReconnectWait (s : State) (id : UInt64) :
    SameQueue s (startReconnectWait s id) := by
  unfold startReconnectWait
  split
  · exact .refl s
  · exact ⟨rfl, EventLoop.tasks_cancelIfSet _ _⟩

theorem sameQueue_takeCallback (acc : State × List (UInt64 × RpcCallback)) (id : UInt64) :
    SameQueue acc.1 (takeCallback acc id).1 := by
  unfold takeCallback
  dsimp only
  split
  · exact .refl _
  · exact ⟨rfl, EventLoop.tasks_cancelIfSet _ _⟩

theorem SameQueue.failAllPendingRequests (h : SameQueue s s') (order : List UInt64)
    (errorCode : RpcErrorCode) (errorMessage : Bytes) :
    SameQueue s (failAllPendingRequests s' order errorCode errorMessage) := by
  have hloop := sameQueue_foldl (fun s => s)
    (fun s (item : UInt64 × PendingRequest) => s.cancelTimer item.2.timerId)
    (fun s item => sameQueue_cancelTimer s item.2.timerId) (entries order s'.pendingRequests_)
    { s' with pendingRequests_ := ∅ }
  exact ⟨hloop.calling.trans h.calling, hloop.tasks.trans h.tasks⟩

theorem SameQueue.failAllDisreconnectRequests (h : SameQueue s s') (order : List UInt64)
    (errorCode : RpcErrorCode) (errorMessage : Bytes) :
    SameQueue s (failAllDisreconnectRequests s' order errorCode errorMessage) := by
  have hwait := sameQueue_foldl (fun s => s) startReconnectWait sameQueue_startReconnectWait
    (waitingToChangePhase s' order) s'
  have htake := sameQueue_foldl Prod.fst takeCallback sameQueue_takeCallback
    (waitingToCallFailCallback s' order)
    ((waitingToChangePhase s' order).foldl startReconnectWait s', [])
  have hloops := (h.trans hwait).trans htake
  exact ⟨hloops.calling, hloops.tasks⟩

theorem sameQueue_disconnect (s : State) (order : List UInt64) :
    SameQueue s (disconnect s order) := by
  unfold disconnect
  dsimp only
  split
  · refine .failAllPendingRequests ?_ order _ _
    exact ⟨rfl, rfl⟩
  · refine .failAllPendingRequests ?_ order _ _
    exact ⟨rfl, rfl⟩
  · exact ⟨rfl, rfl⟩
  · refine .failAllPendingRequests ?_ order _ _
    exact ⟨rfl, rfl⟩

theorem sameQueue_runConnectionCallback (cfg : Config) (s : State) (conn : ConnId) (up : Bool) :
    SameQueue s (runConnectionCallback cfg s conn up) := by
  unfold runConnectionCallback
  split_ifs
  · exact ⟨rfl, rfl⟩
  · exact .refl s

theorem sameQueue_onConnectionUp (cfg : Config) (s : State) (conn : ConnId) :
    SameQueue s (onConnectionUp cfg s conn) := by
  have hcallback := sameQueue_runConnectionCallback cfg
    ({ s with conn_ := some conn, status_ := .kConnected, manualDisconnection_ := false }.push
      (.onConnectionUp conn)) conn true
  exact ⟨hcallback.calling, hcallback.tasks⟩

theorem sameQueue_onConnectionDown (s : State) (conn : ConnId) (order : List UInt64) :
    SameQueue s (onConnectionDown s conn order) := by
  unfold onConnectionDown
  dsimp only
  split_ifs
  · refine .failAllPendingRequests ?_ order _ _
    exact ⟨rfl, rfl⟩
  · refine .failAllDisreconnectRequests ?_ order _ _
    exact ⟨rfl, rfl⟩

theorem sameQueue_resend (s : State) (conn : ConnId) (id : UInt64) :
    SameQueue s (resend s conn id) := by
  unfold resend
  split
  · exact .refl s
  · rename_i p hp
    have htimer := sameQueue_cancelTimer s p.timerId
    split_ifs
    · exact .refl s
    · dsimp only
      split_ifs
      · exact ⟨htimer.calling, htimer.tasks⟩
      · refine .send (.armRequestTimer ?_ id p.requestTimeout) _ _ _
        exact ⟨htimer.calling, htimer.tasks⟩

theorem sameQueue_resumed {order : List UInt64} {f : Frame} (h : Resumed cfg s order f s') :
    SameQueue s s' := by
  cases h with
  | callbacksDone | skipCheck | checkDone | stopCheck => exact .refl s
  | callback | startCheck | errorCallback | noErrorCallback => exact ⟨rfl, rfl⟩
  | @resend conn c id waiting =>
    have hresend := sameQueue_resend (s.push (.checkReconnect conn waiting)) c id
    exact ⟨hresend.calling, hresend.tasks⟩
  | @onConnectionDown conn =>
    have hcallback :=
      sameQueue_runConnectionCallback cfg (clearIgnoredResponseRequests s) conn false
    exact ⟨hcallback.calling, hcallback.tasks⟩

theorem sameQueue_connect (s : State) : SameQueue s (connect s) := by
  unfold connect
  split_ifs
  · exact .refl s
  · exact ⟨rfl, rfl⟩

/-- What a step does to the queue and to the calls of the other threads. -/
inductive QueueStep (cfg : Config) (s s' : State) : Action → Prop
  | same {a : Action} (ha : a ≠ .runTask) (h : SameQueue s s') : QueueStep cfg s s' a
  | drawId {a : CallArgs} (hnext : s'.nextRequestId_ = s.nextRequestId_ + 1)
      (hcalling : s'.calling = (UInt64.ofNat s.nextRequestId_, a) :: s.calling)
      (htasks : s'.loop_.tasks = s.loop_.tasks) : QueueStep cfg s s' (.drawId a)
  | queueCall {k : ℕ} {call : UInt64 × CallArgs} (hcall : call ∈ s.calling)
      (hcalling : s'.calling = s.calling.eraseIdx k)
      (htasks : s'.loop_.tasks = s.loop_.tasks ++ [.callInLoop call.1 call.2]) :
      QueueStep cfg s s' (.queueCall k)
  | queueCancel {id : UInt64} (hcalling : s'.calling = s.calling)
      (htasks : s'.loop_.tasks = s.loop_.tasks ++ [.cancelInLoop id]) :
      QueueStep cfg s s' (.queueCancel id)
  | runTask {task : LoopTask} {tasks : List LoopTask} (htasks : s.loop_.tasks = task :: tasks)
      (hrun : s' = runTask cfg { s with loop_ := s.loop_.setTasks tasks } task) :
      QueueStep cfg s s' .runTask

theorem queueStep_of_step {a : Action} (h : step cfg s a = some s') : QueueStep cfg s s' a := by
  cases stepped_of_step h with
  | drawId => exact .drawId rfl rfl rfl
  | @queueCall k id a hk =>
    have hcall : (id, a) ∈ s.calling := List.mem_of_getElem? hk
    exact .queueCall hcall rfl rfl
  | queueCancel => exact .queueCancel rfl rfl
  | tick | transmit | loseConnection | sweep | enterUser | leaveUser =>
    exact .same nofun ⟨rfl, rfl⟩
  | resume _ hresumed =>
    have hresume := sameQueue_resumed hresumed
    exact .same nofun ⟨hresume.calling, hresume.tasks⟩
  | runTask _ htasks => exact .runTask htasks rfl
  | @fireTimer t task _ _ hfire =>
    obtain ⟨deadline, ht, hdue, rfl⟩ := EventLoop.fire_eq_some hfire
    have hrun := sameQueue_runTimer { s with loop_ := s.loop_.cancel t } task
    exact .same nofun ⟨hrun.calling, hrun.tasks⟩
  | connectionUp =>
    have hup := sameQueue_onConnectionUp cfg { s with
      tcpClient_ := ⟨some s.tcpClient_.nextConn, true, false, s.tcpClient_.nextConn + 1⟩ }
      s.tcpClient_.nextConn
    exact .same nofun ⟨hup.calling, hup.tasks⟩
  | @connectionDown conn order =>
    have hdown := sameQueue_onConnectionDown
      { s with tcpClient_ := ⟨none, false, false, s.tcpClient_.nextConn⟩ } conn order
    exact .same nofun ⟨hdown.calling, hdown.tasks⟩
  | @connectionError errorCode order =>
    refine .same nofun (.failAllDisreconnectRequests ?_ order _ _)
    exact ⟨rfl, rfl⟩
  | @deliver conn msg => exact .same nofun (sameQueue_onRpcMessage cfg s conn msg)
  | @call a =>
    have hcall := sameQueue_callInLoop cfg (fetchRequestId s a).2 (fetchRequestId s a).1 a
    exact .same nofun ⟨hcall.calling, hcall.tasks⟩
  | @cancel id => exact .same nofun (sameQueue_cancelInLoop s id)
  | connect => exact .same nofun (sameQueue_connect s)
  | @disconnect order => exact .same nofun (sameQueue_disconnect s order)

theorem sameQueue_runTask (cfg : Config) (s : State) (task : LoopTask) :
    SameQueue s (runTask cfg s task) := by
  cases task with
  | callInLoop id a => exact sameQueue_callInLoop cfg s id a
  | cancelInLoop id => exact sameQueue_cancelInLoop s id

end MiniRpc.RpcClient
