import MiniRpc.RpcServer.Equiv.Registry
import MiniRpc.RpcServer.Equiv.Transition

/-!
# Every step of the server is a sequence of transitions

One lemma for each operation, and `steps_step` for the step function of the machine.  `invariant` is
what the later files use.
-/

namespace MiniRpc.RpcServer

variable {cfg : Config} {proper network : Prop} {s : State}

/-- Sequences of transitions. -/
abbrev Steps (cfg : Config) (proper network : Prop) : State × Phase → State × Phase → Prop :=
  Relation.ReflTransGen (Transition cfg proper network)

/-! ### Proper steps -/

/-- A queued reply whose invocation was cancelled finds no token. -/
def LoopTask.Proper (registry : CancellationRegistry) : LoopTask → Prop
  | .reply inv _ => inv.frame ∈ registry.canceled_ →
    registry.find? inv.conn inv.request.requestId_ = none
  | .onTaskPoolStopped => True

instance (registry : CancellationRegistry) : (task : LoopTask) → Decidable (task.Proper registry)
  | .reply _ _ => inferInstanceAs (Decidable (_ → _))
  | .onTaskPoolStopped => .isTrue trivial

/-- The steps in which no queued reply of a cancelled invocation finds a token. -/
def Proper (s : State) : Action → Prop
  | .runTask l => ∀ task ∈ s.tasks.first l, task.Proper s.cancellationRegistry_
  | _ => True

instance (s : State) : (a : Action) → Decidable (Proper s a)
  | .runTask _ => inferInstanceAs (Decidable (∀ _ ∈ _, _))
  | .start | .stop | .tcpServerStopped | .poolBeginStop | .poolFinishStop | .connectionUp _
  | .peerHalfClose _ | .loseConnection _ | .connectionDown _ | .deliver _ _ _ | .transmit _
  | .submit _ | .handlerReturns _ | .handlerThrows _ | .queueReply _ | .dropReply _ | .reply _ _
  | .workerTake _ | .workerExit _ => .isTrue trivial

/-! ### Answers -/

theorem requestId_limitedResponse (maxMessageSize : ℕ) (requestId : UInt64) (r : RpcResult) :
    (limitedResponse maxMessageSize requestId r).requestId_ = requestId := by
  unfold limitedResponse
  split_ifs <;> rfl

theorem sendFramedData_eq (s : State) (conn : ConnId) (requestId : UInt64) (origin : Origin)
    (r : RpcResult) (maxMessageSize : ℕ) :
    (sendFramedData s conn requestId origin r maxMessageSize = forceClose s conn ∧
      maxMessageSize < RpcResponse.OutputMessageLen 0 (text "rpc message too large").length) ∨
      (sendFramedData s conn requestId origin r maxMessageSize =
        encodeAndSend s conn origin (limitedResponse maxMessageSize requestId r) ∧
      (limitedResponse maxMessageSize requestId r).fields.flatten.length ≤ maxMessageSize) := by
  rw [RpcResponse.length_flatten_fields]
  unfold sendFramedData limitedResponse
  dsimp only
  split_ifs with hlarge hroom
  · exact .inl ⟨rfl, hroom⟩
  · exact .inr ⟨rfl, not_lt.mp hroom⟩
  · exact .inr ⟨rfl, not_lt.mp hlarge⟩

theorem steps_sendFramedData (conn : ConnId) (requestId : UInt64) (origin : Origin)
    (r : RpcResult) : Steps cfg proper network (s, .answering conn requestId origin r)
      (sendFramedData s conn requestId origin r cfg.effectiveMaxMessageSize, .idle) := by
  rcases sendFramedData_eq s conn requestId origin r cfg.effectiveMaxMessageSize with
    ⟨heq, hroom⟩ | ⟨heq, hlen⟩
  · rw [heq]
    exact .single (.close (.inl hroom))
  · rw [heq]
    unfold encodeAndSend
    by_cases hvalid : (limitedResponse cfg.effectiveMaxMessageSize requestId r).Valid
    · simp only [RpcResponse.encode_eq hvalid, requestId_limitedResponse]
      rw [if_neg (by simp)]
      cases hconnected : (s.connections conn).connected with
      | true => exact .single (.respond hvalid hconnected hlen)
      | false => exact .single (.drop hconnected)
    · have hfail := fun h => hvalid (@RpcResponse.valid_of_encode _ [] [] h)
      dsimp only
      rw [if_pos (.inl (Bool.eq_false_of_not_eq_true hfail))]
      exact .single (.close (.inr hvalid))

/-! ### Requests and cancels -/

/-- A synchronous handler is run with the payload of the request, and its outcome is answered. -/
theorem invokeSyncHandler_eq {handler : RpcHandler} {request : RpcRequest}
    (hhandler : cfg.syncHandlers_.find? request.service_ request.method_ = some handler)
    (s : State) (frame : FrameId) (conn : ConnId) (outcome : Option RpcResult) :
    invokeSyncHandler cfg s frame conn request outcome =
      sendFramedData ((s.emit (.invoked frame conn request (.sync handler))).emit
        (.finished frame outcome)) conn request.requestId_ (.direct frame) (syncResult outcome)
        cfg.effectiveMaxMessageSize := by
  unfold invokeSyncHandler
  rw [hhandler]
  cases outcome with
  | none => rfl
  | some r =>
    dsimp only [syncResult]
    split_ifs <;> rfl

theorem steps_invokeSyncHandler {frame : FrameId} {conn : ConnId} {request : RpcRequest}
    (outcome : Option RpcResult)
    (hsync : isRegisteredInSync cfg request.service_ request.method_ = true) :
    Steps cfg proper network (s, .received frame conn request)
      (invokeSyncHandler cfg s frame conn request outcome, .idle) := by
  obtain ⟨handler, hhandler⟩ := Option.isSome_iff_exists.mp hsync
  rw [invokeSyncHandler_eq hhandler]
  exact .head (.invokeSync outcome hhandler) (steps_sendFramedData _ _ _ _)

theorem steps_invokeAsyncHandler {frame : FrameId} {conn : ConnId} {request : RpcRequest}
    (hsync : isRegisteredInSync cfg request.service_ request.method_ = false)
    (hasync : isRegisteredInAsync cfg request.service_ request.method_ = true) :
    Steps cfg proper network (s, .received frame conn request)
      (invokeAsyncHandler cfg s frame conn request, .idle) := by
  obtain ⟨handler, hhandler⟩ := Option.isSome_iff_exists.mp hasync
  unfold invokeAsyncHandler
  rw [hhandler]
  rcases s.cancellationRegistry_.registerToken_cases conn request.requestId_ frame with
    ⟨registry, hregister, hnone, hcanceled, hfind⟩ | ⟨status, hstatus, hregister⟩
  · simp only [hregister]
    exact .single (.register hhandler hnone hcanceled hfind
      (CancellationRegistry.limits_registerToken hregister))
  · simp only [hregister]
    cases status with
    | kRegistered => exact absurd rfl hstatus
    | kDuplicateRequestId =>
      have hactive := CancellationRegistry.find?_of_duplicate (congrArg Prod.fst hregister)
      exact .single (.refuseDuplicate ⟨hsync, hasync, hactive⟩)
    | kGlobalLimitReached | kConnectionLimitReached =>
      exact .head .refuseLimit (steps_sendFramedData _ _ _ _)

/-- A frame that was received is dispatched. -/
theorem steps_dispatch {frame : FrameId} {conn : ConnId} (request : RpcRequest)
    (outcome : Option RpcResult) : Steps cfg proper network (s, .received frame conn request)
      (dispatch cfg s frame conn request outcome, .idle) := by
  unfold dispatch
  split_ifs with hsync hasync
  · exact steps_invokeSyncHandler outcome hsync
  · exact steps_invokeAsyncHandler (Bool.eq_false_of_not_eq_true hsync) hasync
  · exact .head .unknownMethod (steps_sendFramedData _ _ _ _)

theorem steps_onRequest {conn : ConnId} (hup : (s.connections conn).state = .kUp)
    (hnetwork : network) (request : RpcRequest) (outcome : Option RpcResult) :
    Steps cfg proper network (s, .idle) (onRequest cfg s conn request outcome, .idle) :=
  .head (.receive request hup hnetwork) (steps_dispatch request outcome)

theorem steps_cancelAsync (hnetwork : network) (conn : ConnId) (requestId : UInt64) :
    Steps cfg proper network (s, .idle) (cancelAsync s conn requestId, .idle) := by
  unfold cancelAsync
  rcases s.cancellationRegistry_.cancel_cases conn requestId with
    ⟨token, hfound, hcanceled, hfind⟩ | ⟨hnone, hsame⟩
  · rw [hfound]
    exact .single (.cancel hfound hcanceled hfind hnetwork
      (s.cancellationRegistry_.limits_cancel conn requestId))
  · rw [hnone, hsame]
    exact .single (.cancelNone hnone hnetwork)

theorem steps_onRpcMessage {conn : ConnId} (hup : (s.connections conn).state = .kUp)
    (hnetwork : network) (msg : Bytes) (outcome : Option RpcResult) :
    Steps cfg proper network (s, .idle) (onRpcMessage cfg s conn msg outcome, .idle) := by
  have hclose : Steps cfg proper network (s, .idle) (forceClose s conn, .idle) :=
    .single (.forceClose hup hnetwork)
  unfold onRpcMessage
  split_ifs
  · exact hclose
  · exact hclose
  · split
    · exact hclose
    · split
      split_ifs
      · exact hclose
      · exact steps_cancelAsync hnetwork _ _
    · exact hclose
    · split
      split_ifs
      · exact hclose
      · exact steps_onRequest hup hnetwork _ _

/-! ### Operations in progress -/

theorem poolTasks_map_finish (pool : Option (TaskThreadPool Invocation)) (w : ℕ) :
    poolTasks (pool.map fun p => p.finish w) = poolTasks pool := by
  cases pool <;> rfl

/-- An operation in progress and the others. -/
theorem perm_of_getElem? {k : ℕ} {t : Thread} {activity : Activity}
    (h : s.running[k]? = some (t, activity)) :
    s.running.Perm ((t, activity) :: s.running.eraseIdx k) := by
  obtain ⟨hlt, hget⟩ := List.getElem?_eq_some_iff.mp h
  have hperm := (List.getElem_cons_eraseIdx_perm hlt).symm
  rwa [hget] at hperm

theorem perm_of_set {k : ℕ} {t : Thread} {activity : Activity}
    (h : s.running[k]? = some (t, activity)) (r : Thread × Activity) :
    (s.running.set k r).Perm (r :: s.running.eraseIdx k) :=
  List.set_perm_cons_eraseIdx (List.getElem?_eq_some_iff.mp h).1 r

/-- The worker of an operation that has ended is ready. -/
theorem steps_finish (s : State) (k : ℕ) (t : Thread) :
    Steps cfg proper network ({ s with running := s.running.eraseIdx k }, .idle)
      (s.release k t, .idle) := by
  cases t with
  | worker w => exact .single (.pool _ (poolTasks_map_finish _ w))
  | loop | user => exact .refl

theorem steps_release {k : ℕ} {t : Thread} {activity : Activity}
    (h : s.running[k]? = some (t, activity)) (hactivity : ∀ inv, activity ≠ .submit inv)
    (hdropped : ∀ inv r, activity = .reply inv r → (s.connections inv.conn).state = .kDown) :
    Steps cfg proper network (s, .idle) (s.release k t, .idle) :=
  .head (.leave (perm_of_getElem? h) hactivity hdropped) (steps_finish s k t)

theorem result_submitFailure (res : TaskSubmitResult) :
    (submitFailure res).result = kUnsuccess := by
  cases res <;> rfl

/-- The pool accepts the task. -/
theorem steps_accept {k : ℕ} {t : Thread} {inv : Invocation}
    {pool pool' : TaskThreadPool Invocation} (h : s.running[k]? = some (t, .submit inv))
    (hpool : s.taskPool_ = some pool) (htasks : pool'.tasks_ = pool.tasks_ ++ [inv]) :
    Steps cfg proper network (s, .idle)
      (State.release { s with taskPool_ := some pool' } k t, .idle) := by
  have hpool' : poolTasks (some pool') = poolTasks s.taskPool_ ++ [inv] := by
    rw [hpool]
    exact htasks
  exact .head (.enqueue (perm_of_getElem? h) hpool')
    (steps_finish { s with taskPool_ := some pool' } k t)

/-- The pool refuses the task. -/
theorem steps_refuse {k : ℕ} {t : Thread} {inv : Invocation}
    (h : s.running[k]? = some (t, .submit inv)) {r : RpcResult} (hr : r.result = kUnsuccess) :
    Steps cfg proper network (s, .idle)
      (reply (s.emit (.rejected inv.frame inv.conn inv.request)) k t inv r, .idle) := by
  unfold reply
  split_ifs with hflag
  · exact .head (.refuseReplied (perm_of_getElem? h) hflag)
      (steps_finish (s.emit (.rejected inv.frame inv.conn inv.request)) k t)
  · exact .single (.refuse r hr hflag (perm_of_getElem? h) (perm_of_set h _))

theorem steps_submit {k : ℕ} {t : Thread} {inv : Invocation}
    (h : s.running[k]? = some (t, .submit inv)) :
    Steps cfg proper network (s, .idle) (submit s k t inv, .idle) := by
  unfold submit
  split
  · exact .single (.startHandler (perm_of_getElem? h) (perm_of_set h _))
  · rename_i pool hpool
    rcases pool.addTask_cases inv with hadd | ⟨hres, -⟩
    · rw [hadd]
      exact steps_accept h hpool rfl
    · split
      · rename_i heq
        rw [heq] at hres
        exact absurd rfl hres
      · exact steps_refuse h (result_submitFailure _)

theorem steps_userReply {inv : Invocation} (hinv : inv ∈ s.replies) (r : RpcResult) :
    Steps cfg proper network (s, .idle) (userReply s inv r, .idle) := by
  unfold userReply
  split_ifs with hflag
  · exact .refl
  · exact .single (.userReply r hinv hflag)

/-! ### Queued tasks -/

theorem steps_runReply {l : LoopId} {inv : Invocation} {r : RpcResult}
    {tasks : Channel LoopId LoopTask} (htasks : s.tasks.Perm ((l, .reply inv r) :: tasks))
    (hproper : proper → (LoopTask.reply inv r).Proper s.cancellationRegistry_) :
    Steps cfg proper network (s, .idle) (runReply cfg { s with tasks := tasks } inv r, .idle) := by
  have hfst := s.cancellationRegistry_.take_fst inv.conn inv.request.requestId_
  have hfind := s.cancellationRegistry_.find?_take inv.conn inv.request.requestId_
  have hcanceled := s.cancellationRegistry_.canceled_take inv.conn inv.request.requestId_
  have hlimits := s.cancellationRegistry_.limits_take inv.conn inv.request.requestId_
  unfold runReply
  dsimp only
  split
  · rename_i hnone
    have hnone := hfst.symm.trans hnone
    have hsame : (s.cancellationRegistry_.take inv.conn inv.request.requestId_).2 =
        s.cancellationRegistry_ := s.cancellationRegistry_.take_of_none hnone
    rw [hsame]
    exact .single (.takeNone htasks hnone)
  · rename_i token hsome
    have hsome := hfst.symm.trans hsome
    rw [hcanceled]
    split_ifs with htoken
    · exact .single (.takeCanceled htasks hsome hcanceled hfind htoken hlimits)
    · refine .head (.take htasks hsome hcanceled hfind htoken (fun hp hmem => ?_) hlimits)
        (steps_sendFramedData _ _ _ _)
      cases (hproper hp hmem).symm.trans hsome

theorem steps_tryCompleteStop (s : State) :
    Steps cfg proper network (s, .idle) (tryCompleteStop s, .idle) := by
  unfold tryCompleteStop
  split_ifs
  · exact .refl
  · exact .head (.control .kStopped _ _ _) (.single .stopCompleted)
  · exact .refl

theorem steps_onTaskPoolStopped (s : State) :
    Steps cfg proper network (s, .idle) (onTaskPoolStopped s, .idle) :=
  .head (.control s.status_ _ true _) (steps_tryCompleteStop _)

theorem steps_runTask {l : LoopId} {task : LoopTask} {tasks : Channel LoopId LoopTask}
    (htasks : s.tasks.Perm ((l, task) :: tasks))
    (hproper : proper → task.Proper s.cancellationRegistry_) :
    Steps cfg proper network (s, .idle) (runTask cfg { s with tasks := tasks } task, .idle) := by
  cases task with
  | reply inv r => exact steps_runReply htasks hproper
  | onTaskPoolStopped => exact .head (.popStopped htasks) (steps_onTaskPoolStopped _)

/-! ### The machine -/

/-- A step of the pool that leaves the queued tasks as they are. -/
theorem step_pool {pool pool' : TaskThreadPool Invocation} (hpool : s.taskPool_ = some pool)
    (htasks : pool'.tasks_ = pool.tasks_) :
    Transition cfg proper network (s, .idle) ({ s with taskPool_ := some pool' }, .idle) := by
  refine .pool _ ?_
  rw [hpool]
  exact htasks

theorem steps_start (s : State) : Steps cfg proper network (s, .idle) (start s, .idle) := by
  unfold start
  split_ifs
  · exact .refl
  · refine .head (.pool (s.taskPool_.map TaskThreadPool.start) ?_)
      (.single (.control .kRunning _ _ _))
    cases s.taskPool_ with
    | none => rfl
    | some pool => exact pool.tasks_start

theorem steps_stop (s : State) : Steps cfg proper network (s, .idle) (stop s, .idle) := by
  unfold stop
  split_ifs
  · exact .refl
  · refine .head (.control .kStopping s.tcpServerStopped_ s.taskPoolStopped_
      s.taskPoolStopThread_) ?_
    dsimp only
    split
    · exact .single (.control _ _ _ .spawned)
    · exact steps_onTaskPoolStopped _

theorem steps_step {a : Action} {s' : State} (hproper : proper → Proper s a)
    (hnetwork : a.isNetwork = true → network)
    (h : step cfg s a = some s') : Steps cfg proper network (s, .idle) (s', .idle) := by
  cases stepped_of_step h with
  | start => exact steps_start s
  | stop => exact steps_stop s
  | tcpServerStopped => exact .head (.control s.status_ true _ _) (steps_tryCompleteStop _)
  | userReply hinv => exact steps_userReply hinv _
  | submit hk => exact steps_submit hk
  | handlerReturns hk => exact steps_release hk (fun inv hinv => by cases hinv) nofun
  | dropReply hk hdown =>
    refine steps_release hk (fun inv hinv => by cases hinv) fun inv r hreply => ?_
    obtain ⟨rfl, -⟩ := Activity.reply.inj hreply
    exact hdown
  | handlerThrows hk =>
    unfold reply
    split_ifs with hflag
    · exact steps_release hk (fun inv hinv => by cases hinv) nofun
    · exact .single (.handlerThrows hflag (perm_of_getElem? hk) (perm_of_set hk _))
  | @queueReply k t inv r hk =>
    refine .head (.queueReply (perm_of_getElem? hk)) ?_
    exact steps_finish (s.queueInLoop _ _) k t
  | @poolBeginStop pool hpool =>
    refine .head (step_pool hpool ?_) (.single (.control s.status_ _ _ .joining))
    cases hbegin : pool.beginStop with
    | none => rfl
    | some pool' => exact TaskThreadPool.tasks_of_beginStop hbegin
  | poolFinishStop hpool _ hfinish =>
    refine .head (step_pool hpool (TaskThreadPool.tasks_of_finishStop hfinish)) ?_
    exact .head (.control s.status_ _ _ .finished) (.single .pushStopped)
  | @workerTake w _ _ _ hpool htake =>
    refine .single (.workerTake w ?_)
    rw [hpool]
    exact TaskThreadPool.take_eq_some htake
  | workerExit hpool hexit =>
    exact .single (step_pool hpool (TaskThreadPool.tasks_of_exit hexit))
  | connectionUp _ hnew => exact .single (.up hnew)
  | peerHalfClose hup | loseConnection hup => exact .single (.closing hup hup rfl)
  | connectionDown hup => exact .single (.down hup)
  | deliver hup => exact steps_onRpcMessage hup (hnetwork rfl) _ _
  | transmit => exact .single (.transmit _ (hnetwork rfl))
  | runTask _ htask =>
    exact steps_runTask (Channel.perm_of_first htask) fun hp => hproper hp _ htask

/-! ### Invariants of the transitions -/

/-- What holds at the start and is kept by every transition holds after every proper run. -/
theorem invariant_of_proper {P : State × Phase → Prop} (hinit : P (.init cfg, .idle))
    (hP : ∀ x y, P x → Transition cfg True True x y → P y)
    (h : (machine cfg).ReachableBy Proper s) : P (s, .idle) := by
  refine h.invariant (P := fun s => P (s, .idle)) hinit ?_
  intro s a s' _ hproper hold hs
  exact Machine.preserved_of_chain hP (steps_step (fun _ => hproper) (fun _ => trivial) hs) hold

/-- What holds at the start and is kept by every transition holds after every run. -/
theorem invariant {P : State × Phase → Prop} (hinit : P (.init cfg, .idle))
    (hP : ∀ x y, P x → Transition cfg False True x y → P y)
    (h : (machine cfg).Reachable s) : P (s, .idle) := by
  refine Machine.ReachableBy.invariant (P := fun s => P (s, .idle)) hinit ?_ h
  intro s a s' _ _ hold hs
  exact Machine.preserved_of_chain hP (steps_step False.elim (fun _ => trivial) hs) hold

end MiniRpc.RpcServer
