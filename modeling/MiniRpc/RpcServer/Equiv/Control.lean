import MiniRpc.RpcServer.Equiv.Decompose
import MiniRpc.TaskThreadPool.Equiv.Sound

/-!
# What the steps do to the worker pool and to the control of the server

`SameControl`: serving requests leaves the status of the server and what its stopping depends on as
they are.  `ControlStep` adds, for every step, what happens to the worker pool and to the tasks that
its workers run.
-/

namespace MiniRpc.RpcServer

variable {cfg : Config} {s s' s'' : State}

/-! ### The tasks of the workers -/

/-- The invocation an operation is part of. -/
def Activity.inv : Activity → Invocation
  | .submit inv => inv
  | .handler inv => inv
  | .reply inv _ => inv

/-- The worker of an operation and the invocation it runs. -/
def workerTask : Thread × Activity → Option (ℕ × Invocation)
  | (.worker w, activity) => some (w, activity.inv)
  | _ => none

/-- The workers that run a task, with their tasks. -/
def workerTasks (running : List (Thread × Activity)) : List (ℕ × Invocation) :=
  running.filterMap workerTask

/-- An operation in progress comes to its end. -/
theorem workerTasks_eraseIdx {k : ℕ} {r : Thread × Activity} (h : s.running[k]? = some r) :
    (workerTasks s.running).Perm
      ((workerTask r).toList ++ workerTasks (s.running.eraseIdx k)) := by
  have hperm := (@perm_of_getElem? s k r.1 r.2 h).filterMap workerTask
  rw [List.filterMap_cons] at hperm
  unfold workerTasks
  cases hr : workerTask r with
  | none => rwa [show workerTask (r.1, r.2) = none from hr] at hperm
  | some task => rwa [show workerTask (r.1, r.2) = some task from hr] at hperm

/-- An operation goes on, for the same invocation on the same thread. -/
theorem workerTasks_set {k : ℕ} {r r' : Thread × Activity} (h : s.running[k]? = some r)
    (hr : workerTask r' = workerTask r) :
    (workerTasks (s.running.set k r')).Perm (workerTasks s.running) := by
  have hset := (@perm_of_set s k r.1 r.2 h r').filterMap workerTask
  have hold := workerTasks_eraseIdx h
  rw [List.filterMap_cons, hr] at hset
  refine List.Perm.trans ?_ hold.symm
  unfold workerTasks
  cases hr' : workerTask r with
  | none => rwa [hr'] at hset
  | some task => rwa [hr'] at hset

/-! ### Serving requests -/

/-- How often `stopCompleteCallback_` was called. -/
def stopsCompleted (trace : List Event) : ℕ := trace.countP fun
  | .stopCompleted => true
  | _ => false

/-- The status of the server and what its stopping depends on are the same, and tasks are submitted
on the loops only. -/
structure SameControl (s s' : State) : Prop where
  status : s'.status_ = s.status_
  tcpServerStopped : s'.tcpServerStopped_ = s.tcpServerStopped_
  taskPoolStopped : s'.taskPoolStopped_ = s.taskPoolStopped_
  stopThread : s'.taskPoolStopThread_ = s.taskPoolStopThread_
  queued : ∀ l, (l, .onTaskPoolStopped) ∈ s'.tasks → (l, .onTaskPoolStopped) ∈ s.tasks
  completed : stopsCompleted s'.trace = stopsCompleted s.trace
  submits : ∀ t inv, (t, .submit inv) ∈ s'.running →
    (t, .submit inv) ∈ s.running ∨ ∃ l, t = .loop l

theorem SameControl.refl (s : State) : SameControl s s :=
  ⟨rfl, rfl, rfl, rfl, fun _ h => h, rfl, fun _ _ => .inl⟩

/-- The pool and its workers are the same as well. -/
structure SamePool (s s' : State) : Prop extends SameControl s s' where
  taskPool : s'.taskPool_ = s.taskPool_
  working : (workerTasks s'.running).Perm (workerTasks s.running)

theorem SamePool.refl (s : State) : SamePool s s := ⟨.refl s, rfl, .refl _⟩

/-- What is changed is not what matters here. -/
theorem SamePool.of_frame (hstatus : s'.status_ = s.status_)
    (htcp : s'.tcpServerStopped_ = s.tcpServerStopped_)
    (hpoolStopped : s'.taskPoolStopped_ = s.taskPoolStopped_)
    (hthread : s'.taskPoolStopThread_ = s.taskPoolStopThread_)
    (hpool : s'.taskPool_ = s.taskPool_) (htasks : s'.tasks = s.tasks)
    (hrunning : s'.running = s.running)
    (htrace : stopsCompleted s'.trace = stopsCompleted s.trace) : SamePool s s' where
  status := hstatus
  tcpServerStopped := htcp
  taskPoolStopped := hpoolStopped
  stopThread := hthread
  queued l h := htasks ▸ h
  completed := htrace
  submits t inv h := .inl (hrunning ▸ h)
  taskPool := hpool
  working := by rw [hrunning]

theorem SameControl.trans (h : SameControl s s') (h' : SameControl s' s'') : SameControl s s'' where
  status := h'.status.trans h.status
  tcpServerStopped := h'.tcpServerStopped.trans h.tcpServerStopped
  taskPoolStopped := h'.taskPoolStopped.trans h.taskPoolStopped
  stopThread := h'.stopThread.trans h.stopThread
  queued l hmem := h.queued l (h'.queued l hmem)
  completed := h'.completed.trans h.completed
  submits t inv hmem := (h'.submits t inv hmem).elim (h.submits t inv) .inr

theorem SamePool.trans (h : SamePool s s') (h' : SamePool s' s'') : SamePool s s'' where
  toSameControl := h.toSameControl.trans h'.toSameControl
  taskPool := h'.taskPool.trans h.taskPool
  working := h'.working.trans h.working

theorem samePool_rejected (s : State) (frame : FrameId) (conn : ConnId) (request : RpcRequest) :
    SamePool s (s.emit (.rejected frame conn request)) :=
  .of_frame rfl rfl rfl rfl rfl rfl rfl rfl

theorem samePool_forceClose (s : State) (conn : ConnId) : SamePool s (forceClose s conn) :=
  .of_frame rfl rfl rfl rfl rfl rfl rfl rfl

theorem samePool_encodeAndSend (s : State) (conn : ConnId) (origin : Origin)
    (response : RpcResponse) : SamePool s (encodeAndSend s conn origin response) := by
  unfold encodeAndSend
  dsimp only
  split_ifs
  · exact samePool_forceClose s conn
  · exact .of_frame rfl rfl rfl rfl rfl rfl rfl rfl
  · exact .refl s

theorem samePool_sendFramedData (s : State) (conn : ConnId) (requestId : UInt64) (origin : Origin)
    (r : RpcResult) (maxMessageSize : ℕ) :
    SamePool s (sendFramedData s conn requestId origin r maxMessageSize) := by
  rcases sendFramedData_eq s conn requestId origin r maxMessageSize with ⟨heq, -⟩ | ⟨heq, -⟩
  · rw [heq]
    exact samePool_forceClose s conn
  · rw [heq]
    exact samePool_encodeAndSend s conn origin _

theorem samePool_invokeSyncHandler (s : State) (frame : FrameId) (conn : ConnId)
    (request : RpcRequest) (outcome : Option RpcResult) :
    SamePool s (invokeSyncHandler cfg s frame conn request outcome) := by
  unfold invokeSyncHandler
  split
  · exact .refl s
  · rename_i handler hhandler
    have hemit : SamePool s ((s.emit (.invoked frame conn request (.sync handler))).emit
        (.finished frame outcome)) :=
      .of_frame rfl rfl rfl rfl rfl rfl rfl rfl
    refine hemit.trans ?_
    cases outcome with
    | none => exact samePool_sendFramedData _ _ _ _ _ _
    | some r =>
      dsimp only
      split_ifs
      · exact samePool_sendFramedData _ _ _ _ _ _
      · exact samePool_sendFramedData _ _ _ _ _ _

theorem samePool_invokeAsyncHandler (s : State) (frame : FrameId) (conn : ConnId)
    (request : RpcRequest) : SamePool s (invokeAsyncHandler cfg s frame conn request) := by
  unfold invokeAsyncHandler
  split
  · exact .refl s
  · rename_i handler hhandler
    dsimp only
    split
    · exact (samePool_rejected s _ _ _).trans (samePool_forceClose _ conn)
    · exact (samePool_rejected s _ _ _).trans (samePool_sendFramedData _ _ _ _ _ _)
    · exact (samePool_rejected s _ _ _).trans (samePool_sendFramedData _ _ _ _ _ _)
    · -- the token is registered, and the task is about to be submitted
      refine ⟨⟨rfl, rfl, rfl, rfl, fun _ h => h, rfl, fun t inv hmem => ?_⟩, rfl, .refl _⟩
      rcases List.mem_cons.mp hmem with heq | hold
      · exact .inr ⟨_, (Prod.mk.inj heq).1⟩
      · exact .inl hold

theorem samePool_onRequest (s : State) (conn : ConnId) (request : RpcRequest)
    (outcome : Option RpcResult) : SamePool s (onRequest cfg s conn request outcome) := by
  have hreceive : SamePool s (receive s conn request) :=
    .of_frame rfl rfl rfl rfl rfl rfl rfl rfl
  refine hreceive.trans ?_
  unfold onRequest dispatch
  split_ifs
  · exact samePool_invokeSyncHandler _ _ _ _ _
  · exact samePool_invokeAsyncHandler _ _ _ _
  · exact samePool_sendFramedData _ _ _ _ _ _

theorem samePool_onRpcMessage (s : State) (conn : ConnId) (msg : Bytes)
    (outcome : Option RpcResult) : SamePool s (onRpcMessage cfg s conn msg outcome) := by
  have hclose := samePool_forceClose s conn
  unfold onRpcMessage
  split_ifs
  · exact hclose
  · exact hclose
  · split
    · exact hclose
    · dsimp only
      split_ifs
      · exact hclose
      · exact .of_frame rfl rfl rfl rfl rfl rfl rfl rfl
    · exact hclose
    · dsimp only
      split_ifs
      · exact hclose
      · exact samePool_onRequest s conn _ outcome

theorem samePool_runReply (s : State) (inv : Invocation) (r : RpcResult) :
    SamePool s (runReply cfg s inv r) := by
  have hregistry : ∀ registry, SamePool s { s with cancellationRegistry_ := registry } :=
    fun registry => .of_frame rfl rfl rfl rfl rfl rfl rfl rfl
  unfold runReply
  dsimp only
  split
  · exact hregistry _
  · split_ifs
    · exact hregistry _
    · exact (hregistry _).trans (samePool_sendFramedData _ _ _ _ _ _)

/-! ### Tasks of the pool -/

/-- The task the pool accepts when the action is taken. -/
def accepted? (s : State) : Action → Option Invocation
  | .submit k =>
    match s.running[k]?, s.taskPool_ with
    | some (_, .submit inv), some pool =>
      if (pool.addTask (some inv)).1 = .kAccepted then some inv else none
    | _, _ => none
  | _ => none

/-- The task of a worker that ends with the action: its handler returns or throws, and where it
throws first, the reply object returns. -/
def returned? (s : State) : Action → Option Invocation
  | .handlerReturns k =>
    match s.running[k]? with
    | some (.worker _, .handler inv) => some inv
    | _ => none
  | .handlerThrows k =>
    match s.running[k]? with
    | some (.worker _, .handler inv) => if inv.frame ∈ s.repliedFlags then some inv else none
    | _ => none
  | .queueReply k | .dropReply k =>
    match s.running[k]? with
    | some (.worker _, .reply inv _) => some inv
    | _ => none
  | _ => none

/-- What a step does to the pool, its workers and the control of the server. -/
inductive ControlStep (s s' : State) : Action → Prop
  | same {a : Action} (haccepted : accepted? s a = none) (hreturned : returned? s a = none)
      (h : SamePool s s') : ControlStep s s' a
  /-- A task is accepted. -/
  | accept {a : Action} {pool pool' : TaskThreadPool Invocation} {inv : Invocation}
      (haccepted : accepted? s a = some inv) (hreturned : returned? s a = none)
      (h : SameControl s s') (hpool : s.taskPool_ = some pool)
      (hadd : pool.addTask (some inv) = (.kAccepted, pool')) (hpool' : s'.taskPool_ = some pool')
      (hworking : (workerTasks s'.running).Perm (workerTasks s.running)) : ControlStep s s' a
  /-- A worker has run its task. -/
  | finish {a : Action} {w : ℕ} {inv : Invocation} (haccepted : accepted? s a = none)
      (hreturned : returned? s a = some inv) (h : SameControl s s')
      (hpool' : s'.taskPool_ = s.taskPool_.map fun pool => pool.finish w)
      (hworking : (workerTasks s.running).Perm ((w, inv) :: workerTasks s'.running)) :
      ControlStep s s' a
  | take {w : ℕ} {pool pool' : TaskThreadPool Invocation} {inv : Invocation}
      (h : SameControl s s') (hpool : s.taskPool_ = some pool)
      (htake : pool.take w = some (inv, pool')) (hpool' : s'.taskPool_ = some pool')
      (hworking : workerTasks s'.running = (w, inv) :: workerTasks s.running) :
      ControlStep s s' (.workerTake w)
  | exit {w : ℕ} {pool pool' : TaskThreadPool Invocation} (hpool : s.taskPool_ = some pool)
      (hexit : pool.exit w = some pool') (hs : s' = { s with taskPool_ := some pool' }) :
      ControlStep s s' (.workerExit w)
  | start (hs : s' = start s) : ControlStep s s' .start
  | stop (hs : s' = stop s) : ControlStep s s' .stop
  | tcpServerStopped (hstatus : ¬ (s.status_ = .kNotStarted ∨ s.status_ = .kRunning))
      (hs : s' = onTcpServerStopped s) : ControlStep s s' .tcpServerStopped
  | taskPoolStopped {l : LoopId} (htask : (l, .onTaskPoolStopped) ∈ s.tasks)
      (hs : s' = onTaskPoolStopped { s with tasks := s.tasks.dropFirst l }) :
      ControlStep s s' (.runTask l)
  | beginStop {pool : TaskThreadPool Invocation} (hpool : s.taskPool_ = some pool)
      (hthread : s.taskPoolStopThread_ = .spawned)
      (hs : s' = { s with
        taskPool_ := some (pool.beginStop.getD pool), taskPoolStopThread_ := .joining }) :
      ControlStep s s' .poolBeginStop
  | finishStop {pool pool' : TaskThreadPool Invocation} (hpool : s.taskPool_ = some pool)
      (hthread : s.taskPoolStopThread_ = .joining) (hfinish : pool.finishStop = some pool')
      (hs : s' = { s with taskPool_ := some pool', taskPoolStopThread_ := .finished }.queueInLoop 0
        .onTaskPoolStopped) : ControlStep s s' .poolFinishStop

/-- An operation that is no task of a worker ends. -/
theorem samePool_release {k : ℕ} {t : Thread} {activity : Activity}
    (h : s.running[k]? = some (t, activity)) (ht : ∀ w, t ≠ .worker w) :
    SamePool s (s.release k t) := by
  have hperm := workerTasks_eraseIdx h
  cases t with
  | worker w => exact absurd rfl (ht w)
  | loop | user =>
    exact ⟨⟨rfl, rfl, rfl, rfl, fun _ h => h, rfl,
      fun _ _ hmem => .inl (List.mem_of_mem_eraseIdx hmem)⟩, rfl, hperm.symm⟩

/-- An operation that is no submission ends. -/
theorem controlStep_leave {u : State} {a : Action} {k : ℕ} {t : Thread} {activity : Activity}
    (hsame : SamePool s u) (h : u.running[k]? = some (t, activity))
    (haccepted : accepted? s a = none)
    (hreturned : returned? s a = (workerTask (t, activity)).map Prod.snd) :
    ControlStep s (u.release k t) a := by
  cases t with
  | worker w =>
    have hcontrol : SameControl u (u.release k (.worker w)) :=
      ⟨rfl, rfl, rfl, rfl, fun _ h => h, rfl, fun _ _ hmem => .inl (List.mem_of_mem_eraseIdx hmem)⟩
    refine .finish haccepted hreturned (hsame.toSameControl.trans hcontrol) ?_
      (hsame.working.symm.trans (workerTasks_eraseIdx h))
    rw [← hsame.taskPool]
    rfl
  | loop | user => exact .same haccepted hreturned (hsame.trans (samePool_release h nofun))

/-- An operation goes on as a call of the reply object. -/
theorem samePool_set {k : ℕ} {t : Thread} {activity activity' : Activity}
    (h : s.running[k]? = some (t, activity)) (hinv : activity'.inv = activity.inv)
    (hsubmit : ∀ inv, activity' ≠ .submit inv) :
    SamePool s { s with running := s.running.set k (t, activity') } := by
  have htask : workerTask (t, activity') = workerTask (t, activity) := by
    cases t with
    | worker w => exact congrArg (fun inv => some (w, inv)) hinv
    | loop | user => rfl
  refine ⟨⟨rfl, rfl, rfl, rfl, fun _ h => h, rfl, fun t inv hmem => .inl ?_⟩, rfl,
    workerTasks_set h htask⟩
  rcases List.mem_or_eq_of_mem_set hmem with hold | heq
  · exact hold
  · exact absurd (Prod.mk.inj heq).2.symm (hsubmit inv)

/-- The pool refuses a task, and the reply object is called. -/
theorem samePool_refuse {k : ℕ} {t : Thread} {inv : Invocation}
    (h : s.running[k]? = some (t, .submit inv)) (ht : ∀ w, t ≠ .worker w) (r : RpcResult) :
    SamePool s (reply (s.emit (.rejected inv.frame inv.conn inv.request)) k t inv r) := by
  refine (samePool_rejected s inv.frame inv.conn inv.request).trans ?_
  unfold reply
  split_ifs
  · exact samePool_release h ht
  · have hset := @samePool_set (s.emit (.rejected inv.frame inv.conn inv.request)) k t _
      (.reply inv r) h rfl nofun
    exact hset.trans (.of_frame rfl rfl rfl rfl rfl rfl rfl rfl)

theorem controlStep_submit {k : ℕ} {t : Thread} {inv : Invocation}
    (h : s.running[k]? = some (t, .submit inv)) (ht : ∀ w, t ≠ .worker w) :
    ControlStep s (submit s k t inv) (.submit k) := by
  unfold submit
  split
  · rename_i hnone
    have haccepted : accepted? s (.submit k) = none := by
      simp only [accepted?, h, hnone]
    have hset := @samePool_set s k t _ (.handler inv) h rfl nofun
    exact .same haccepted rfl (hset.trans (.of_frame rfl rfl rfl rfl rfl rfl rfl rfl))
  · rename_i pool hpool
    have haccepted : accepted? s (.submit k) =
        if (pool.addTask (some inv)).1 = .kAccepted then some inv else none := by
      simp only [accepted?, h, hpool]
    split
    · rename_i pool' hadd
      rw [hadd, if_pos rfl] at haccepted
      have hrelease := @samePool_release { s with taskPool_ := some pool' } k t _ h ht
      have hpool' : (State.release { s with taskPool_ := some pool' } k t).taskPool_ = some pool' :=
        hrelease.taskPool
      refine .accept haccepted rfl ?_ hpool hadd hpool' hrelease.working
      exact ⟨hrelease.status, hrelease.tcpServerStopped, hrelease.taskPoolStopped,
        hrelease.stopThread, hrelease.queued, hrelease.completed, hrelease.submits⟩
    · rename_i res pool' hres hadd
      have hrefused : (pool.addTask (some inv)).1 ≠ .kAccepted := by
        rw [hadd]
        rintro rfl
        exact hres rfl
      rw [if_neg hrefused] at haccepted
      exact .same haccepted rfl (samePool_refuse h ht _)

/-- A handler throws, and the reply object is called. -/
theorem controlStep_handlerThrows {k : ℕ} {t : Thread} {inv : Invocation}
    (h : s.running[k]? = some (t, .handler inv)) :
    ControlStep s (reply s k t inv handlerException) (.handlerThrows k) := by
  unfold reply
  split_ifs with hflag
  · -- the handler replied before it threw, so its task ends here
    refine controlStep_leave (.refl s) h rfl ?_
    cases t with
    | worker => simp only [returned?, h, if_pos hflag]; rfl
    | loop | user => simp only [returned?, h]; rfl
  · -- the task goes on with the reply object
    have hset := @samePool_set s k t _ (.reply inv handlerException) h rfl nofun
    refine .same rfl ?_ (hset.trans (.of_frame rfl rfl rfl rfl rfl rfl rfl rfl))
    cases t with
    | worker => simp only [returned?, h, if_neg hflag]
    | loop | user => simp only [returned?, h]

theorem controlStep_queueReply {k : ℕ} {t : Thread} {inv : Invocation} {r : RpcResult}
    (h : s.running[k]? = some (t, .reply inv r)) : ControlStep s
      ((s.queueInLoop (cfg.loopOf inv.conn) (.reply inv (replyResult r))).release k t)
      (.queueReply k) := by
  have hqueue : SamePool s (s.queueInLoop (cfg.loopOf inv.conn) (.reply inv (replyResult r))) := by
    refine ⟨⟨rfl, rfl, rfl, rfl, fun l hmem => ?_, rfl, fun _ _ => .inl⟩, rfl, .refl _⟩
    rcases List.mem_append.mp hmem with hold | hnew
    · exact hold
    · cases List.mem_singleton.mp hnew
  refine controlStep_leave hqueue h rfl ?_
  cases t with
  | worker | loop | user => simp only [returned?, h]; rfl

theorem samePool_userReply (s : State) (inv : Invocation) (r : RpcResult) :
    SamePool s (userReply s inv r) := by
  unfold userReply
  split_ifs
  · exact .refl s
  · refine ⟨⟨rfl, rfl, rfl, rfl, fun _ h => h, rfl, fun t inv' hmem => .inl ?_⟩, rfl, .refl _⟩
    rcases List.mem_cons.mp hmem with heq | hold
    · cases heq
    · exact hold

theorem controlStep_runTask {l : LoopId} {task : LoopTask} (htask : s.tasks.first l = some task) :
    ControlStep s (runTask cfg { s with tasks := s.tasks.dropFirst l } task) (.runTask l) := by
  cases task with
  | reply inv r =>
    have hdrop : SamePool s { s with tasks := s.tasks.dropFirst l } :=
      ⟨⟨rfl, rfl, rfl, rfl, fun _ hmem => Channel.mem_of_mem_dropFirst hmem, rfl,
        fun _ _ => .inl⟩, rfl, .refl _⟩
    exact .same rfl rfl (hdrop.trans (samePool_runReply _ inv r))
  | onTaskPoolStopped => exact .taskPoolStopped (Channel.mem_of_first htask) rfl

/-- **What a step does to the pool and the control of the server**, if tasks are submitted on the
loops only. -/
theorem controlStep_of_step {a : Action}
    (hsubmits : ∀ t inv, (t, .submit inv) ∈ s.running → ∃ l, t = .loop l)
    (hs : step cfg s a = some s') : ControlStep s s' a := by
  cases stepped_of_step hs with
  | start => exact .start rfl
  | stop => exact .stop rfl
  | tcpServerStopped hstatus => exact .tcpServerStopped hstatus rfl
  | userReply => exact .same rfl rfl (samePool_userReply s _ _)
  | @submit k t inv hk =>
    -- a submission is never a task of a worker
    refine controlStep_submit hk ?_
    rintro w rfl
    obtain ⟨l, hl⟩ := hsubmits _ inv (List.mem_of_getElem? hk)
    cases hl
  | @handlerReturns k t inv hk =>
    refine controlStep_leave (.refl s) hk rfl ?_
    cases t with
    | worker | loop | user => simp only [returned?, hk]; rfl
  | handlerThrows hk => exact controlStep_handlerThrows hk
  | queueReply hk => exact controlStep_queueReply hk
  | @dropReply k t inv r hk =>
    refine controlStep_leave (.refl s) hk rfl ?_
    cases t with
    | worker | loop | user => simp only [returned?, hk]; rfl
  | poolBeginStop hpool hthread => exact .beginStop hpool hthread rfl
  | poolFinishStop hpool hthread hfinish => exact .finishStop hpool hthread hfinish rfl
  | workerTake hpool htake =>
    refine .take ⟨rfl, rfl, rfl, rfl, fun _ h => h, rfl, fun t inv' hmem => .inl ?_⟩ hpool htake rfl
      rfl
    -- the worker calls the handler, which is no submission
    rcases List.mem_cons.mp hmem with heq | hold
    · cases heq
    · exact hold
  | workerExit hpool hexit => exact .exit hpool hexit rfl
  | connectionUp | peerHalfClose | loseConnection | connectionDown | transmit =>
    exact .same rfl rfl (.of_frame rfl rfl rfl rfl rfl rfl rfl rfl)
  | deliver => exact .same rfl rfl (samePool_onRpcMessage s _ _ _)
  | runTask _ htask => exact controlStep_runTask htask

end MiniRpc.RpcServer
