import MiniRpc.Machine.Progress
import MiniRpc.RpcServer.Equiv.Control
import MiniRpc.RpcServer.Equiv.Session

/-!
# What the threads of a server have to do

`Work` is the server without its connections, its registry and its trace: the operations in
progress, the tasks queued in the loops, the worker pool, and how far the stopping has come.
`WorkStep` is what the steps of the server do to it (`workStep_of_step`).

`Work.rank` counts what is left to do.  Every internal action lowers it (`WorkStep.rank_le`): a
submission becomes a task of the pool or a handler, a handler a call of the reply object, that a
task of a loop, and a task of a loop is run.
-/

namespace MiniRpc.RpcServer

variable {cfg : Config} {s s' : State} {a : Action}

/-! ### The work of a server -/

/-- What the threads of a server work on. -/
structure Work where
  status_ : Status
  tcpServerStopped_ : Bool
  taskPoolStopped_ : Bool
  taskPool_ : Option (TaskThreadPool Invocation)
  taskPoolStopThread_ : TaskPoolStopThread
  tasks : Channel LoopId LoopTask
  running : List (Thread × Activity)
  deriving DecidableEq, Repr

def State.work (s : State) : Work where
  status_ := s.status_
  tcpServerStopped_ := s.tcpServerStopped_
  taskPoolStopped_ := s.taskPoolStopped_
  taskPool_ := s.taskPool_
  taskPoolStopThread_ := s.taskPoolStopThread_
  tasks := s.tasks
  running := s.running

/-- The actions that nobody outside the server has to do anything for; handlers return or throw. -/
def internal : Action → Bool
  | .submit _ | .handlerReturns _ | .handlerThrows _ | .queueReply _ | .dropReply _ => true
  | .runTask _ | .poolBeginStop | .poolFinishStop | .workerTake _ | .workerExit _ => true
  | _ => false

theorem isNetwork_of_internal (ha : internal a = true) : a.isNetwork = false := by
  cases a with
  | transmit | deliver => cases ha
  | _ => rfl

namespace Work

/-- The `k`-th operation in progress ends; a worker waits for its next task. -/
def release (w : Work) (k : ℕ) : Thread → Work
  | .worker n =>
    { w with running := w.running.eraseIdx k, taskPool_ := w.taskPool_.map fun p => p.finish n }
  | _ => { w with running := w.running.eraseIdx k }

/-- The stopping ends when both sides have been reported. -/
def complete (w : Work) : Work :=
  if w.status_ = .kStopping ∧ w.tcpServerStopped_ = true ∧ w.taskPoolStopped_ = true then
    { w with status_ := .kStopped }
  else w

end Work

/-- How far an operation is from its end. -/
def Activity.weight : Activity → ℕ
  | .submit _ => 7
  | .handler _ => 4
  | .reply _ _ => 3

/-- What an action does to the work of a server. -/
inductive WorkStep (w : Work) : Action → Work → Prop
  | idle {a : Action} (ha : internal a = false) : WorkStep w a w
  /-- A request for an asynchronous handler arrives. -/
  | arrive {conn : ConnId} {msg : Bytes} {outcome : Option RpcResult} (l : LoopId)
      (inv : Invocation) : WorkStep w (.deliver conn msg outcome)
        { w with running := (.loop l, .submit inv) :: w.running }
  | userReply {inv : Invocation} {r : RpcResult} : WorkStep w (.reply inv r)
      { w with running := (.user, .reply inv r) :: w.running }
  /-- An operation goes on with its next part. -/
  | next {a : Action} {k : ℕ} {t : Thread} {activity activity' : Activity}
      (hk : w.running[k]? = some (t, activity)) (hlt : activity'.weight < activity.weight)
      (hinv : activity'.inv = activity.inv) :
      WorkStep w a { w with running := w.running.set k (t, activity') }
  /-- An operation ends. -/
  | leave {a : Action} {k : ℕ} {t : Thread} {activity : Activity}
      (hk : w.running[k]? = some (t, activity)) : WorkStep w a (w.release k t)
  /-- The pool accepts a task. -/
  | accept {k : ℕ} {t : Thread} {inv : Invocation} {pool pool' : TaskThreadPool Invocation}
      (hk : w.running[k]? = some (t, .submit inv)) (hpool : w.taskPool_ = some pool)
      (hadd : pool.addTask (some inv) = (.kAccepted, pool')) :
      WorkStep w (.submit k) (Work.release { w with taskPool_ := some pool' } k t)
  | queueReply {k : ℕ} {t : Thread} {inv : Invocation} {r : RpcResult} (l : LoopId)
      (hk : w.running[k]? = some (t, .reply inv r)) : WorkStep w (.queueReply k)
        (Work.release { w with tasks := w.tasks ++ [(l, .reply inv (replyResult r))] } k t)
  | runReply {l : LoopId} {inv : Invocation} {r : RpcResult}
      (hfirst : w.tasks.first l = some (.reply inv r)) :
      WorkStep w (.runTask l) { w with tasks := w.tasks.dropFirst l }
  | onTaskPoolStopped {l : LoopId} (hfirst : w.tasks.first l = some .onTaskPoolStopped) :
      WorkStep w (.runTask l)
        (Work.complete { w with tasks := w.tasks.dropFirst l, taskPoolStopped_ := true })
  | start (hstatus : w.status_ = .kNotStarted) : WorkStep w .start
      { w with taskPool_ := w.taskPool_.map TaskThreadPool.start, status_ := .kRunning }
  | stop {pool : TaskThreadPool Invocation} (hstatus : w.status_ = .kRunning)
      (hpool : w.taskPool_ = some pool) :
      WorkStep w .stop { w with status_ := .kStopping, taskPoolStopThread_ := .spawned }
  /-- `stop` of a server without workers. -/
  | stopAlone (hstatus : w.status_ = .kRunning) (hpool : w.taskPool_ = none) :
      WorkStep w .stop (Work.complete { w with status_ := .kStopping, taskPoolStopped_ := true })
  | tcpServerStopped (hstatus : ¬ (w.status_ = .kNotStarted ∨ w.status_ = .kRunning)) :
      WorkStep w .tcpServerStopped (Work.complete { w with tcpServerStopped_ := true })
  | poolBeginStop {pool : TaskThreadPool Invocation} (hpool : w.taskPool_ = some pool)
      (hthread : w.taskPoolStopThread_ = .spawned) : WorkStep w .poolBeginStop
        { w with taskPool_ := some (pool.beginStop.getD pool), taskPoolStopThread_ := .joining }
  | poolFinishStop {pool pool' : TaskThreadPool Invocation} (hpool : w.taskPool_ = some pool)
      (hthread : w.taskPoolStopThread_ = .joining) (hfinish : pool.finishStop = some pool') :
      WorkStep w .poolFinishStop { w with
        taskPool_ := some pool'
        taskPoolStopThread_ := .finished
        tasks := w.tasks ++ [(0, .onTaskPoolStopped)] }
  | workerTake {n : ℕ} {pool pool' : TaskThreadPool Invocation} {inv : Invocation}
      (hpool : w.taskPool_ = some pool) (htake : pool.take n = some (inv, pool')) :
      WorkStep w (.workerTake n) { w with
        taskPool_ := some pool'
        running := (.worker n, .handler inv) :: w.running }
  | workerExit {n : ℕ} {pool pool' : TaskThreadPool Invocation} (hpool : w.taskPool_ = some pool)
      (hexit : pool.exit n = some pool') :
      WorkStep w (.workerExit n) { w with taskPool_ := some pool' }

/-! ### What the operations do to it -/

theorem work_release (s : State) (k : ℕ) (t : Thread) :
    (s.release k t).work = s.work.release k t := by
  cases t <;> rfl

theorem work_sendFramedData (s : State) (conn : ConnId) (requestId : UInt64) (origin : Origin)
    (r : RpcResult) (maxMessageSize : ℕ) :
    (sendFramedData s conn requestId origin r maxMessageSize).work = s.work := by
  rw [sendFramedData_eq_answer]
  split
  · rfl
  · split <;> rfl

theorem work_invokeSyncHandler (s : State) (frame : FrameId) (conn : ConnId)
    (request : RpcRequest) (outcome : Option RpcResult) :
    (invokeSyncHandler cfg s frame conn request outcome).work = s.work := by
  unfold invokeSyncHandler
  split
  · rfl
  · dsimp only
    split
    · exact work_sendFramedData _ _ _ _ _ _
    · split
      · exact work_sendFramedData _ _ _ _ _ _
      · exact work_sendFramedData _ _ _ _ _ _

/-- The task is about to be submitted, or nothing is left to do for the request. -/
theorem work_invokeAsyncHandler (s : State) (frame : FrameId) (conn : ConnId)
    (request : RpcRequest) :
    (invokeAsyncHandler cfg s frame conn request).work = s.work ∨
      ∃ l inv, (invokeAsyncHandler cfg s frame conn request).work =
        { s.work with running := (.loop l, .submit inv) :: s.work.running } := by
  unfold invokeAsyncHandler
  split
  · exact .inl rfl
  · dsimp only
    split
    · exact .inl rfl
    · exact .inl (work_sendFramedData _ _ _ _ _ _)
    · exact .inl (work_sendFramedData _ _ _ _ _ _)
    · exact .inr ⟨_, _, rfl⟩

theorem work_onRpcMessage (s : State) (conn : ConnId) (msg : Bytes)
    (outcome : Option RpcResult) :
    (onRpcMessage cfg s conn msg outcome).work = s.work ∨
      ∃ l inv, (onRpcMessage cfg s conn msg outcome).work =
        { s.work with running := (.loop l, .submit inv) :: s.work.running } := by
  rw [onRpcMessage_eq]
  cases incoming cfg.effectiveMaxMessageSize msg with
  | invalid | cancel => exact .inl rfl
  | request request =>
    dsimp only
    unfold onRequest dispatch
    split_ifs
    · exact .inl (work_invokeSyncHandler _ _ _ _ _)
    · exact work_invokeAsyncHandler (receive s conn request) _ _ _
    · exact .inl (work_sendFramedData _ _ _ _ _ _)

theorem work_runReply (s : State) (inv : Invocation) (r : RpcResult) :
    (runReply cfg s inv r).work = s.work := by
  unfold runReply
  dsimp only
  split
  · rfl
  · split_ifs
    · rfl
    · exact work_sendFramedData _ _ _ _ _ _

theorem work_tryCompleteStop (s : State) : (tryCompleteStop s).work = s.work.complete := by
  unfold tryCompleteStop Work.complete
  by_cases hstatus : s.status_ = .kStopping
  · rw [if_neg (not_not.mpr hstatus)]
    by_cases hboth : s.tcpServerStopped_ = true ∧ s.taskPoolStopped_ = true
    · rw [if_pos hboth, if_pos ⟨hstatus, hboth⟩]
      rfl
    · rw [if_neg hboth, if_neg fun h => hboth h.2]
  · rw [if_pos hstatus, if_neg fun h => hstatus h.1]

/-- The reply object is called, or had been called before. -/
theorem workStep_reply {u : State} {k : ℕ} {t : Thread} {inv : Invocation} {activity : Activity}
    (hu : u.work = s.work) (hk : s.running[k]? = some (t, activity)) (hinv : activity.inv = inv)
    (hlt : 3 < activity.weight) (r : RpcResult) :
    WorkStep s.work a (reply u k t inv r).work := by
  unfold reply
  split_ifs
  · rw [work_release, hu]
    exact .leave hk
  · have hset : ({ u with
        repliedFlags := insert inv.frame u.repliedFlags
        running := u.running.set k (t, .reply inv r)
        trace := .finished inv.frame (some r) :: u.trace } : State).work =
        { u.work with running := u.work.running.set k (t, .reply inv r) } := rfl
    rw [hset, hu]
    exact .next hk hlt hinv.symm

/-- A task is submitted to the pool, or its handler is called in the loop. -/
theorem workStep_submit {k : ℕ} {t : Thread} {inv : Invocation}
    (hk : s.running[k]? = some (t, .submit inv)) :
    WorkStep s.work (.submit k) (submit s k t inv).work := by
  unfold submit
  split
  · have hlt : (Activity.handler inv).weight < (Activity.submit inv).weight := by
      simp [Activity.weight]
    exact .next hk hlt rfl
  · rename_i pool hpool
    split
    · rename_i pool' hadd
      rw [work_release]
      exact .accept hk hpool hadd
    · exact workStep_reply (u := s.emit _) rfl hk rfl (by simp [Activity.weight]) _

/-- **What a step does to the work of the server.** -/
theorem workStep_of_step (hs : step cfg s a = some s') : WorkStep s.work a s'.work := by
  cases stepped_of_step hs with
  | start =>
    unfold start
    split_ifs with hstatus
    · exact .idle rfl
    · exact .start (not_not.mp hstatus)
  | stop =>
    unfold stop
    split_ifs with hstatus
    · exact .idle rfl
    · dsimp only
      split
      · rename_i pool hpool
        exact .stop (not_not.mp hstatus) hpool
      · rename_i hpool
        rw [onTaskPoolStopped, work_tryCompleteStop]
        exact .stopAlone (not_not.mp hstatus) hpool
  | tcpServerStopped hstatus =>
    rw [onTcpServerStopped, work_tryCompleteStop]
    exact .tcpServerStopped hstatus
  | userReply =>
    unfold userReply
    split_ifs
    · exact .idle rfl
    · exact .userReply
  | submit hk => exact workStep_submit hk
  | handlerReturns hk | dropReply hk =>
    rw [work_release]
    exact .leave hk
  | handlerThrows hk => exact workStep_reply rfl hk rfl (by simp [Activity.weight]) _
  | queueReply hk =>
    rw [work_release]
    exact .queueReply _ hk
  | poolBeginStop hpool hthread => exact .poolBeginStop hpool hthread
  | poolFinishStop hpool hthread hfinish => exact .poolFinishStop hpool hthread hfinish
  | workerTake hpool htake => exact .workerTake hpool htake
  | workerExit hpool hexit => exact .workerExit hpool hexit
  | connectionUp | peerHalfClose | loseConnection | connectionDown | transmit => exact .idle rfl
  | @deliver conn msg outcome =>
    rcases @work_onRpcMessage cfg s conn msg outcome with heq | ⟨l, inv, heq⟩
    · rw [heq]
      exact .idle rfl
    · rw [heq]
      exact .arrive l inv
  | @runTask l task hidle htask =>
    cases task with
    | reply inv r =>
      rw [runTask, work_runReply]
      exact .runReply htask
    | onTaskPoolStopped =>
      rw [runTask, onTaskPoolStopped, work_tryCompleteStop]
      exact .onTaskPoolStopped htask

/-! ### What is left to do -/

namespace Work

/-- A worker has not left. -/
def isActive : Worker Invocation → Bool
  | .exited => false
  | _ => true

/-- How many workers have not left. -/
def active (pool : TaskThreadPool Invocation) : ℕ := pool.threads_.countP isActive

/-- A queued task is taken by a worker, and a worker leaves. -/
def ofPool : Option (TaskThreadPool Invocation) → ℕ
  | none => 0
  | some pool => 5 * pool.tasks_.length + active pool

/-- The thread that stops the pool begins, joins and reports. -/
def ofThread : TaskPoolStopThread → ℕ
  | .spawned => 3
  | .joining => 2
  | _ => 0

/-- How far the operations in progress are from their ends. -/
def ofRunning (running : List (Thread × Activity)) : ℕ := (running.map fun r => r.2.weight).sum

/-- What the threads of the server still have to do. -/
def rank (w : Work) : ℕ :=
  ofRunning w.running + w.tasks.length + ofPool w.taskPool_ + ofThread w.taskPoolStopThread_

/-- What an action from outside adds: the workers of `start`, a request, a reply. -/
def cost : Action → ℕ
  | .start => 255
  | .stop => 3
  | .deliver _ _ _ => 7
  | .reply _ _ => 3
  | _ => 0

theorem ofRunning_cons (r : Thread × Activity) (running : List (Thread × Activity)) :
    ofRunning (r :: running) = r.2.weight + ofRunning running := by
  simp [ofRunning]

theorem ofRunning_eraseIdx {running : List (Thread × Activity)} {k : ℕ} {r : Thread × Activity}
    (hk : running[k]? = some r) :
    ofRunning (running.eraseIdx k) + r.2.weight = ofRunning running := by
  obtain ⟨hlt, hget⟩ := List.getElem?_eq_some_iff.mp hk
  have hperm := ((List.getElem_cons_eraseIdx_perm hlt).map fun r => r.2.weight).sum_eq
  rw [hget, List.map_cons, List.sum_cons] at hperm
  unfold ofRunning
  omega

theorem ofRunning_set {running : List (Thread × Activity)} {k : ℕ} {r : Thread × Activity}
    (hk : running[k]? = some r) (r' : Thread × Activity) :
    ofRunning (running.set k r') + r.2.weight = ofRunning running + r'.2.weight := by
  have hlt := (List.getElem?_eq_some_iff.mp hk).1
  have hperm := ((List.set_perm_cons_eraseIdx hlt r').map fun r => r.2.weight).sum_eq
  have herase := ofRunning_eraseIdx hk
  rw [List.map_cons, List.sum_cons] at hperm
  unfold ofRunning at *
  omega

/-- A worker goes on to something else. -/
theorem active_set {threads : List (Worker Invocation)} {n : ℕ} {x : Worker Invocation}
    (hn : threads[n]? = some x) (y : Worker Invocation) :
    (threads.set n y).countP isActive + (if isActive x then 1 else 0) =
      threads.countP isActive + if isActive y then 1 else 0 := by
  obtain ⟨hlt, hget⟩ := List.getElem?_eq_some_iff.mp hn
  have hold := (List.getElem_cons_eraseIdx_perm hlt).countP_eq isActive
  have hnew := (List.set_perm_cons_eraseIdx hlt y).countP_eq isActive
  rw [hget, List.countP_cons] at hold
  rw [List.countP_cons] at hnew
  omega

/-- At most one worker is ready for its next task again. -/
theorem ofPool_finish (pool : Option (TaskThreadPool Invocation)) (n : ℕ) :
    ofPool (pool.map fun p => p.finish n) ≤ ofPool pool + 1 := by
  cases pool with
  | none => exact Nat.zero_le _
  | some pool =>
    have hactive : (pool.threads_.set n .waiting).countP isActive ≤
        pool.threads_.countP isActive + 1 := by
      cases hn : pool.threads_[n]? with
      | none => rw [List.set_eq_of_length_le (List.getElem?_eq_none_iff.mp hn)]; omega
      | some x =>
        have hset := active_set hn .waiting
        rw [if_pos (show isActive (.waiting : Worker Invocation) = true from rfl)] at hset
        omega
    show 5 * pool.tasks_.length + (pool.threads_.set n .waiting).countP isActive ≤
      5 * pool.tasks_.length + pool.threads_.countP isActive + 1
    omega

/-- An operation that ends lowers the rank by more than its worker raises it. -/
theorem rank_release {w : Work} {k : ℕ} {t : Thread} {activity : Activity}
    (hk : w.running[k]? = some (t, activity)) :
    (w.release k t).rank + activity.weight ≤ w.rank + 1 := by
  have herase := ofRunning_eraseIdx hk
  have hpool := ofPool_finish w.taskPool_
  dsimp only at herase
  unfold rank
  cases t with
  | worker n =>
    have hpool := hpool n
    simp only [release]
    omega
  | loop | user =>
    simp only [release]
    omega

theorem rank_complete (w : Work) : w.complete.rank = w.rank := by
  unfold complete
  split_ifs <;> rfl

end Work

theorem Activity.weight_le (activity : Activity) : 3 ≤ activity.weight := by
  cases activity <;> simp [weight]

/-- **A thread of the server lowers the rank**, and an action from outside raises it by at most its
cost. -/
theorem WorkStep.rank_le {w w' : Work} (h : WorkStep w a w') :
    w'.rank + (if internal a then 1 else 0) ≤ w.rank + Work.cost a := by
  have hone : (if internal a then 1 else 0) ≤ 1 := by split_ifs <;> omega
  cases h with
  | idle ha => simp [ha]
  | arrive l inv =>
    simp only [Work.rank, Work.ofRunning_cons, Activity.weight, Work.cost, internal]
    simp only [Bool.false_eq_true, if_false]
    omega
  | userReply =>
    simp only [Work.rank, Work.ofRunning_cons, Activity.weight, Work.cost, internal]
    simp only [Bool.false_eq_true, if_false]
    omega
  | @next a k t activity activity' hk hlt =>
    have hset := Work.ofRunning_set hk (t, activity')
    dsimp only at hset
    simp only [Work.rank]
    omega
  | @leave a k t activity hk =>
    have hrelease := Work.rank_release hk
    have hweight := activity.weight_le
    omega
  | @accept k t inv pool pool' hk hpool hadd =>
    obtain ⟨task, -, -, -, rfl⟩ := TaskThreadPool.addTask_inv hadd
    have hrelease := @Work.rank_release { w with
      taskPool_ := some { pool with tasks_ := pool.tasks_ ++ [task] } } k t _ hk
    have hqueued : Work.ofPool (some { pool with tasks_ := pool.tasks_ ++ [task] }) =
        Work.ofPool w.taskPool_ + 5 := by
      rw [hpool]
      simp only [Work.ofPool, Work.active, List.length_append, List.length_singleton]
      omega
    simp only [Work.rank, Activity.weight] at hrelease ⊢
    omega
  | @queueReply k t inv r l hk =>
    have hrelease := @Work.rank_release { w with
      tasks := w.tasks ++ [(l, .reply inv (replyResult r))] } k t _ hk
    simp only [Work.rank, Activity.weight, List.length_append, List.length_singleton]
      at hrelease ⊢
    omega
  | @runReply l inv r hfirst =>
    have hlen := (Channel.perm_of_first hfirst).length_eq
    simp only [Work.rank, List.length_cons] at hlen ⊢
    omega
  | @onTaskPoolStopped l hfirst =>
    have hlen := (Channel.perm_of_first hfirst).length_eq
    rw [Work.rank_complete]
    simp only [Work.rank, List.length_cons] at hlen ⊢
    omega
  | start hstatus =>
    have hpool : Work.ofPool (w.taskPool_.map TaskThreadPool.start) ≤
        Work.ofPool w.taskPool_ + 255 := by
      cases w.taskPool_ with
      | none => exact Nat.zero_le _
      | some pool =>
        by_cases hnot : pool.status_ = .NOT_START
        · have hcnt : pool.threadCnt_.toNat ≤ 255 := Nat.le_of_lt_succ pool.threadCnt_.toNat_lt
          have hlen := (List.countP_le_length (p := Work.isActive)
            (l := List.replicate pool.threadCnt_.toNat .waiting))
          rw [List.length_replicate] at hlen
          simp only [Option.map_some, TaskThreadPool.start_of_eq hnot, Work.ofPool, Work.active]
          omega
        · rw [Option.map_some, TaskThreadPool.start_of_ne hnot]
          exact Nat.le_add_right _ _
    simp only [Work.rank, Work.cost, internal, Bool.false_eq_true, if_false]
    omega
  | stop hstatus hpool =>
    simp only [Work.rank, Work.cost, Work.ofThread, internal, Bool.false_eq_true, if_false]
    omega
  | stopAlone hstatus hpool =>
    rw [Work.rank_complete]
    simp only [Work.rank, Work.cost, internal, Bool.false_eq_true, if_false]
    omega
  | tcpServerStopped hstatus =>
    rw [Work.rank_complete]
    simp only [Work.rank, Work.cost, internal, Bool.false_eq_true, if_false]
    omega
  | @poolBeginStop pool hpool hthread =>
    have hbegin : Work.ofPool (some (pool.beginStop.getD pool)) = Work.ofPool w.taskPool_ := by
      rw [hpool]
      cases hbegin : pool.beginStop with
      | none => rfl
      | some pool' =>
        obtain ⟨-, rfl⟩ := TaskThreadPool.beginStop_inv hbegin
        rfl
    simp only [Work.rank, hthread, hbegin, Work.ofThread]
    omega
  | @poolFinishStop pool pool' hpool hthread hfinish =>
    obtain ⟨-, rfl⟩ := TaskThreadPool.finishStop_inv hfinish
    simp only [Work.rank, hthread, hpool, Work.ofThread, Work.ofPool, Work.active,
      List.length_append, List.length_singleton, List.countP_nil]
    omega
  | @workerTake n pool pool' inv hpool htake =>
    obtain ⟨tasks, hn, htasks, rfl⟩ := TaskThreadPool.take_inv htake
    have hset := Work.active_set hn (.running inv)
    simp only [Work.isActive, if_true] at hset
    simp only [Work.rank, hpool, Work.ofPool, Work.active, Work.ofRunning_cons, Activity.weight,
      htasks, List.length_cons]
    omega
  | @workerExit n pool pool' hpool hexit =>
    obtain ⟨hn, -, -, rfl⟩ := TaskThreadPool.exit_inv hexit
    have hset := Work.active_set hn .exited
    simp only [Work.isActive, if_true, Bool.false_eq_true, if_false] at hset
    simp only [Work.rank, hpool, Work.ofPool, Work.active]
    omega

theorem ranks (cfg : Config) : Machine.Ranks (machine cfg) (fun _ => True) internal
    (fun s => s.work.rank) Work.cost where
  kept _ _ _ _ _ := trivial
  lowers s a s' _ ha hs := by
    have hle := (workStep_of_step hs).rank_le
    have hcost : Work.cost a = 0 := by
      cases a with
      | start | stop | deliver | reply => cases ha
      | _ => rfl
    rw [if_pos ha, hcost] at hle
    exact hle
  raises s a s' _ ha hs := by
    have hle := (workStep_of_step hs).rank_le
    rwa [if_neg (by simp [ha])] at hle

/-! ### What is sent -/

/-- One response is sent at most. -/
def SendsOne (s s' : State) : Prop :=
  s'.outbox = s.outbox ∨ ∃ item, s'.outbox = s.outbox ++ [item]

theorem sendsOne_sendFramedData (s : State) (conn : ConnId) (requestId : UInt64)
    (origin : Origin) (r : RpcResult) (maxMessageSize : ℕ) :
    SendsOne s (sendFramedData s conn requestId origin r maxMessageSize) := by
  rw [sendFramedData_eq_answer]
  split
  · exact .inl rfl
  · split
    · exact .inr ⟨_, rfl⟩
    · exact .inl rfl

theorem sendsOne_invokeSyncHandler (s : State) (frame : FrameId) (conn : ConnId)
    (request : RpcRequest) (outcome : Option RpcResult) :
    SendsOne s (invokeSyncHandler cfg s frame conn request outcome) := by
  unfold invokeSyncHandler
  split
  · exact .inl rfl
  · dsimp only
    split
    · exact sendsOne_sendFramedData _ _ _ _ _ _
    · split
      · exact sendsOne_sendFramedData _ _ _ _ _ _
      · exact sendsOne_sendFramedData _ _ _ _ _ _

theorem sendsOne_invokeAsyncHandler (s : State) (frame : FrameId) (conn : ConnId)
    (request : RpcRequest) : SendsOne s (invokeAsyncHandler cfg s frame conn request) := by
  unfold invokeAsyncHandler
  split
  · exact .inl rfl
  · dsimp only
    split
    · exact .inl rfl
    · exact sendsOne_sendFramedData (s.emit _) _ _ _ _ _
    · exact sendsOne_sendFramedData (s.emit _) _ _ _ _ _
    · exact .inl rfl

theorem sendsOne_onRpcMessage (s : State) (conn : ConnId) (msg : Bytes)
    (outcome : Option RpcResult) : SendsOne s (onRpcMessage cfg s conn msg outcome) := by
  rw [onRpcMessage_eq]
  cases incoming cfg.effectiveMaxMessageSize msg with
  | invalid | cancel => exact .inl rfl
  | request request =>
    dsimp only
    unfold onRequest dispatch
    split_ifs
    · exact sendsOne_invokeSyncHandler (receive s conn request) _ _ _ _
    · exact sendsOne_invokeAsyncHandler (receive s conn request) _ _ _
    · exact sendsOne_sendFramedData (receive s conn request) _ _ _ _ _

theorem outbox_tryCompleteStop (s : State) : (tryCompleteStop s).outbox = s.outbox := by
  unfold tryCompleteStop
  split_ifs
  · rfl
  · rfl
  · rfl

theorem outbox_release (s : State) (k : ℕ) (t : Thread) : (s.release k t).outbox = s.outbox := by
  cases t <;> rfl

theorem outbox_reply (s : State) (k : ℕ) (t : Thread) (inv : Invocation) (r : RpcResult) :
    (reply s k t inv r).outbox = s.outbox := by
  unfold reply
  split_ifs
  · exact outbox_release s k t
  · rfl

theorem outbox_submit (s : State) (k : ℕ) (t : Thread) (inv : Invocation) :
    (submit s k t inv).outbox = s.outbox := by
  unfold submit
  split
  · rfl
  · split
    · exact outbox_release _ k t
    · exact outbox_reply _ k t inv _

theorem sendsOne_runTask (s : State) (task : LoopTask) : SendsOne s (runTask cfg s task) := by
  cases task with
  | onTaskPoolStopped => exact .inl (outbox_tryCompleteStop _)
  | reply inv r =>
    unfold runTask runReply
    dsimp only
    split
    · exact .inl rfl
    · split_ifs
      · exact .inl rfl
      · exact sendsOne_sendFramedData { s with cancellationRegistry_ := _ } _ _ _ _ _

/-- Without the network, only a queued reply sends a response. -/
theorem sendsOne_of_step (hs : step cfg s a = some s') (ha : a.isNetwork = false) :
    SendsOne s s' := by
  cases stepped_of_step hs with
  | @runTask l task => exact sendsOne_runTask { s with tasks := s.tasks.dropFirst l } task
  | start =>
    unfold start
    split_ifs <;> exact .inl rfl
  | stop =>
    unfold stop
    split_ifs
    · exact .inl rfl
    · dsimp only
      split
      · exact .inl rfl
      · exact .inl (outbox_tryCompleteStop _)
  | tcpServerStopped => exact .inl (outbox_tryCompleteStop _)
  | userReply =>
    unfold userReply
    split_ifs <;> exact .inl rfl
  | submit => exact .inl (outbox_submit _ _ _ _)
  | handlerReturns | dropReply => exact .inl (outbox_release _ _ _)
  | handlerThrows => exact .inl (outbox_reply _ _ _ _ _)
  | queueReply => exact .inl (outbox_release _ _ _)
  | poolBeginStop | poolFinishStop | workerTake | workerExit => exact .inl rfl
  | connectionUp | peerHalfClose | loseConnection | connectionDown => exact .inl rfl
  | deliver | transmit => cases ha

theorem SendsOne.length_le (h : SendsOne s s') : s'.outbox.length ≤ s.outbox.length + 1 := by
  rcases h with hsame | ⟨item, hsend⟩
  · rw [hsame]
    exact Nat.le_succ _
  · rw [hsend, List.length_append, List.length_singleton]

end MiniRpc.RpcServer
