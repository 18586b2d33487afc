import MiniRpc.RpcServer.Equiv.Completion
import MiniRpc.RpcServer.Startup
import MiniRpc.TaskThreadPool.Equiv.Startup

/-!
# Without its worker pool a server refuses every asynchronous request

A server that is started again after its pool could not be started runs, but the pool accepts no
task.  `Down` is kept by every step: no asynchronous handler is ever invoked and no reply object is
ever handed out, and whatever is on its way to be answered, or was answered, in the name of an
asynchronous handler is the refusal of the pool.
-/

namespace MiniRpc.RpcServer.Startup

variable {cfg : Config} {s s' : State} {a : Action}

/-- What the pool's refusal is answered with. -/
def poolDown : RpcResult := submitFailure .kNotRunning

theorem replyResult_poolDown : replyResult poolDown = poolDown := by
  unfold replyResult
  rw [if_neg (by decide)]

/-- The event is not the invocation of an asynchronous handler, nor the response of one other than
the refusal. -/
def Refusing (cfg : Config) : Event → Prop
  | .invoked _ _ _ (.async _) => False
  | .responded _ requestId (.reply _ _) output =>
    answer cfg.effectiveMaxMessageSize requestId poolDown = some output
  | _ => True

/-- A server whose pool has stopped before it was started. -/
structure Down (cfg : Config) (s : State) : Prop where
  pool : ∃ pool, s.taskPool_ = some pool ∧ pool.status_ = .STOPPED ∧ pool.threads_ = [] ∧
    pool.tasks_ = []
  replies : s.replies = []
  running : ∀ t activity, (t, activity) ∈ s.running →
    (∃ inv, activity = .submit inv) ∨ ∃ inv, activity = .reply inv poolDown
  tasks : ∀ l task, (l, task) ∈ s.tasks →
    task = .onTaskPoolStopped ∨ ∃ inv, task = .reply inv poolDown
  trace : ∀ e ∈ s.trace, Refusing cfg e

theorem down_init (hworkers : cfg.workers ≠ none) : Down cfg (startThrows (.init cfg)) := by
  obtain ⟨w, hw⟩ := Option.ne_none_iff_exists'.mp hworkers
  unfold startThrows
  rw [if_neg (fun h => h rfl)]
  refine ⟨?_, rfl, fun t activity hmem => ?_, fun l task hmem => ?_, fun e hmem => ?_⟩
  · refine ⟨(TaskThreadPool.init w.1 w.2).afterThrow, ?_, rfl, rfl, rfl⟩
    show ((cfg.workers.map fun w => TaskThreadPool.init w.1 w.2).map _) = _
    rw [hw]
    rfl
  · cases hmem
  · cases hmem
  · cases hmem

/-! ### The operations -/

theorem Down.emit (h : Down cfg s) {e : Event} (he : Refusing cfg e) : Down cfg (s.emit e) := by
  refine { h with trace := fun other hother => ?_ }
  rcases List.mem_cons.mp hother with rfl | hother
  · exact he
  · exact h.trace other hother

theorem Down.forceClose (h : Down cfg s) (conn : ConnId) : Down cfg (forceClose s conn) :=
  Down.emit (s := s.setConnection conn (s.connections conn).close)
    ⟨h.pool, h.replies, h.running, h.tasks, h.trace⟩ trivial

/-- A response is sent by the loop that processes the request, or it is the refusal. -/
theorem Down.sendFramedData (h : Down cfg s) (conn : ConnId) (requestId : UInt64) {origin : Origin}
    {r : RpcResult} (horigin : (∃ frame, origin = .direct frame) ∨ r = poolDown) :
    Down cfg (sendFramedData s conn requestId origin r cfg.effectiveMaxMessageSize) := by
  rw [sendFramedData_eq_answer]
  split
  · exact h.forceClose conn
  · rename_i output houtput
    split
    · have hrefusing : Refusing cfg (.responded conn requestId origin output) := by
        rcases horigin with ⟨frame, rfl⟩ | rfl
        · trivial
        · cases origin with
          | direct => trivial
          | reply => exact houtput
      have hemit := h.emit hrefusing
      exact ⟨hemit.pool, hemit.replies, hemit.running, hemit.tasks, hemit.trace⟩
    · exact h

theorem Down.invokeSyncHandler (h : Down cfg s) (frame : FrameId) (conn : ConnId)
    (request : RpcRequest) (outcome : Option RpcResult) :
    Down cfg (invokeSyncHandler cfg s frame conn request outcome) := by
  unfold RpcServer.invokeSyncHandler
  split
  · exact h
  · rename_i handler _
    have hinvoked := (h.emit (e := .invoked frame conn request (.sync handler)) trivial).emit
      (e := .finished frame outcome) trivial
    dsimp only
    split
    · exact hinvoked.sendFramedData conn _ (.inl ⟨frame, rfl⟩)
    · split
      · exact hinvoked.sendFramedData conn _ (.inl ⟨frame, rfl⟩)
      · exact hinvoked.sendFramedData conn _ (.inl ⟨frame, rfl⟩)

theorem Down.invokeAsyncHandler (h : Down cfg s) (frame : FrameId) (conn : ConnId)
    (request : RpcRequest) : Down cfg (invokeAsyncHandler cfg s frame conn request) := by
  unfold RpcServer.invokeAsyncHandler
  split
  · exact h
  · have hrejected := h.emit (e := .rejected frame conn request) trivial
    dsimp only
    split
    · exact hrejected.forceClose conn
    · exact hrejected.sendFramedData conn _ (.inl ⟨frame, rfl⟩)
    · exact hrejected.sendFramedData conn _ (.inl ⟨frame, rfl⟩)
    · refine ⟨h.pool, h.replies, fun t activity hmem => ?_, h.tasks, h.trace⟩
      rcases List.mem_cons.mp hmem with heq | hmem
      · obtain ⟨-, rfl⟩ := Prod.mk.inj heq
        exact .inl ⟨_, rfl⟩
      · exact h.running t activity hmem

theorem Down.onRpcMessage (h : Down cfg s) (conn : ConnId) (msg : Bytes)
    (outcome : Option RpcResult) : Down cfg (onRpcMessage cfg s conn msg outcome) := by
  rw [onRpcMessage_eq]
  cases incoming cfg.effectiveMaxMessageSize msg with
  | invalid => exact h.forceClose conn
  | cancel requestId =>
    have hemit := h.emit (e := .cancelReceived conn requestId
      (s.cancellationRegistry_.find? conn requestId)) trivial
    exact ⟨hemit.pool, hemit.replies, hemit.running, hemit.tasks, hemit.trace⟩
  | request request =>
    have hemit := h.emit (e := .requestReceived s.nextFrame conn request) trivial
    have hreceived : Down cfg (receive s conn request) :=
      ⟨hemit.pool, hemit.replies, hemit.running, hemit.tasks, hemit.trace⟩
    dsimp only
    unfold onRequest dispatch
    split_ifs
    · exact hreceived.invokeSyncHandler _ conn request outcome
    · exact hreceived.invokeAsyncHandler _ conn request
    · exact hreceived.sendFramedData conn _ (.inl ⟨_, rfl⟩)

/-- An operation ends; there is no worker that could wait for its next task. -/
theorem Down.release (h : Down cfg s) (k : ℕ) (t : Thread) : Down cfg (s.release k t) := by
  have hrunning : ∀ t activity, (t, activity) ∈ s.running.eraseIdx k →
      (∃ inv, activity = .submit inv) ∨ ∃ inv, activity = .reply inv poolDown :=
    fun t activity hmem => h.running t activity (List.mem_of_mem_eraseIdx hmem)
  cases t with
  | worker n =>
    obtain ⟨pool, hpool, hstatus, hthreads, htasks⟩ := h.pool
    refine ⟨⟨pool.finish n, ?_, hstatus, ?_, htasks⟩, h.replies, hrunning, h.tasks, h.trace⟩
    · show s.taskPool_.map _ = _
      rw [hpool]
      rfl
    · show pool.threads_.set n .waiting = []
      rw [hthreads]
      rfl
  | loop | user => exact ⟨h.pool, h.replies, hrunning, h.tasks, h.trace⟩

/-- The pool refuses the task, and the reply object is called with the refusal. -/
theorem Down.submit (h : Down cfg s) (k : ℕ) (t : Thread) (inv : Invocation) :
    Down cfg (submit s k t inv) := by
  obtain ⟨pool, hpool, hstatus, -⟩ := h.pool
  have hadd : pool.addTask (some inv) = (.kNotRunning, pool) := by
    unfold TaskThreadPool.addTask
    dsimp only
    rw [if_pos (by rw [hstatus]; decide)]
  have hrejected := h.emit (e := .rejected inv.frame inv.conn inv.request) trivial
  unfold RpcServer.submit
  rw [hpool]
  dsimp only
  rw [hadd]
  dsimp only
  unfold RpcServer.reply
  split_ifs
  · exact hrejected.release k t
  · have hfinished := hrejected.emit (e := .finished inv.frame (some poolDown)) trivial
    refine ⟨hfinished.pool, hfinished.replies, fun t' activity hmem => ?_, hfinished.tasks,
      hfinished.trace⟩
    rcases List.mem_or_eq_of_mem_set hmem with hmem | heq
    · exact h.running t' activity hmem
    · obtain ⟨-, rfl⟩ := Prod.mk.inj heq
      exact .inr ⟨inv, rfl⟩

theorem Down.tryCompleteStop (h : Down cfg s) : Down cfg (tryCompleteStop s) := by
  unfold RpcServer.tryCompleteStop
  split_ifs
  · exact h
  · have hemit := h.emit (e := .stopCompleted) trivial
    exact ⟨hemit.pool, hemit.replies, hemit.running, hemit.tasks, hemit.trace⟩
  · exact h

theorem Down.runTask (h : Down cfg s) {task : LoopTask}
    (htask : task = .onTaskPoolStopped ∨ ∃ inv, task = .reply inv poolDown) :
    Down cfg (runTask cfg s task) := by
  rcases htask with rfl | ⟨inv, rfl⟩
  · exact Down.tryCompleteStop (s := { s with taskPoolStopped_ := true })
      ⟨h.pool, h.replies, h.running, h.tasks, h.trace⟩
  · unfold RpcServer.runTask runReply
    dsimp only
    have htaken : ∀ registry, Down cfg { s with cancellationRegistry_ := registry } :=
      fun registry => ⟨h.pool, h.replies, h.running, h.tasks, h.trace⟩
    split
    · exact htaken _
    · split_ifs
      · exact htaken _
      · exact (htaken _).sendFramedData inv.conn _ (.inr rfl)

/-! ### The steps -/

/-- `start` and the stopping leave the pool as it is. -/
theorem Down.of_pool (h : Down cfg s) (hreplies : s'.replies = s.replies)
    (hrunning : s'.running = s.running) (htasks : ∀ f ∈ s'.tasks, f ∈ s.tasks ∨
      f.2 = .onTaskPoolStopped) (htrace : s'.trace = s.trace)
    (hpool : ∀ pool : TaskThreadPool Invocation, s.taskPool_ = some pool →
      pool.status_ = .STOPPED → pool.threads_ = [] → s'.taskPool_ = some pool) : Down cfg s' := by
  obtain ⟨pool, hsome, hstatus, hthreads, hnone⟩ := h.pool
  refine ⟨⟨pool, hpool pool hsome hstatus hthreads, hstatus, hthreads, hnone⟩,
    hreplies.trans h.replies, hrunning ▸ h.running, fun l task hmem => ?_, htrace ▸ h.trace⟩
  rcases htasks (l, task) hmem with hold | hnew
  · exact h.tasks l task hold
  · exact .inl hnew

/-- Nobody is in a handler. -/
theorem Down.not_handler (h : Down cfg s) {k : ℕ} {t : Thread} {inv : Invocation} :
    s.running[k]? ≠ some (t, .handler inv) := by
  intro hk
  rcases h.running _ _ (List.mem_of_getElem? hk) with ⟨inv', heq⟩ | ⟨inv', heq⟩ <;> cases heq

/-- The pool is not started again. -/
theorem Down.start (h : Down cfg s) : Down cfg (start s) := by
  unfold RpcServer.start
  split_ifs
  · exact h
  · refine h.of_pool rfl rfl (fun f hf => .inl hf) rfl fun pool hpool hstatus _ => ?_
    have hstarted : pool.start = pool :=
      TaskThreadPool.start_of_ne fun heq => by cases hstatus.symm.trans heq
    show s.taskPool_.map TaskThreadPool.start = some pool
    rw [hpool, Option.map_some, hstarted]

theorem Down.stop (h : Down cfg s) : Down cfg (stop s) := by
  unfold RpcServer.stop
  split_ifs
  · exact h
  · dsimp only
    split
    · exact h.of_pool rfl rfl (fun f hf => .inl hf) rfl fun pool hpool _ _ => hpool
    · rename_i hnone
      obtain ⟨pool, hpool, -⟩ := h.pool
      cases hnone.symm.trans hpool

/-- The reply object queues the refusal. -/
theorem Down.queueReply (h : Down cfg s) {k : ℕ} {t : Thread} {inv : Invocation} {r : RpcResult}
    (hk : s.running[k]? = some (t, .reply inv r)) (l : LoopId) :
    Down cfg ((s.queueInLoop l (.reply inv (replyResult r))).release k t) := by
  have hr : r = poolDown := by
    rcases h.running _ _ (List.mem_of_getElem? hk) with ⟨inv', heq⟩ | ⟨inv', heq⟩
    · cases heq
    · cases heq
      rfl
  refine Down.release (s := s.queueInLoop _ _)
    ⟨h.pool, h.replies, h.running, fun l task hmem => ?_, h.trace⟩ k t
  rcases List.mem_append.mp hmem with hmem | hmem
  · exact h.tasks l task hmem
  · obtain ⟨-, rfl⟩ := Prod.mk.inj (List.mem_singleton.mp hmem)
    rw [hr, replyResult_poolDown]
    exact .inr ⟨inv, rfl⟩

theorem Down.poolBeginStop (h : Down cfg s) {pool : TaskThreadPool Invocation}
    (hpool : s.taskPool_ = some pool) : Down cfg { s with
      taskPool_ := some (pool.beginStop.getD pool)
      taskPoolStopThread_ := .joining } := by
  refine h.of_pool rfl rfl (fun f hf => .inl hf) rfl fun pool' hpool' hstatus _ => ?_
  obtain rfl := Option.some.inj (hpool.symm.trans hpool')
  have hbegin : pool.beginStop = none := by
    unfold TaskThreadPool.beginStop
    rw [if_pos (by rw [hstatus]; decide)]
  show some (pool.beginStop.getD pool) = some pool
  rw [hbegin]
  rfl

theorem Down.poolFinishStop (h : Down cfg s) {pool pool' : TaskThreadPool Invocation}
    (hpool : s.taskPool_ = some pool) (hfinish : pool.finishStop = some pool') :
    Down cfg ({ s with taskPool_ := some pool', taskPoolStopThread_ := .finished }.queueInLoop 0
      .onTaskPoolStopped) := by
  refine h.of_pool rfl rfl (fun f hf => ?_) rfl fun pool' hpool' hstatus hthreads => ?_
  · rcases List.mem_append.mp hf with hf | hf
    · exact .inl hf
    · obtain rfl := List.mem_singleton.mp hf
      exact .inr rfl
  · obtain rfl := Option.some.inj (hpool.symm.trans hpool')
    obtain ⟨-, rfl⟩ := TaskThreadPool.finishStop_inv hfinish
    show some { pool with threads_ := [], status_ := .STOPPED } = some pool
    rw [← hthreads, ← hstatus]

theorem Down.step (h : Down cfg s) (hs : step cfg s a = some s') : Down cfg s' := by
  cases stepped_of_step hs with
  | start => exact h.start
  | stop => exact h.stop
  | tcpServerStopped =>
    exact Down.tryCompleteStop (s := { s with tcpServerStopped_ := true })
      ⟨h.pool, h.replies, h.running, h.tasks, h.trace⟩
  | userReply hinv =>
    rw [h.replies] at hinv
    cases hinv
  | submit => exact h.submit _ _ _
  | handlerReturns hk | handlerThrows hk => exact absurd hk h.not_handler
  | queueReply hk => exact h.queueReply hk _
  | dropReply => exact h.release _ _
  | poolBeginStop hpool => exact h.poolBeginStop hpool
  | poolFinishStop hpool _ hfinish => exact h.poolFinishStop hpool hfinish
  | workerTake hpool htake =>
    obtain ⟨pool, hpool', -, -, hnone⟩ := h.pool
    obtain rfl := Option.some.inj (hpool'.symm.trans hpool)
    obtain ⟨tasks, -, htasks, -⟩ := TaskThreadPool.take_inv htake
    cases hnone.symm.trans htasks
  | workerExit hpool hexit =>
    obtain ⟨pool, hpool', -, hthreads, -⟩ := h.pool
    obtain rfl := Option.some.inj (hpool'.symm.trans hpool)
    obtain ⟨hw, -⟩ := TaskThreadPool.exit_inv hexit
    rw [hthreads] at hw
    cases hw
  | connectionUp | peerHalfClose | loseConnection | transmit =>
    exact ⟨h.pool, h.replies, h.running, h.tasks, h.trace⟩
  | @connectionDown conn =>
    have hemit := h.emit (e := .closed conn) trivial
    exact ⟨hemit.pool, hemit.replies, hemit.running, hemit.tasks, hemit.trace⟩
  | deliver => exact h.onRpcMessage _ _ _
  | @runTask l task _ htask =>
    refine Down.runTask (s := { s with tasks := s.tasks.dropFirst l })
      ⟨h.pool, h.replies, h.running, fun l' task' hmem => ?_, h.trace⟩
      (h.tasks l task (Channel.mem_of_first htask))
    exact h.tasks l' task' (Channel.mem_of_mem_dropFirst hmem)

theorem down_of_reachable (hworkers : cfg.workers ≠ none) (h : (machine cfg).Reachable s) :
    Down cfg s :=
  h.invariant (down_init hworkers) fun _ _ _ _ hold hs => hold.step hs

/-! ### The law -/

theorem ranks (cfg : Config) : Machine.Ranks (machine cfg) (fun _ => True) internal
    (fun s => s.work.rank) Work.cost where
  kept _ _ _ _ _ := trivial
  lowers := (RpcServer.ranks cfg).lowers
  raises := (RpcServer.ranks cfg).raises

/-- A server that refuses every asynchronous request. -/
structure RefusesAsync (cfg : Config) (s : State) : Prop where
  /-- The pool never comes back. -/
  pool : ∃ pool, s.taskPool_ = some pool ∧ pool.status_ = .STOPPED ∧ pool.threads_ = [] ∧
    pool.tasks_ = []
  invoked : ∀ frame conn request handler,
    .invoked frame conn request (.async handler) ∉ s.trace
  /-- No reply object is handed out. -/
  replies : s.replies = []
  /-- What is sent in the name of an asynchronous handler is the refusal. -/
  responded : ∀ conn requestId frame token output,
    .responded conn requestId (.reply frame token) output ∈ s.trace →
      answer cfg.effectiveMaxMessageSize requestId poolDown = some output
  /-- Whatever the order of the actions, only so many of them are the server's own. -/
  bounded : ∀ as s', (machine cfg).Run s as s' →
    as.countP internal ≤ s.work.rank + Machine.costs internal Work.cost as
  /-- The server can always come to rest without help from outside, and then nothing is left to
  do. -/
  rests : ∃ as s', (∀ a ∈ as, internal a = true) ∧ (machine cfg).Run s as s' ∧
    (machine cfg).Rest internal s'
  settles : (machine cfg).Rest internal s → s.running = [] ∧ s.tasks = []

/-- **Without its worker pool a server refuses every asynchronous request**, however often it is
started again. -/
theorem refusesAsync_of_reachable (hworkers : cfg.workers ≠ none) (h : (machine cfg).Reachable s) :
    RefusesAsync cfg s := by
  have hdown := down_of_reachable hworkers h
  refine ⟨hdown.pool, fun frame conn request handler hmem => ?_, hdown.replies,
    fun conn requestId frame token output hmem => ?_,
    fun as s' hrun => (ranks cfg).internal_le trivial hrun, (ranks cfg).exists_rest trivial,
    fun hrest => ?_⟩
  · exact hdown.trace _ hmem
  · exact hdown.trace _ hmem
  · have hrest' : (RpcServer.machine cfg).Rest internal s := hrest
    exact ⟨Rest.running_eq hrest', Rest.tasks_eq hrest'⟩

/-- The server is started again, and a request for an asynchronous method is answered. -/
def restarting : List Action :=
  let request : RpcRequest := ⟨5, text "s", text "m", text "p"⟩
  [.start, .connectionUp 3, .deliver 3 request.fields.flatten none, .submit 0, .queueReply 0,
    .runTask 0]

theorem refusesAsync_restarting :
    RefusesAsync workerServer ((machine workerServer).after restarting) ∧
      ((machine workerServer).after restarting).status_ = .kRunning ∧
      ((machine workerServer).after restarting).outbox =
        [(3, (limitedResponse kMaxMessageSize 5 poolDown).fields.flatten)] :=
  ⟨refusesAsync_of_reachable (by decide) (Machine.reachable_after restarting),
    by decide +kernel, by decide +kernel⟩

end MiniRpc.RpcServer.Startup
