import MiniRpc.RpcServer.Operations

/-!
# The server as a machine

A loop processes a frame, runs a queued task or reports a close when it is not in the middle of an
operation; every other step is the next part of an operation in progress, a call of a reply object
by a thread of the user, a step of a worker, or something the network or the user does.

`Stepped` lists what each action does and when it is possible (`stepped_of_step`).
-/

namespace MiniRpc.RpcServer

inductive Action
  /-- The user calls `start`. -/
  | start
  /-- The user calls `stop`. -/
  | stop
  /-- The TCP server reports that it has stopped. -/
  | tcpServerStopped
  /-- The thread that stops the worker pool calls `stop` of the pool. -/
  | poolBeginStop
  /-- It has joined the workers. -/
  | poolFinishStop
  /-- A connection is accepted. -/
  | connectionUp (conn : ConnId)
  /-- The peer closes its half and the server shuts the connection down. -/
  | peerHalfClose (conn : ConnId)
  /-- The connection is lost; the close is reported later. -/
  | loseConnection (conn : ConnId)
  /-- The close of a connection is reported. -/
  | connectionDown (conn : ConnId)
  /-- A message arrives; `outcome` is what the handler returns, if it is a synchronous one. -/
  | deliver (conn : ConnId) (msg : Bytes) (outcome : Option RpcResult)
  /-- The network takes the oldest frame sent on the connection. -/
  | transmit (conn : ConnId)
  /-- A loop runs its oldest queued task. -/
  | runTask (l : LoopId)
  /-- The `k`-th operation in progress, an `invokeAsyncHandler`, goes on. -/
  | submit (k : ℕ)
  /-- The `k`-th operation in progress, a handler, returns. -/
  | handlerReturns (k : ℕ)
  /-- The `k`-th operation in progress, a handler, throws. -/
  | handlerThrows (k : ℕ)
  /-- The `k`-th operation in progress, a reply object, queues its task. -/
  | queueReply (k : ℕ)
  /-- The `k`-th operation in progress, a reply object, finds its connection gone. -/
  | dropReply (k : ℕ)
  /-- The user calls a reply object. -/
  | reply (inv : Invocation) (rpcResult : RpcResult)
  /-- A worker takes a task of the pool. -/
  | workerTake (w : ℕ)
  /-- A worker leaves. -/
  | workerExit (w : ℕ)
  deriving DecidableEq, Repr

/-- The actions by which the network takes a frame or brings one. -/
def Action.isNetwork : Action → Bool
  | .transmit _ | .deliver .. => true
  | _ => false

/-- A loop runs a queued task. -/
def runTask (cfg : Config) (s : State) : LoopTask → State
  | .reply inv rpcResult => runReply cfg s inv rpcResult
  | .onTaskPoolStopped => onTaskPoolStopped s

/-- The steps of an operation in progress, on thread `t`. -/
def proceed (cfg : Config) (s : State) (k : ℕ) (t : Thread) : Action → Activity → Option State
  | .submit _, .submit inv => some (submit s k t inv)
  | .handlerReturns _, .handler _ => some (s.release k t)
  | .handlerThrows _, .handler inv => some (reply s k t inv handlerException)
  | .queueReply _, .reply inv rpcResult =>
    some ((s.queueInLoop (cfg.loopOf inv.conn) (.reply inv (replyResult rpcResult))).release k t)
  | .dropReply _, .reply inv _ =>
    -- `weakPtr.lock()` can fail once the close has been reported
    if (s.connections inv.conn).state = .kDown then some (s.release k t) else none
  | _, _ => none

/-- The steps of the connections and their loops. -/
def stepConnection (cfg : Config) (s : State) : Action → Option State
  | .connectionUp conn =>
    if s.status_ ≠ .kNotStarted ∧ (s.connections conn).state = .kNew then
      some (s.setConnection conn (s.connections conn).up)
    else none
  | .peerHalfClose conn =>
    if (s.connections conn).state = .kUp then
      some (s.setConnection conn (s.connections conn).close)
    else none
  | .loseConnection conn =>
    if (s.connections conn).state = .kUp then
      some (s.setConnection conn (s.connections conn).lose)
    else none
  | .connectionDown conn =>
    if (s.connections conn).state = .kUp ∧ s.busy (.loop (cfg.loopOf conn)) = false then
      some { s with
        connections := Function.update s.connections conn .down
        cancellationRegistry_ := s.cancellationRegistry_.clearConnectionCancellations conn
        trace := .closed conn :: s.trace }
    else none
  | .deliver conn msg outcome =>
    if (s.connections conn).state = .kUp ∧ s.busy (.loop (cfg.loopOf conn)) = false then
      some (onRpcMessage cfg s conn msg outcome)
    else none
  | .transmit conn => some { s with outbox := s.outbox.dropFirst conn }
  | .runTask l =>
    if s.busy (.loop l) then none
    else
      match s.tasks.first l with
      | none => none
      | some task => some (runTask cfg { s with tasks := s.tasks.dropFirst l } task)
  | _ => none

/-- The steps of the worker pool. -/
def stepPool (s : State) (pool : TaskThreadPool Invocation) : Action → Option State
  | .poolBeginStop =>
    if s.taskPoolStopThread_ = .spawned then
      -- a pool that is not running is left as it is
      some { s with
        taskPool_ := some (pool.beginStop.getD pool)
        taskPoolStopThread_ := .joining }
    else none
  | .poolFinishStop =>
    if s.taskPoolStopThread_ = .joining then
      pool.finishStop.map fun pool =>
        { s with taskPool_ := some pool, taskPoolStopThread_ := .finished }.queueInLoop 0
          .onTaskPoolStopped
    else none
  | .workerTake w =>
    (pool.take w).map fun (inv, pool) =>
      startHandler { s with
        taskPool_ := some pool
        running := (.worker w, .handler inv) :: s.running } inv
  | .workerExit w => (pool.exit w).map fun pool => { s with taskPool_ := some pool }
  | _ => none

def step (cfg : Config) (s : State) (action : Action) : Option State :=
  match action with
  | .start => some (start s)
  | .stop => some (stop s)
  | .tcpServerStopped =>
    -- `TcpServer` reports it only after `stop` was called
    if s.status_ = .kNotStarted ∨ s.status_ = .kRunning then none else some (onTcpServerStopped s)
  | .reply inv rpcResult => if inv ∈ s.replies then some (userReply s inv rpcResult) else none
  | .submit k | .handlerReturns k | .handlerThrows k | .queueReply k | .dropReply k =>
    match s.running[k]? with
    | none => none
    | some (t, activity) => proceed cfg s k t action activity
  | .poolBeginStop | .poolFinishStop | .workerTake _ | .workerExit _ =>
    match s.taskPool_ with
    | none => none
    | some pool => stepPool s pool action
  | _ => stepConnection cfg s action

/-- The server as a machine. -/
def machine (cfg : Config) : Machine State Action := ⟨.init cfg, step cfg⟩

/-! ### What a step does -/

/-- What an action does to the server, and when it is possible. -/
inductive Stepped (cfg : Config) (s : State) : Action → State → Prop
  | start : Stepped cfg s .start (start s)
  | stop : Stepped cfg s .stop (stop s)
  | tcpServerStopped (hstatus : ¬ (s.status_ = .kNotStarted ∨ s.status_ = .kRunning)) :
      Stepped cfg s .tcpServerStopped (onTcpServerStopped s)
  | userReply {inv : Invocation} {r : RpcResult} (hinv : inv ∈ s.replies) :
      Stepped cfg s (.reply inv r) (userReply s inv r)
  -- An operation in progress goes on.
  | submit {k : ℕ} {t : Thread} {inv : Invocation} (hk : s.running[k]? = some (t, .submit inv)) :
      Stepped cfg s (.submit k) (submit s k t inv)
  | handlerReturns {k : ℕ} {t : Thread} {inv : Invocation}
      (hk : s.running[k]? = some (t, .handler inv)) :
      Stepped cfg s (.handlerReturns k) (s.release k t)
  | handlerThrows {k : ℕ} {t : Thread} {inv : Invocation}
      (hk : s.running[k]? = some (t, .handler inv)) :
      Stepped cfg s (.handlerThrows k) (reply s k t inv handlerException)
  | queueReply {k : ℕ} {t : Thread} {inv : Invocation} {r : RpcResult}
      (hk : s.running[k]? = some (t, .reply inv r)) :
      Stepped cfg s (.queueReply k)
        ((s.queueInLoop (cfg.loopOf inv.conn) (.reply inv (replyResult r))).release k t)
  | dropReply {k : ℕ} {t : Thread} {inv : Invocation} {r : RpcResult}
      (hk : s.running[k]? = some (t, .reply inv r))
      (hdown : (s.connections inv.conn).state = .kDown) :
      Stepped cfg s (.dropReply k) (s.release k t)
  -- The worker pool.
  | poolBeginStop {pool : TaskThreadPool Invocation} (hpool : s.taskPool_ = some pool)
      (hthread : s.taskPoolStopThread_ = .spawned) :
      Stepped cfg s .poolBeginStop { s with
        taskPool_ := some (pool.beginStop.getD pool)
        taskPoolStopThread_ := .joining }
  | poolFinishStop {pool pool' : TaskThreadPool Invocation} (hpool : s.taskPool_ = some pool)
      (hthread : s.taskPoolStopThread_ = .joining) (hfinish : pool.finishStop = some pool') :
      Stepped cfg s .poolFinishStop
        ({ s with taskPool_ := some pool', taskPoolStopThread_ := .finished }.queueInLoop 0
          .onTaskPoolStopped)
  | workerTake {w : ℕ} {pool pool' : TaskThreadPool Invocation} {inv : Invocation}
      (hpool : s.taskPool_ = some pool) (htake : pool.take w = some (inv, pool')) :
      Stepped cfg s (.workerTake w) (startHandler { s with
        taskPool_ := some pool'
        running := (.worker w, .handler inv) :: s.running } inv)
  | workerExit {w : ℕ} {pool pool' : TaskThreadPool Invocation} (hpool : s.taskPool_ = some pool)
      (hexit : pool.exit w = some pool') :
      Stepped cfg s (.workerExit w) { s with taskPool_ := some pool' }
  -- The connections and their loops.
  | connectionUp {conn : ConnId} (hstarted : s.status_ ≠ .kNotStarted)
      (hnew : (s.connections conn).state = .kNew) :
      Stepped cfg s (.connectionUp conn) (s.setConnection conn (s.connections conn).up)
  | peerHalfClose {conn : ConnId} (hup : (s.connections conn).state = .kUp) :
      Stepped cfg s (.peerHalfClose conn) (s.setConnection conn (s.connections conn).close)
  | loseConnection {conn : ConnId} (hup : (s.connections conn).state = .kUp) :
      Stepped cfg s (.loseConnection conn) (s.setConnection conn (s.connections conn).lose)
  | connectionDown {conn : ConnId} (hup : (s.connections conn).state = .kUp)
      (hidle : s.busy (.loop (cfg.loopOf conn)) = false) :
      Stepped cfg s (.connectionDown conn) { s with
        connections := Function.update s.connections conn .down
        cancellationRegistry_ := s.cancellationRegistry_.clearConnectionCancellations conn
        trace := .closed conn :: s.trace }
  | deliver {conn : ConnId} {msg : Bytes} {outcome : Option RpcResult}
      (hup : (s.connections conn).state = .kUp)
      (hidle : s.busy (.loop (cfg.loopOf conn)) = false) :
      Stepped cfg s (.deliver conn msg outcome) (onRpcMessage cfg s conn msg outcome)
  | transmit {conn : ConnId} :
      Stepped cfg s (.transmit conn) { s with outbox := s.outbox.dropFirst conn }
  | runTask {l : LoopId} {task : LoopTask} (hidle : s.busy (.loop l) = false)
      (htask : s.tasks.first l = some task) :
      Stepped cfg s (.runTask l) (runTask cfg { s with tasks := s.tasks.dropFirst l } task)

section Inversion

variable {cfg : Config} {s s' : State}

theorem stepped_of_proceed {k : ℕ} {t : Thread} {activity : Activity} {a : Action}
    (ha : a = .submit k ∨ a = .handlerReturns k ∨ a = .handlerThrows k ∨ a = .queueReply k ∨
      a = .dropReply k)
    (hk : s.running[k]? = some (t, activity)) (hs : proceed cfg s k t a activity = some s') :
    Stepped cfg s a s' := by
  rcases ha with rfl | rfl | rfl | rfl | rfl
  · cases activity with
    | submit inv =>
      obtain rfl := Option.some.inj hs
      exact .submit hk
    | handler | reply => cases hs
  · cases activity with
    | handler inv =>
      obtain rfl := Option.some.inj hs
      exact .handlerReturns hk
    | submit | reply => cases hs
  · cases activity with
    | handler inv =>
      obtain rfl := Option.some.inj hs
      exact .handlerThrows hk
    | submit | reply => cases hs
  · cases activity with
    | reply inv r =>
      obtain rfl := Option.some.inj hs
      exact .queueReply hk
    | submit | handler => cases hs
  · cases activity with
    | reply inv r =>
      obtain ⟨hdown, heq⟩ := Option.ite_none_right_eq_some.mp hs
      obtain rfl := Option.some.inj heq
      exact .dropReply hk hdown
    | submit | handler => cases hs

theorem stepped_of_stepPool {pool : TaskThreadPool Invocation} {a : Action}
    (hpool : s.taskPool_ = some pool) (hs : stepPool s pool a = some s') : Stepped cfg s a s' := by
  cases a with
  | poolBeginStop =>
    obtain ⟨hthread, heq⟩ := Option.ite_none_right_eq_some.mp hs
    obtain rfl := Option.some.inj heq
    exact .poolBeginStop hpool hthread
  | poolFinishStop =>
    obtain ⟨hthread, heq⟩ := Option.ite_none_right_eq_some.mp hs
    obtain ⟨pool', hfinish, rfl⟩ := Option.map_eq_some_iff.mp heq
    exact .poolFinishStop hpool hthread hfinish
  | workerTake w =>
    obtain ⟨⟨inv, pool'⟩, htake, rfl⟩ := Option.map_eq_some_iff.mp hs
    exact .workerTake hpool htake
  | workerExit w =>
    obtain ⟨pool', hexit, rfl⟩ := Option.map_eq_some_iff.mp hs
    exact .workerExit hpool hexit
  | _ => cases hs

theorem stepped_of_stepConnection {a : Action} (hs : stepConnection cfg s a = some s') :
    Stepped cfg s a s' := by
  cases a with
  | connectionUp conn =>
    obtain ⟨hcond, heq⟩ := Option.ite_none_right_eq_some.mp hs
    obtain rfl := Option.some.inj heq
    exact .connectionUp hcond.1 hcond.2
  | peerHalfClose conn =>
    obtain ⟨hup, heq⟩ := Option.ite_none_right_eq_some.mp hs
    obtain rfl := Option.some.inj heq
    exact .peerHalfClose hup
  | loseConnection conn =>
    obtain ⟨hup, heq⟩ := Option.ite_none_right_eq_some.mp hs
    obtain rfl := Option.some.inj heq
    exact .loseConnection hup
  | connectionDown conn =>
    obtain ⟨hready, heq⟩ := Option.ite_none_right_eq_some.mp hs
    obtain rfl := Option.some.inj heq
    exact .connectionDown hready.1 hready.2
  | deliver conn msg outcome =>
    obtain ⟨hready, heq⟩ := Option.ite_none_right_eq_some.mp hs
    obtain rfl := Option.some.inj heq
    exact .deliver hready.1 hready.2
  | transmit conn =>
    obtain rfl := Option.some.inj hs
    exact .transmit
  | runTask l =>
    obtain ⟨hbusy, heq⟩ := Option.ite_none_left_eq_some.mp hs
    split at heq
    · cases heq
    · rename_i task htask
      obtain rfl := Option.some.inj heq
      exact .runTask (Bool.eq_false_of_not_eq_true hbusy) htask
  | _ => cases hs

/-- **What a step does**: the invariants are proved from this, without `step`. -/
theorem stepped_of_step {a : Action} (hs : step cfg s a = some s') : Stepped cfg s a s' := by
  cases a with
  | start =>
    obtain rfl := Option.some.inj hs
    exact .start
  | stop =>
    obtain rfl := Option.some.inj hs
    exact .stop
  | tcpServerStopped =>
    obtain ⟨hstatus, heq⟩ := Option.ite_none_left_eq_some.mp hs
    obtain rfl := Option.some.inj heq
    exact .tcpServerStopped hstatus
  | reply inv r =>
    obtain ⟨hinv, heq⟩ := Option.ite_none_right_eq_some.mp hs
    obtain rfl := Option.some.inj heq
    exact .userReply hinv
  | submit k | handlerReturns k | handlerThrows k | queueReply k | dropReply k =>
    unfold step at hs
    dsimp only at hs
    split at hs
    · cases hs
    · rename_i t activity hk
      exact stepped_of_proceed (by simp) hk hs
  | poolBeginStop | poolFinishStop | workerTake | workerExit =>
    unfold step at hs
    dsimp only at hs
    split at hs
    · cases hs
    · rename_i pool hpool
      exact stepped_of_stepPool hpool hs
  | _ => exact stepped_of_stepConnection hs

end Inversion

end MiniRpc.RpcServer
