import MiniRpc.Machine.Basic
import MiniRpc.TaskThreadPool.Basic

/-!
# The thread pool as a machine

Threads that submit tasks, the workers and threads that call `stop` take turns; a turn is one
section under the mutex, or the end of a task.  A worker that has left its loop counts as joined;
its thread may still be alive then, which is in `TaskThreadPool.Threads`.  The calls of `addTask`
are numbered and the task of a call has its number, so that every task can be followed.

`accepted`, `refused`, `taken`, `finished` and `exits` record what happened; nothing reads them.
-/

namespace MiniRpc.TaskThreadPool

/-- The number of a call of `addTask`, and of its task. -/
abbrev TaskId := ℕ

/-- How a task ended. -/
inductive Outcome
  | returned
  | threw
  deriving DecidableEq, Repr

/-- A call of `stop`. -/
inductive StopCall
  /-- It has set the status and joins the workers. -/
  | joining
  /-- It has left its last section. -/
  | leaving
  | returned
  deriving DecidableEq, Repr

structure State where
  pool : TaskThreadPool TaskId
  /-- The number of the next call of `addTask`. -/
  nextTask : TaskId
  /-- The calls of `stop`, in the order in which they took the mutex. -/
  stops : List StopCall
  /-- The tasks whose `addTask` returned `kAccepted`, in that order. -/
  accepted : List TaskId
  /-- The tasks whose `addTask` returned something else. -/
  refused : List TaskId
  /-- The tasks the workers have taken, in that order. -/
  taken : List TaskId
  /-- The tasks that have ended. -/
  finished : List (TaskId × Outcome)
  /-- The workers that have left their loop. -/
  exits : List ℕ
  deriving DecidableEq, Repr

def State.init (threadCnt : UInt8) (maxQueueTasks : Option ℕ) : State :=
  ⟨.init threadCnt maxQueueTasks, 0, [], [], [], [], [], []⟩

inductive Action
  /-- `start` is called. -/
  | start
  /-- `addTask` is called, maybe with an empty function. -/
  | addTask (empty : Bool)
  /-- A worker takes a task. -/
  | take (w : ℕ)
  /-- The task of a worker ends. -/
  | finish (w : ℕ) (outcome : Outcome)
  /-- A worker leaves its loop. -/
  | exit (w : ℕ)
  /-- A thread calls `stop` and passes the first section. -/
  | stop
  /-- The `k`-th call of `stop` has joined the workers and passes the last section. -/
  | finishStop (k : ℕ)
  /-- The `k`-th call of `stop` returns. -/
  | returnStop (k : ℕ)
  deriving DecidableEq, Repr

def step (s : State) : Action → Option State
  | .start => some { s with pool := s.pool.start }
  | .addTask empty =>
    match s.pool.addTask (if empty then none else some s.nextTask) with
    | (.kAccepted, pool) => some { s with
        pool := pool
        nextTask := s.nextTask + 1
        accepted := s.accepted ++ [s.nextTask] }
    | (_, pool) => some { s with
        pool := pool
        nextTask := s.nextTask + 1
        refused := s.refused ++ [s.nextTask] }
  | .take w => (s.pool.take w).map fun (task, pool) =>
      { s with pool := pool, taken := s.taken ++ [task] }
  | .finish w outcome =>
    match s.pool.threads_[w]? with
    | some (.running task) => some { s with
        pool := s.pool.finish w
        finished := s.finished ++ [(task, outcome)] }
    | _ => none
  | .exit w => (s.pool.exit w).map fun pool => { s with pool := pool, exits := w :: s.exits }
  | .stop =>
    match s.pool.beginStop with
    | none => some { s with stops := s.stops ++ [.leaving] }
    | some pool => some { s with pool := pool, stops := s.stops ++ [.joining] }
  | .finishStop k =>
    if s.stops[k]? = some .joining then
      s.pool.finishStop.map fun pool => { s with pool := pool, stops := s.stops.set k .leaving }
    else none
  | .returnStop k =>
    if s.stops[k]? = some .leaving then some { s with stops := s.stops.set k .returned } else none

/-- A pool with its callers and its workers as a machine. -/
def machine (threadCnt : UInt8) (maxQueueTasks : Option ℕ) : Machine State Action :=
  ⟨.init threadCnt maxQueueTasks, step⟩

end MiniRpc.TaskThreadPool
