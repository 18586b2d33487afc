import Mathlib.Data.Finset.Basic
import MiniRpc.TaskThreadPool.Step

/-!
# The thread pool with its condition variable

In `TaskThreadPool.Step` a worker takes a task as soon as there is one.  Here a worker that finds
nothing to do blocks in `condition_.wait` and does nothing until it is woken: by the `notify_one`
with which `addTask` ends, by the `notify_all` of `stop`, or spuriously.  The notifications come
after the section that queues the task or sets the status, and other threads run in between.

A worker that is woken takes the mutex and evaluates the predicate of `wait` again.  Where it holds,
the worker takes a task or leaves its loop in the same section; where it does not, the worker blocks
again (`wait`).
-/

namespace MiniRpc.TaskThreadPool.Condition

structure State where
  /-- The members under the mutex and what the threads are doing. -/
  base : TaskThreadPool.State
  /-- The workers blocked in `condition_.wait`. -/
  blocked : Finset ℕ
  /-- How many calls of `addTask` have queued a task and not yet called `notify_one`. -/
  adding : ℕ
  /-- The calls of `stop` that have set the status and not yet called `notify_all`. -/
  stopping : List ℕ
  deriving DecidableEq

def State.init (threadCnt : UInt8) (maxQueueTasks : Option ℕ) : State :=
  ⟨.init threadCnt maxQueueTasks, ∅, 0, []⟩

inductive Action
  /-- A section under the mutex, the end of a task, or the return of a call. -/
  | turn (a : TaskThreadPool.Action)
  /-- A worker finds the predicate of `wait` false and blocks. -/
  | wait (w : ℕ)
  /-- A call of `addTask` calls `notify_one`, which wakes the worker given if any is blocked. -/
  | notifyOne (w : Option ℕ)
  /-- The `k`-th call of `stop` calls `notify_all`. -/
  | notifyAll (k : ℕ)
  /-- A blocked worker wakes without a notification. -/
  | wake (w : ℕ)
  deriving DecidableEq

/-- The predicate of `wait` in `run`. -/
def predicate (pool : TaskThreadPool TaskId) : Bool :=
  !pool.tasks_.isEmpty || decide (pool.status_ ≠ .RUNNING)

/-- The action needs a thread that is blocked, or that has yet to notify. -/
def Held (s : State) : TaskThreadPool.Action → Prop
  | .take w => w ∈ s.blocked
  | .exit w => w ∈ s.blocked
  | .finishStop k => k ∈ s.stopping
  | _ => False

instance (s : State) : DecidablePred (Held s)
  | .take w => inferInstanceAs (Decidable (w ∈ s.blocked))
  | .exit w => inferInstanceAs (Decidable (w ∈ s.blocked))
  | .finishStop k => inferInstanceAs (Decidable (k ∈ s.stopping))
  | .start => .isFalse id
  | .addTask _ => .isFalse id
  | .finish _ _ => .isFalse id
  | .stop => .isFalse id
  | .returnStop _ => .isFalse id

/-- How many calls of `addTask` have to notify after a turn. -/
def addingAfter (s : State) : TaskThreadPool.Action → ℕ
  | .addTask empty =>
    match s.base.pool.addTask (if empty then none else some s.base.nextTask) with
    | (.kAccepted, _) => s.adding + 1
    | _ => s.adding
  | _ => s.adding

/-- The calls of `stop` that have to notify after a turn. -/
def stoppingAfter (s : State) : TaskThreadPool.Action → List ℕ
  | .stop =>
    match s.base.pool.beginStop with
    | none => s.stopping
    | some _ => s.base.stops.length :: s.stopping
  | _ => s.stopping

def step (s : State) : Action → Option State
  | .turn a =>
    if Held s a then none
    else (TaskThreadPool.step s.base a).map fun base =>
      { s with base := base, adding := addingAfter s a, stopping := stoppingAfter s a }
  | .wait w =>
    if s.base.pool.threads_[w]? = some .waiting ∧ w ∉ s.blocked ∧ predicate s.base.pool = false then
      some { s with blocked := insert w s.blocked }
    else none
  | .notifyOne none =>
    if 0 < s.adding ∧ s.blocked = ∅ then some { s with adding := s.adding - 1 } else none
  | .notifyOne (some w) =>
    if 0 < s.adding ∧ w ∈ s.blocked then
      some { s with adding := s.adding - 1, blocked := s.blocked.erase w }
    else none
  | .notifyAll k =>
    if k ∈ s.stopping then some { s with blocked := ∅, stopping := s.stopping.erase k } else none
  | .wake w => if w ∈ s.blocked then some { s with blocked := s.blocked.erase w } else none

/-- A pool with its condition variable, its callers and its workers as a machine. -/
def machine (threadCnt : UInt8) (maxQueueTasks : Option ℕ) : Machine State Action :=
  ⟨.init threadCnt maxQueueTasks, step⟩

/-- The actions that nobody outside the pool has to do anything for; a task is run by a worker. -/
def internal : Action → Bool
  | .turn .start => false
  | .turn (.addTask _) => false
  | .turn .stop => false
  | .wake _ => false
  | _ => true

end MiniRpc.TaskThreadPool.Condition
