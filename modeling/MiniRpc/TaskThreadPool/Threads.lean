import Mathlib.Data.Finset.Basic
import MiniRpc.TaskThreadPool.Step

/-!
# The thread pool with the ends of its threads

In `TaskThreadPool.Step` a worker counts as joined once it has left its loop.  Here the thread of a
worker that has left its loop is alive until it ends, some time later, and `stop` joins the threads
one after another: `join` returns only when the thread has ended.
-/

namespace MiniRpc.TaskThreadPool.Threads

structure State where
  /-- The members under the mutex and what the threads are doing. -/
  base : TaskThreadPool.State
  /-- The workers whose threads have ended. -/
  ended : Finset ℕ
  /-- How many threads the loop of `stop` has joined. -/
  joined : ℕ
  deriving DecidableEq

def State.init (threadCnt : UInt8) (maxQueueTasks : Option ℕ) : State :=
  ⟨.init threadCnt maxQueueTasks, ∅, 0⟩

inductive Action
  /-- A section under the mutex, the end of a task, or the return of a call. -/
  | turn (a : TaskThreadPool.Action)
  /-- The thread of a worker that has left its loop ends. -/
  | endThread (w : ℕ)
  /-- The `k`-th call of `stop` joins the next thread. -/
  | join (k : ℕ)
  deriving DecidableEq

/-- The action comes after the loop that joins the threads, which is not over. -/
def Held (s : State) : TaskThreadPool.Action → Prop
  | .finishStop _ => s.joined < s.base.pool.threads_.length
  | _ => False

instance (s : State) : DecidablePred (Held s)
  | .finishStop _ => inferInstanceAs (Decidable (_ < _))
  | .start => .isFalse id
  | .addTask _ => .isFalse id
  | .take _ => .isFalse id
  | .finish _ _ => .isFalse id
  | .exit _ => .isFalse id
  | .stop => .isFalse id
  | .returnStop _ => .isFalse id

def step (s : State) : Action → Option State
  | .turn a =>
    if Held s a then none
    else (TaskThreadPool.step s.base a).map fun base => { s with base := base }
  | .endThread w =>
    if s.base.pool.threads_[w]? = some .exited ∧ w ∉ s.ended then
      some { s with ended := insert w s.ended }
    else none
  | .join k =>
    -- there are at most 255 threads, so the counter of the loop does not wrap around
    if s.base.stops[k]? = some .joining ∧ s.joined < s.base.pool.threads_.length ∧
      s.joined ∈ s.ended
    then some { s with joined := s.joined + 1 }
    else none

/-- A pool with its callers and the threads of its workers as a machine. -/
def machine (threadCnt : UInt8) (maxQueueTasks : Option ℕ) : Machine State Action :=
  ⟨.init threadCnt maxQueueTasks, step⟩

end MiniRpc.TaskThreadPool.Threads
