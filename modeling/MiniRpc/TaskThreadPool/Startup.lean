import MiniRpc.TaskThreadPool.Condition

/-!
# A `start` that throws

A thread may not be created.  Then the constructor of `std::thread` throws, and the `catch` block of
`start` sets the status to `STOPPING`, releases the mutex, wakes and joins the workers it has
created, and throws the exception again.  `start` holds the mutex until the status is set, so that
the threads it has created have seen nothing; after that other threads run in between.
-/

namespace MiniRpc.TaskThreadPool

/-- `start` up to where its `catch` block releases the mutex, when `created` threads have been
created and the next one cannot be; `none` where no thread is to be created. -/
def failStart {τ : Type*} (pool : TaskThreadPool τ) (created : ℕ) : Option (TaskThreadPool τ) :=
  if pool.status_ ≠ .NOT_START then none
  else if created < pool.threadCnt_.toNat then some { pool with
    status_ := .STOPPING
    threads_ := List.replicate created .waiting }
  else none

/-- The pool after a call of `start` that has thrown. -/
def afterThrow {τ : Type*} (pool : TaskThreadPool τ) : TaskThreadPool τ :=
  { pool with threads_ := [], status_ := .STOPPED }

namespace Startup

/-- A call of `start` in its `catch` block. -/
inductive StartCall
  /-- It has released the mutex and has to call `notify_all`. -/
  | notifying
  /-- It joins the workers. -/
  | joining
  /-- It has left its last section. -/
  | leaving
  | threw
  deriving DecidableEq, Repr

structure State where
  base : Condition.State
  /-- The call of `start` that could not create a thread. -/
  failed : Option StartCall
  /-- How many threads that call had created. -/
  created : ℕ
  deriving DecidableEq

def State.init (threadCnt : UInt8) (maxQueueTasks : Option ℕ) : State :=
  ⟨.init threadCnt maxQueueTasks, none, 0⟩

inductive Action
  /-- What the pool does when every thread can be created. -/
  | act (a : Condition.Action)
  /-- `start` is called and creates only so many threads. -/
  | failStart (created : ℕ)
  /-- The failed call of `start` calls `notify_all`. -/
  | notifyStart
  /-- The failed call of `start` has joined the workers and passes its last section. -/
  | finishStart
  /-- The failed call of `start` throws. -/
  | throwStart
  deriving DecidableEq

def step (s : State) : Action → Option State
  | .act a => (Condition.step s.base a).map fun base => { s with base := base }
  | .failStart created => (s.base.base.pool.failStart created).map fun pool => { s with
      base := { s.base with base := { s.base.base with pool := pool } }
      failed := some .notifying
      created := created }
  | .notifyStart =>
    if s.failed = some .notifying then some { s with
      base := { s.base with blocked := ∅ }
      failed := some .joining }
    else none
  | .finishStart =>
    -- the threads are joined and cleared and the status is set as in `stop`
    if s.failed = some .joining then s.base.base.pool.finishStop.map fun pool => { s with
      base := { s.base with base := { s.base.base with pool := pool } }
      failed := some .leaving }
    else none
  | .throwStart =>
    if s.failed = some .leaving then some { s with failed := some .threw } else none

/-- A pool whose `start` may fail. -/
def machine (threadCnt : UInt8) (maxQueueTasks : Option ℕ) : Machine State Action :=
  ⟨.init threadCnt maxQueueTasks, step⟩

/-- The actions that nobody outside the pool has to do anything for. -/
def internal : Action → Bool
  | .act a => Condition.internal a
  | .failStart _ => false
  | _ => true

end Startup

end MiniRpc.TaskThreadPool
