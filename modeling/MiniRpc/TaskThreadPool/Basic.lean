import Mathlib.Data.List.Basic

/-!
# `TaskThreadPool`

The sections of `start`, `stop`, `addTask` and `run` that hold the mutex, each as one operation on
the members it protects and on what the worker threads are doing.  A worker takes a task with
`take`, runs it without the mutex, and is ready for the next one after `finish`, whether the task
has thrown or not.
-/

namespace MiniRpc

inductive TaskThreadPoolStatus
  | NOT_START
  | RUNNING
  | STOPPING
  | STOPPED
  deriving DecidableEq, Repr

inductive TaskSubmitResult
  | kAccepted
  | kNotRunning
  | kQueueFull
  | kEmptyTask
  deriving DecidableEq, Repr

/-- What a worker thread is doing in `run`. -/
inductive Worker (τ : Type*)
  /-- It waits for a task. -/
  | waiting
  /-- It runs a task. -/
  | running (task : τ)
  /-- It has left the loop. -/
  | exited
  deriving DecidableEq, Repr

structure TaskThreadPool (τ : Type*) where
  status_ : TaskThreadPoolStatus
  threadCnt_ : UInt8
  maxQueueTasks_ : Option ℕ
  threads_ : List (Worker τ)
  /-- The queued tasks, the oldest first. -/
  tasks_ : List τ
  deriving DecidableEq, Repr

namespace TaskThreadPool

variable {τ : Type*}

/-- A pool that has not started, with its setters called. -/
def init (threadCnt : UInt8) (maxQueueTasks : Option ℕ) : TaskThreadPool τ where
  status_ := .NOT_START
  threadCnt_ := threadCnt
  maxQueueTasks_ := maxQueueTasks
  threads_ := []
  tasks_ := []

def start (pool : TaskThreadPool τ) : TaskThreadPool τ :=
  if pool.status_ ≠ .NOT_START then pool
  else { pool with
    status_ := .RUNNING
    threads_ := List.replicate pool.threadCnt_.toNat .waiting }

/-- `addTask`; an empty `std::function` is `none`. -/
def addTask (pool : TaskThreadPool τ) (task : Option τ) : TaskSubmitResult × TaskThreadPool τ :=
  match task with
  | none => (.kEmptyTask, pool)
  | some task =>
    if pool.status_ ≠ .RUNNING then (.kNotRunning, pool)
    else if pool.maxQueueTasks_.any fun n => decide (pool.tasks_.length ≥ n) then
      (.kQueueFull, pool)
    else (.kAccepted, { pool with tasks_ := pool.tasks_ ++ [task] })

/-! ### `stop` -/

/-- The first section of `stop`; `none` where `stop` returns at once. -/
def beginStop (pool : TaskThreadPool τ) : Option (TaskThreadPool τ) :=
  if pool.status_ ≠ .RUNNING then none else some { pool with status_ := .STOPPING }

/-- The last section of `stop`, once every thread has been joined. -/
def finishStop (pool : TaskThreadPool τ) : Option (TaskThreadPool τ) :=
  if pool.threads_.all fun
    | .exited => true
    | _ => false
  then some { pool with threads_ := [], status_ := .STOPPED }
  else none

/-! ### `run` -/

/-- Worker `w` takes the oldest task. -/
def take (pool : TaskThreadPool τ) (w : ℕ) : Option (τ × TaskThreadPool τ) :=
  match pool.threads_[w]?, pool.tasks_ with
  | some .waiting, task :: tasks =>
    some (task, { pool with threads_ := pool.threads_.set w (.running task), tasks_ := tasks })
  | _, _ => none

/-- The task of worker `w` has returned or thrown. -/
def finish (pool : TaskThreadPool τ) (w : ℕ) : TaskThreadPool τ :=
  { pool with threads_ := pool.threads_.set w .waiting }

/-- Worker `w` leaves its loop. -/
def exit (pool : TaskThreadPool τ) (w : ℕ) : Option (TaskThreadPool τ) :=
  match pool.threads_[w]?, pool.tasks_ with
  | some .waiting, [] =>
    if pool.status_ ≠ .RUNNING then some { pool with threads_ := pool.threads_.set w .exited }
    else none
  | _, _ => none

/-! ### The queue after an operation -/

@[simp] theorem tasks_start (pool : TaskThreadPool τ) : pool.start.tasks_ = pool.tasks_ := by
  unfold start
  split <;> rfl

@[simp] theorem tasks_finish (pool : TaskThreadPool τ) (w : ℕ) :
    (pool.finish w).tasks_ = pool.tasks_ := rfl

/-- A task is accepted at the end of the queue, or the pool stays as it is. -/
theorem addTask_cases (pool : TaskThreadPool τ) (task : τ) :
    (pool.addTask (some task) = (.kAccepted, { pool with tasks_ := pool.tasks_ ++ [task] })) ∨
      (pool.addTask (some task)).1 ≠ .kAccepted ∧ (pool.addTask (some task)).2 = pool := by
  unfold addTask
  dsimp only
  split
  · exact .inr ⟨by simp, rfl⟩
  · split
    · exact .inr ⟨by simp, rfl⟩
    · exact .inl rfl

theorem take_eq_some {pool pool' : TaskThreadPool τ} {w : ℕ} {task : τ}
    (h : pool.take w = some (task, pool')) : pool.tasks_ = task :: pool'.tasks_ := by
  unfold take at h
  split at h
  · rename_i htasks
    obtain ⟨rfl, rfl⟩ := Prod.mk.inj (Option.some.inj h)
    exact htasks
  · cases h

theorem tasks_of_exit {pool pool' : TaskThreadPool τ} {w : ℕ} (h : pool.exit w = some pool') :
    pool'.tasks_ = pool.tasks_ := by
  unfold exit at h
  split at h
  · split at h
    · obtain rfl := Option.some.inj h
      rfl
    · cases h
  · cases h

theorem tasks_of_beginStop {pool pool' : TaskThreadPool τ} (h : pool.beginStop = some pool') :
    pool'.tasks_ = pool.tasks_ := by
  unfold beginStop at h
  split at h
  · cases h
  · obtain rfl := Option.some.inj h
    rfl

theorem tasks_of_finishStop {pool pool' : TaskThreadPool τ} (h : pool.finishStop = some pool') :
    pool'.tasks_ = pool.tasks_ := by
  unfold finishStop at h
  split at h
  · obtain rfl := Option.some.inj h
    rfl
  · cases h

end TaskThreadPool

end MiniRpc
