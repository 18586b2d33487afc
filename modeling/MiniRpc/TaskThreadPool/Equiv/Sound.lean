import Mathlib.Data.List.Perm.Basic
import MiniRpc.TaskThreadPool.Basic

/-!
# What holds of a thread pool between its operations

One inversion lemma for each partial operation, and `Sound`, which every operation keeps: a worker
leaves only when the pool is stopping and its queue is empty, and then the queue stays empty.

`running` are the tasks the workers are running; taking a task adds one, its end removes it.
-/

namespace MiniRpc.TaskThreadPool

variable {τ : Type*} {pool pool' : TaskThreadPool τ} {w : ℕ} {task : τ}

/-! ### What the operations do -/

theorem start_of_ne (h : pool.status_ ≠ .NOT_START) : pool.start = pool := if_pos h

theorem start_of_eq (h : pool.status_ = .NOT_START) : pool.start = { pool with
    status_ := .RUNNING, threads_ := List.replicate pool.threadCnt_.toNat .waiting } :=
  if_neg (not_not.mpr h)

theorem addTask_inv {t : Option τ} (h : pool.addTask t = (.kAccepted, pool')) :
    ∃ task, t = some task ∧ pool.status_ = .RUNNING ∧
      (∀ n ∈ pool.maxQueueTasks_, pool.tasks_.length < n) ∧
      pool' = { pool with tasks_ := pool.tasks_ ++ [task] } := by
  unfold addTask at h
  split at h
  · cases h
  · rename_i task
    split_ifs at h with hstatus hfull
    · cases h
    · cases h
    · refine ⟨task, rfl, not_not.mp hstatus, fun n hn => ?_, (Prod.mk.inj h).2.symm⟩
      rw [Option.mem_def] at hn
      rw [hn] at hfull
      exact Nat.lt_of_not_le fun hle => hfull (decide_eq_true hle)

theorem addTask_of_refused {t : Option τ} {res : TaskSubmitResult}
    (h : pool.addTask t = (res, pool')) (hres : res ≠ .kAccepted) : pool' = pool := by
  unfold addTask at h
  split at h
  · exact (Prod.mk.inj h).2.symm
  · split_ifs at h
    · exact (Prod.mk.inj h).2.symm
    · exact (Prod.mk.inj h).2.symm
    · exact absurd (Prod.mk.inj h).1.symm hres

theorem beginStop_inv (h : pool.beginStop = some pool') :
    pool.status_ = .RUNNING ∧ pool' = { pool with status_ := .STOPPING } := by
  unfold beginStop at h
  split_ifs at h with hstatus
  exact ⟨not_not.mp hstatus, (Option.some.inj h).symm⟩

theorem beginStop_none (h : pool.beginStop = none) : pool.status_ ≠ .RUNNING := by
  unfold beginStop at h
  split_ifs at h with hstatus
  exact hstatus

theorem finishStop_inv (h : pool.finishStop = some pool') :
    (∀ x ∈ pool.threads_, x = .exited) ∧
      pool' = { pool with threads_ := [], status_ := .STOPPED } := by
  unfold finishStop at h
  split_ifs at h with hall
  refine ⟨fun x hx => ?_, (Option.some.inj h).symm⟩
  have hx := List.all_eq_true.mp hall x hx
  cases x with
  | exited => rfl
  | waiting | running => cases hx

theorem take_inv (h : pool.take w = some (task, pool')) :
    ∃ tasks, pool.threads_[w]? = some .waiting ∧ pool.tasks_ = task :: tasks ∧
      pool' = { pool with threads_ := pool.threads_.set w (.running task), tasks_ := tasks } := by
  unfold take at h
  split at h
  · rename_i task' tasks hw htasks
    obtain ⟨rfl, rfl⟩ := Prod.mk.inj (Option.some.inj h)
    exact ⟨tasks, hw, htasks, rfl⟩
  · cases h

theorem exit_inv (h : pool.exit w = some pool') :
    pool.threads_[w]? = some .waiting ∧ pool.tasks_ = [] ∧ pool.status_ ≠ .RUNNING ∧
      pool' = { pool with threads_ := pool.threads_.set w .exited } := by
  unfold exit at h
  split at h
  · rename_i hw htasks
    split_ifs at h with hstatus
    exact ⟨hw, htasks, hstatus, (Option.some.inj h).symm⟩
  · cases h

/-! ### The running tasks -/

/-- The task a worker is running. -/
def taskOf : Worker τ → Option τ
  | .running task => some task
  | _ => none

/-- The tasks the workers are running. -/
def running (pool : TaskThreadPool τ) : List τ := pool.threads_.filterMap taskOf

/-- One worker and the others. -/
theorem perm_running {threads : List (Worker τ)} {x : Worker τ} (h : threads[w]? = some x) :
    (threads.filterMap taskOf).Perm
      ((taskOf x).toList ++ (threads.eraseIdx w).filterMap taskOf) := by
  obtain ⟨hlt, hget⟩ := List.getElem?_eq_some_iff.mp h
  have hperm := ((List.getElem_cons_eraseIdx_perm hlt).symm).filterMap taskOf
  rw [hget, List.filterMap_cons] at hperm
  cases hx : taskOf x with
  | none => rwa [hx] at hperm
  | some t => rwa [hx] at hperm

/-- A worker goes on to something else. -/
theorem perm_running_set {threads : List (Worker τ)} {x : Worker τ} (h : threads[w]? = some x)
    (y : Worker τ) : ((threads.set w y).filterMap taskOf).Perm
      ((taskOf y).toList ++ (threads.eraseIdx w).filterMap taskOf) := by
  have hlt : w < threads.length := (List.getElem?_eq_some_iff.mp h).1
  have hget : (threads.set w y)[w]? = some y := List.getElem?_set_self hlt
  have hperm := perm_running hget
  rwa [List.eraseIdx_set_eq] at hperm

theorem running_start : pool.start.running = if pool.status_ = .NOT_START then [] else
    pool.running := by
  split_ifs with hstatus
  · rw [start_of_eq hstatus]
    refine List.filterMap_eq_nil_iff.mpr fun x hx => ?_
    rw [List.eq_of_mem_replicate hx]
    rfl
  · rw [start_of_ne hstatus]

theorem running_take (h : pool.take w = some (task, pool')) :
    pool'.running.Perm (task :: pool.running) := by
  obtain ⟨tasks, hw, -, rfl⟩ := take_inv h
  exact (perm_running_set hw (.running task)).trans ((perm_running hw).symm.cons task)

theorem running_finish (h : pool.threads_[w]? = some (.running task)) :
    pool.running.Perm (task :: (pool.finish w).running) :=
  (perm_running h).trans ((perm_running_set h .waiting).symm.cons task)

theorem running_exit (h : pool.exit w = some pool') : pool'.running.Perm pool.running := by
  obtain ⟨hw, -, -, rfl⟩ := exit_inv h
  exact (perm_running_set hw .exited).trans (perm_running hw).symm

/-- No worker runs a task once all have left. -/
theorem running_of_exited (h : ∀ x ∈ pool.threads_, x = .exited) : pool.running = [] := by
  refine List.filterMap_eq_nil_iff.mpr fun x hx => ?_
  rw [h x hx]
  rfl

/-! ### Soundness -/

/-- What holds of a pool between its operations. -/
structure Sound (pool : TaskThreadPool τ) : Prop where
  /-- Before `start` there is no worker and no task. -/
  idle : pool.status_ = .NOT_START → pool.threads_ = [] ∧ pool.tasks_ = []
  /-- While the pool runs or stops it has its workers. -/
  workers : pool.status_ = .RUNNING ∨ pool.status_ = .STOPPING →
    pool.threads_.length = pool.threadCnt_.toNat
  /-- A worker leaves when nothing is queued and nothing can be. -/
  exited : .exited ∈ pool.threads_ → pool.status_ = .STOPPING ∧ pool.tasks_ = []
  /-- A pool that has stopped has no worker and no task. -/
  stopped : pool.status_ = .STOPPED → pool.threads_ = [] ∧ pool.tasks_ = []
  bounded : ∀ n ∈ pool.maxQueueTasks_, pool.tasks_.length ≤ n

theorem sound_init (threadCnt : UInt8) (maxQueueTasks : Option ℕ) :
    Sound (init threadCnt maxQueueTasks : TaskThreadPool τ) where
  idle _ := ⟨rfl, rfl⟩
  workers h := by rcases h with h | h <;> cases h
  exited h := by cases h
  stopped h := by cases h
  bounded n _ := Nat.zero_le n

theorem Sound.start (h : pool.Sound) : pool.start.Sound := by
  by_cases hstatus : pool.status_ = .NOT_START
  · rw [start_of_eq hstatus]
    refine ⟨fun heq => (by cases heq), fun _ => List.length_replicate, fun hmem => ?_,
      fun heq => (by cases heq), h.bounded⟩
    cases List.eq_of_mem_replicate hmem
  · rwa [start_of_ne hstatus]

theorem Sound.addTask (h : pool.Sound) {t : Option τ} : (pool.addTask t).2.Sound := by
  rcases hadd : pool.addTask t with ⟨res, pool'⟩
  by_cases hres : res = .kAccepted
  · subst hres
    obtain ⟨task, -, hstatus, hroom, rfl⟩ := addTask_inv hadd
    refine ⟨fun heq => ?_, h.workers, fun hmem => ?_, fun heq => ?_, fun n hn => ?_⟩
    · cases hstatus.symm.trans heq
    · cases hstatus.symm.trans (h.exited hmem).1
    · cases hstatus.symm.trans heq
    · show (pool.tasks_ ++ [task]).length ≤ n
      rw [List.length_append, List.length_singleton]
      exact hroom n hn
  · rw [addTask_of_refused hadd hres]
    exact h

theorem Sound.beginStop (h : pool.Sound) (hbegin : pool.beginStop = some pool') : pool'.Sound := by
  obtain ⟨hstatus, rfl⟩ := beginStop_inv hbegin
  refine ⟨fun heq => (by cases heq), fun _ => h.workers (.inl hstatus), fun hmem => ?_,
    fun heq => (by cases heq), h.bounded⟩
  cases hstatus.symm.trans (h.exited hmem).1

/-- All workers have left, so nothing is queued. -/
theorem Sound.tasks_of_exited (h : pool.Sound) (hcnt : 0 < pool.threadCnt_)
    (hstatus : pool.status_ = .STOPPING) (hexited : ∀ x ∈ pool.threads_, x = .exited) :
    pool.tasks_ = [] := by
  -- there is a worker, and it left when the queue was empty
  have hlen := h.workers (.inr hstatus)
  have hpos : 0 < pool.threads_.length := hlen ▸ UInt8.lt_iff_toNat_lt.mp hcnt
  have hmem : pool.threads_[0] ∈ pool.threads_ := List.getElem_mem hpos
  exact (h.exited (hexited _ hmem ▸ hmem)).2

theorem Sound.finishStop (h : pool.Sound) (hcnt : 0 < pool.threadCnt_)
    (hstatus : pool.status_ = .STOPPING) (hfinish : pool.finishStop = some pool') :
    pool'.Sound := by
  obtain ⟨hexited, rfl⟩ := finishStop_inv hfinish
  refine ⟨fun heq => (by cases heq), fun heq => ?_, fun hmem => (by cases hmem), fun _ => ?_,
    h.bounded⟩
  · rcases heq with heq | heq <;> cases heq
  · exact ⟨rfl, h.tasks_of_exited hcnt hstatus hexited⟩

theorem mem_of_mem_set {threads : List (Worker τ)} {x : Worker τ}
    (h : .exited ∈ threads.set w x) (hx : x ≠ .exited) : .exited ∈ threads :=
  (List.mem_or_eq_of_mem_set h).resolve_right fun heq => hx heq.symm

/-- A pool never has more workers than it starts. -/
theorem Sound.length_le (h : pool.Sound) : pool.threads_.length ≤ pool.threadCnt_.toNat := by
  cases hstatus : pool.status_ with
  | NOT_START => simp [(h.idle hstatus).1]
  | RUNNING => exact Nat.le_of_eq (h.workers (.inl hstatus))
  | STOPPING => exact Nat.le_of_eq (h.workers (.inr hstatus))
  | STOPPED => simp [(h.stopped hstatus).1]

/-- A worker goes on to something else; the queue may get shorter. -/
theorem Sound.set (h : pool.Sound) {x : Worker τ} {tasks : List τ} (hx : x ≠ .exited)
    (hw : pool.threads_[w]? ≠ none) (htasks : tasks.length ≤ pool.tasks_.length) :
    Sound { pool with threads_ := pool.threads_.set w x, tasks_ := tasks } := by
  have hne : pool.threads_ ≠ [] := fun heq => hw (by rw [heq, List.getElem?_nil])
  have hnil : pool.tasks_ = [] → tasks = [] := fun heq => by
    rw [heq] at htasks
    exact List.eq_nil_of_length_eq_zero (Nat.eq_zero_of_le_zero htasks)
  refine ⟨fun heq => ?_, fun heq => ?_, fun hmem => ?_, fun heq => ?_, fun n hn => ?_⟩
  · exact absurd (h.idle heq).1 hne
  · exact List.length_set.trans (h.workers heq)
  · have hold := h.exited (mem_of_mem_set hmem hx)
    exact ⟨hold.1, hnil hold.2⟩
  · exact absurd (h.stopped heq).1 hne
  · exact Nat.le_trans htasks (h.bounded n hn)

theorem Sound.take (h : pool.Sound) (htake : pool.take w = some (task, pool')) : pool'.Sound := by
  obtain ⟨tasks, hw, htasks, rfl⟩ := take_inv htake
  refine h.set (fun heq => (by cases heq)) (fun heq => (by cases hw.symm.trans heq)) ?_
  rw [htasks]
  exact Nat.le_succ _

theorem Sound.finish (h : pool.Sound) (hw : pool.threads_[w]? = some (.running task)) :
    (pool.finish w).Sound :=
  h.set (fun heq => (by cases heq)) (fun heq => (by cases hw.symm.trans heq)) (Nat.le_refl _)

theorem Sound.exit (h : pool.Sound) (hexit : pool.exit w = some pool') : pool'.Sound := by
  obtain ⟨hw, htasks, hstatus, rfl⟩ := exit_inv hexit
  have hne : pool.threads_ ≠ [] := fun heq => by
    rw [heq, List.getElem?_nil] at hw
    cases hw
  -- a pool that has not started or has stopped has no worker
  have hstopping : pool.status_ = .STOPPING := by
    cases hs : pool.status_ with
    | NOT_START => exact absurd (h.idle hs).1 hne
    | RUNNING => exact absurd hs hstatus
    | STOPPING => rfl
    | STOPPED => exact absurd (h.stopped hs).1 hne
  refine ⟨fun heq => absurd (h.idle heq).1 hne, fun heq => ?_, fun _ => ⟨hstopping, htasks⟩,
    fun heq => absurd (h.stopped heq).1 hne, h.bounded⟩
  exact List.length_set.trans (h.workers heq)

end MiniRpc.TaskThreadPool
