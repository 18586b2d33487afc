import Mathlib.Data.Finset.Card
import MiniRpc.Machine.Progress
import MiniRpc.Machine.Refinement
import MiniRpc.TaskThreadPool.Condition
import MiniRpc.TaskThreadPool.Equiv.Drain

/-!
# No wake-up is lost

The pool with its condition variable refines the pool without it (`refines_base`), so whatever is
known of the latter holds of it too.  What the condition variable adds is that a worker may be
blocked while there is something to do.

`NoLostWakeup`: while a worker is blocked, the queued tasks are no more than the calls of
`notify_one` that are due and the workers that are awake, and if the pool has been told to stop then
`notify_all` is due.  So nothing is left undone when no thread of the pool can go on.
-/

namespace MiniRpc.TaskThreadPool.Condition

variable {threadCnt : UInt8} {maxQueueTasks : Option ℕ} {s s' : State} {a : Action}

/-! ### What a step does -/

/-- What a step does to the pool, to the calls of `stop` and to the blocked workers. -/
inductive Moves : State → Action → State → Prop
  | start {s : State} {base : TaskThreadPool.State} (hpool : base.pool = s.base.pool.start)
      (hstops : base.stops = s.base.stops) : Moves s (.turn .start) { s with base := base }
  | accept {s : State} {base : TaskThreadPool.State} {empty : Bool} {task : TaskId}
      (h : s.base.pool.addTask (some task) = (.kAccepted, base.pool))
      (hstops : base.stops = s.base.stops) :
      Moves s (.turn (.addTask empty)) { s with base := base, adding := s.adding + 1 }
  | refuse {s : State} {base : TaskThreadPool.State} {empty : Bool}
      (hpool : base.pool = s.base.pool) (hstops : base.stops = s.base.stops) :
      Moves s (.turn (.addTask empty)) { s with base := base }
  | take {s : State} {base : TaskThreadPool.State} {w : ℕ} {task : TaskId} (hw : w ∉ s.blocked)
      (h : s.base.pool.take w = some (task, base.pool)) (hstops : base.stops = s.base.stops) :
      Moves s (.turn (.take w)) { s with base := base }
  | finish {s : State} {base : TaskThreadPool.State} {w : ℕ} {task : TaskId} {outcome : Outcome}
      (h : s.base.pool.threads_[w]? = some (.running task))
      (hpool : base.pool = s.base.pool.finish w) (hstops : base.stops = s.base.stops) :
      Moves s (.turn (.finish w outcome)) { s with base := base }
  | exit {s : State} {base : TaskThreadPool.State} {w : ℕ} (hw : w ∉ s.blocked)
      (h : s.base.pool.exit w = some base.pool) (hstops : base.stops = s.base.stops) :
      Moves s (.turn (.exit w)) { s with base := base }
  | beginStop {s : State} {base : TaskThreadPool.State}
      (h : s.base.pool.beginStop = some base.pool)
      (hstops : base.stops = s.base.stops ++ [.joining]) : Moves s (.turn .stop) { s with
        base := base
        stopping := s.base.stops.length :: s.stopping }
  | earlyStop {s : State} {base : TaskThreadPool.State} (hpool : base.pool = s.base.pool)
      (hstops : base.stops = s.base.stops ++ [.leaving]) :
      Moves s (.turn .stop) { s with base := base }
  | finishStop {s : State} {base : TaskThreadPool.State} {k : ℕ} (hheld : k ∉ s.stopping)
      (hk : s.base.stops[k]? = some .joining) (h : s.base.pool.finishStop = some base.pool)
      (hstops : base.stops = s.base.stops.set k .leaving) :
      Moves s (.turn (.finishStop k)) { s with base := base }
  | returnStop {s : State} {base : TaskThreadPool.State} {k : ℕ}
      (hk : s.base.stops[k]? = some .leaving) (hpool : base.pool = s.base.pool)
      (hstops : base.stops = s.base.stops.set k .returned) :
      Moves s (.turn (.returnStop k)) { s with base := base }
  | wait {s : State} {w : ℕ} (hw : s.base.pool.threads_[w]? = some .waiting)
      (hblocked : w ∉ s.blocked) (htasks : s.base.pool.tasks_ = [])
      (hstatus : s.base.pool.status_ = .RUNNING) :
      Moves s (.wait w) { s with blocked := insert w s.blocked }
  | notifyNone {s : State} (hadding : 0 < s.adding) (hblocked : s.blocked = ∅) :
      Moves s (.notifyOne none) { s with adding := s.adding - 1 }
  | notifyOne {s : State} {w : ℕ} (hadding : 0 < s.adding) (hw : w ∈ s.blocked) :
      Moves s (.notifyOne (some w)) { s with
        adding := s.adding - 1
        blocked := s.blocked.erase w }
  | notifyAll {s : State} {k : ℕ} (hk : k ∈ s.stopping) : Moves s (.notifyAll k) { s with
        blocked := ∅
        stopping := s.stopping.erase k }
  | wake {s : State} {w : ℕ} (hw : w ∈ s.blocked) :
      Moves s (.wake w) { s with blocked := s.blocked.erase w }

/-- The predicate of `wait` is false exactly while the pool runs and nothing is queued. -/
theorem predicate_eq_false {pool : TaskThreadPool TaskId} :
    predicate pool = false ↔ pool.tasks_ = [] ∧ pool.status_ = .RUNNING := by
  unfold predicate
  cases pool.tasks_ <;> simp

theorem moves_of_turn {t : TaskThreadPool.Action} (h : step s (.turn t) = some s') :
    Moves s (.turn t) s' := by
  simp only [step] at h
  split_ifs at h with hheld
  obtain ⟨base, hstep, rfl⟩ := Option.map_eq_some_iff.mp h
  cases t with
  | start =>
    obtain rfl := Option.some.inj hstep
    exact .start rfl rfl
  | addTask empty =>
    simp only [TaskThreadPool.step] at hstep
    split at hstep
    · rename_i pool hadd
      obtain rfl := Option.some.inj hstep
      obtain ⟨task, htask, -⟩ := addTask_inv hadd
      have hafter : addingAfter s (.addTask empty) = s.adding + 1 := by
        simp only [addingAfter, hadd]
      rw [hafter]
      rw [htask] at hadd
      exact .accept hadd rfl
    · rename_i res pool hres hadd
      obtain rfl := Option.some.inj hstep
      have hafter : addingAfter s (.addTask empty) = s.adding := by
        simp only [addingAfter, hadd]
        cases res <;> first | rfl | exact absurd rfl hres
      rw [hafter]
      exact .refuse (addTask_of_refused hadd hres) rfl
  | take w =>
    obtain ⟨⟨task, pool⟩, htake, rfl⟩ := Option.map_eq_some_iff.mp hstep
    exact .take hheld htake rfl
  | finish w outcome =>
    simp only [TaskThreadPool.step] at hstep
    split at hstep
    · rename_i task hw
      obtain rfl := Option.some.inj hstep
      exact .finish hw rfl rfl
    · cases hstep
  | exit w =>
    obtain ⟨pool, hexit, rfl⟩ := Option.map_eq_some_iff.mp hstep
    exact .exit hheld hexit rfl
  | stop =>
    simp only [TaskThreadPool.step] at hstep
    split at hstep
    · rename_i hbegin
      obtain rfl := Option.some.inj hstep
      have hafter : stoppingAfter s .stop = s.stopping := by simp only [stoppingAfter, hbegin]
      rw [hafter]
      exact .earlyStop rfl rfl
    · rename_i pool hbegin
      obtain rfl := Option.some.inj hstep
      have hafter : stoppingAfter s .stop = s.base.stops.length :: s.stopping := by
        simp only [stoppingAfter, hbegin]
      rw [hafter]
      exact .beginStop hbegin rfl
  | finishStop k =>
    simp only [TaskThreadPool.step] at hstep
    split_ifs at hstep with hk
    obtain ⟨pool, hfinish, rfl⟩ := Option.map_eq_some_iff.mp hstep
    exact .finishStop hheld hk hfinish rfl
  | returnStop k =>
    simp only [TaskThreadPool.step] at hstep
    split_ifs at hstep with hk
    obtain rfl := Option.some.inj hstep
    exact .returnStop hk rfl rfl

theorem moves_of_step (h : step s a = some s') : Moves s a s' := by
  cases a with
  | turn t => exact moves_of_turn h
  | wait w =>
    simp only [step] at h
    split_ifs at h with hw
    obtain rfl := Option.some.inj h
    obtain ⟨htasks, hstatus⟩ := predicate_eq_false.mp hw.2.2
    exact .wait hw.1 hw.2.1 htasks hstatus
  | notifyOne w =>
    cases w with
    | none =>
      simp only [step] at h
      split_ifs at h with hnone
      obtain rfl := Option.some.inj h
      exact .notifyNone hnone.1 hnone.2
    | some w =>
      simp only [step] at h
      split_ifs at h with hw
      obtain rfl := Option.some.inj h
      exact .notifyOne hw.1 hw.2
  | notifyAll k =>
    simp only [step] at h
    split_ifs at h with hk
    obtain rfl := Option.some.inj h
    exact .notifyAll hk
  | wake w =>
    simp only [step] at h
    split_ifs at h with hw
    obtain rfl := Option.some.inj h
    exact .wake hw

/-- The condition variable only makes the threads wait. -/
theorem refines_base : Machine.Refines (machine threadCnt maxQueueTasks)
    (TaskThreadPool.machine threadCnt maxQueueTasks) State.base where
  init := rfl
  step s a s' _ hs := by
    change step s a = some s' at hs
    cases a with
    | turn t =>
      simp only [step] at hs
      split_ifs at hs
      obtain ⟨base, hstep, rfl⟩ := Option.map_eq_some_iff.mp hs
      exact .inr ⟨t, hstep⟩
    | wait | notifyOne | notifyAll | wake =>
      left
      cases moves_of_step hs <;> rfl

theorem base_of_reachable (h : (machine threadCnt maxQueueTasks).Reachable s) :
    (TaskThreadPool.machine threadCnt maxQueueTasks).Reachable s.base :=
  refines_base.reachable h

/-! ### The blocked workers -/

/-- While a worker is blocked, the queued tasks are no more than the calls of `notify_one` that are
due and the workers that are awake. -/
structure Awake (s : State) : Prop where
  waiting : ∀ w ∈ s.blocked, s.base.pool.threads_[w]? = some .waiting
  work : s.blocked.Nonempty →
    s.base.pool.tasks_.length + s.blocked.card ≤ s.adding + s.base.pool.threads_.length
  /-- A worker that is blocked after the status was set is woken by `notify_all`. -/
  told : s.blocked.Nonempty → s.base.pool.status_ ≠ .RUNNING → s.stopping ≠ []
  joining : ∀ k ∈ s.stopping, s.base.stops[k]? = some .joining

theorem awake_init : Awake (.init threadCnt maxQueueTasks) where
  waiting w hw := by cases hw
  work h := absurd rfl h.ne_empty
  told h := absurd rfl h.ne_empty
  joining k hk := by cases hk

/-- The blocked workers keep their places in `threads_`, so they are no more than these. -/
theorem Awake.card_le (h : Awake s) : s.blocked.card ≤ s.base.pool.threads_.length := by
  have hsub : s.blocked ⊆ Finset.range s.base.pool.threads_.length := fun w hw =>
    Finset.mem_range.mpr (List.getElem?_eq_some_iff.mp (h.waiting w hw)).1
  simpa using Finset.card_le_card hsub

/-- Nobody is blocked in a pool without workers. -/
theorem Awake.blocked_eq (h : Awake s) (hthreads : s.base.pool.threads_ = []) : s.blocked = ∅ := by
  have hcard := h.card_le
  rw [hthreads] at hcard
  exact Finset.card_eq_zero.mp (Nat.le_zero.mp hcard)

/-- Another worker goes on to something else. -/
theorem waiting_set {blocked : Finset ℕ} {threads : List (Worker TaskId)} {w : ℕ}
    {x : Worker TaskId} (h : ∀ v ∈ blocked, threads[v]? = some .waiting) (hw : w ∉ blocked) :
    ∀ v ∈ blocked, (threads.set w x)[v]? = some .waiting := by
  intro v hv
  have hne : w ≠ v := fun heq => hw (heq ▸ hv)
  rw [List.getElem?_set_ne hne]
  exact h v hv

/-- A worker that is not blocked goes on to something else, and the queue does not get longer. -/
theorem Awake.set (h : Awake s) {base : TaskThreadPool.State} {w : ℕ} {x : Worker TaskId}
    (hw : w ∉ s.blocked) (hthreads : base.pool.threads_ = s.base.pool.threads_.set w x)
    (htasks : base.pool.tasks_.length ≤ s.base.pool.tasks_.length)
    (hstatus : base.pool.status_ = s.base.pool.status_) (hstops : base.stops = s.base.stops) :
    Awake { s with base := base } where
  waiting v hv := hthreads ▸ waiting_set h.waiting hw v hv
  work hblocked := by
    have hold := h.work hblocked
    show base.pool.tasks_.length + s.blocked.card ≤ s.adding + base.pool.threads_.length
    rw [hthreads, List.length_set]
    omega
  told hblocked hne := h.told hblocked (hstatus ▸ hne)
  joining := hstops ▸ h.joining

/-- A blocked worker goes on, or a notification is made while nobody is blocked. -/
theorem Awake.erase (h : Awake s) {w : ℕ} (hw : w ∈ s.blocked) {adding : ℕ}
    (hadding : s.adding ≤ adding + 1) :
    Awake { s with adding := adding, blocked := s.blocked.erase w } where
  waiting v hv := h.waiting v (Finset.mem_of_mem_erase hv)
  work _ := by
    have hold := h.work ⟨w, hw⟩
    have hcard : 0 < s.blocked.card := Finset.card_pos.mpr ⟨w, hw⟩
    show s.base.pool.tasks_.length + (s.blocked.erase w).card ≤
      adding + s.base.pool.threads_.length
    rw [Finset.card_erase_of_mem hw]
    omega
  told _ := h.told ⟨w, hw⟩
  joining := h.joining

/-- The pool has its workers before a call of `stop` sets the status, and the calls of `stop` that
have to notify join the workers. -/
theorem Awake.step (h : Awake s) (hsound : s.base.pool.Sound) (hm : Moves s a s') : Awake s' := by
  cases hm with
  | @start base hpool hstops =>
    by_cases hstatus : s.base.pool.status_ = .NOT_START
    · -- there was no worker that could be blocked
      have hempty := h.blocked_eq (hsound.idle hstatus).1
      refine ⟨fun w hw => ?_, fun hne => ?_, fun hne => ?_, hstops ▸ h.joining⟩
      · rw [show s.blocked = ∅ from hempty] at hw
        cases hw
      · exact absurd hempty hne.ne_empty
      · exact absurd hempty hne.ne_empty
    · rw [start_of_ne hstatus] at hpool
      exact ⟨hpool ▸ h.waiting, hpool ▸ h.work, hpool ▸ h.told, hstops ▸ h.joining⟩
  | @accept base empty task hadd hstops =>
    obtain ⟨task, -, hstatus, -, hpool⟩ := addTask_inv hadd
    refine ⟨?_, fun hne => ?_, fun _ hne => ?_, hstops ▸ h.joining⟩
    · rw [hpool]
      exact h.waiting
    · have hold := h.work hne
      have htasks : base.pool.tasks_.length = s.base.pool.tasks_.length + 1 := by simp [hpool]
      have hthreads : base.pool.threads_ = s.base.pool.threads_ := by rw [hpool]
      show base.pool.tasks_.length + s.blocked.card ≤ s.adding + 1 + base.pool.threads_.length
      rw [htasks, hthreads]
      omega
    · rw [hpool] at hne
      exact absurd hstatus hne
  | @refuse base empty hpool hstops =>
    exact ⟨hpool ▸ h.waiting, hpool ▸ h.work, hpool ▸ h.told, hstops ▸ h.joining⟩
  | @take base w task hw htake hstops =>
    obtain ⟨tasks, -, htasks, hpool⟩ := take_inv htake
    refine h.set hw (by rw [hpool]) ?_ (by rw [hpool]) hstops
    rw [hpool, htasks]
    exact Nat.le_succ _
  | @finish base w task outcome hw hpool hstops =>
    have hnot : w ∉ s.blocked := fun hmem => by cases hw.symm.trans (h.waiting w hmem)
    exact h.set hnot (by rw [hpool]; rfl) (by rw [hpool]; rfl) (by rw [hpool]; rfl) hstops
  | @exit base w hw hexit hstops =>
    obtain ⟨-, -, -, hpool⟩ := exit_inv hexit
    exact h.set hw (by rw [hpool]) (by rw [hpool]) (by rw [hpool]) hstops
  | @beginStop base hbegin hstops =>
    obtain ⟨-, hpool⟩ := beginStop_inv hbegin
    refine ⟨hpool ▸ h.waiting, hpool ▸ h.work, fun _ _ heq => (by cases heq), fun k hk => ?_⟩
    show base.stops[k]? = _
    rw [hstops]
    rcases List.mem_cons.mp hk with rfl | hk
    · simp
    · have hold := h.joining k hk
      rw [List.getElem?_append_left (List.getElem?_eq_some_iff.mp hold).1]
      exact hold
  | @earlyStop base hpool hstops =>
    refine ⟨hpool ▸ h.waiting, hpool ▸ h.work, hpool ▸ h.told, fun k hk => ?_⟩
    have hold := h.joining k hk
    show base.stops[k]? = _
    rw [hstops, List.getElem?_append_left (List.getElem?_eq_some_iff.mp hold).1]
    exact hold
  | @finishStop base k hheld hk hfinish hstops =>
    obtain ⟨hexited, hpool⟩ := finishStop_inv hfinish
    -- all workers have left, so none of them is blocked
    have hempty : s.blocked = ∅ := by
      refine Finset.eq_empty_of_forall_notMem fun w hw => ?_
      have hwaiting := h.waiting w hw
      cases hexited _ (List.mem_of_getElem? hwaiting)
    refine ⟨fun w hw => ?_, fun hne => ?_, fun hne => ?_, fun j hj => ?_⟩
    · rw [show s.blocked = ∅ from hempty] at hw
      cases hw
    · exact absurd hempty hne.ne_empty
    · exact absurd hempty hne.ne_empty
    · have hne : k ≠ j := fun heq => hheld (heq ▸ hj)
      show base.stops[j]? = _
      rw [hstops, List.getElem?_set_ne hne]
      exact h.joining j hj
  | @returnStop base k hk hpool hstops =>
    refine ⟨hpool ▸ h.waiting, hpool ▸ h.work, hpool ▸ h.told, fun j hj => ?_⟩
    have hold := h.joining j hj
    have hne : k ≠ j := fun heq => by
      rw [heq] at hk
      cases hk.symm.trans hold
    show base.stops[j]? = _
    rw [hstops, List.getElem?_set_ne hne]
    exact hold
  | @wait w hw hblocked htasks hstatus =>
    refine ⟨fun v hv => ?_, fun _ => ?_, fun _ hne => absurd hstatus hne, h.joining⟩
    · rcases Finset.mem_insert.mp hv with rfl | hv
      · exact hw
      · exact h.waiting v hv
    · -- nothing is queued, and a worker that blocks was one of the workers
      have hlt : w < s.base.pool.threads_.length := (List.getElem?_eq_some_iff.mp hw).1
      have hsub : insert w s.blocked ⊆ Finset.range s.base.pool.threads_.length := by
        intro v hv
        rcases Finset.mem_insert.mp hv with rfl | hv
        · exact Finset.mem_range.mpr hlt
        · exact Finset.mem_range.mpr (List.getElem?_eq_some_iff.mp (h.waiting v hv)).1
      have hcard := Finset.card_le_card hsub
      rw [Finset.card_range] at hcard
      show s.base.pool.tasks_.length + (insert w s.blocked).card ≤
        s.adding + s.base.pool.threads_.length
      rw [htasks, List.length_nil]
      omega
  | @notifyNone hadding hblocked =>
    refine ⟨h.waiting, fun hne => ?_, h.told, h.joining⟩
    exact absurd hblocked hne.ne_empty
  | @notifyOne w hadding hw => exact h.erase hw (by omega)
  | @notifyAll k hk =>
    refine ⟨fun w hw => (by cases hw), fun hne => ?_, fun hne => ?_, fun j hj => ?_⟩
    · exact absurd rfl hne.ne_empty
    · exact absurd rfl hne.ne_empty
    · exact h.joining j (List.mem_of_mem_erase hj)
  | @wake w hw => exact h.erase hw (Nat.le_succ _)

theorem awake_of_reachable (hcnt : 0 < threadCnt)
    (h : (machine threadCnt maxQueueTasks).Reachable s) : Awake s := by
  refine h.invariant awake_init fun s a s' hr hold hs => ?_
  have hbooks := books_of_reachable hcnt (base_of_reachable hr)
  exact hold.step hbooks.manned.sound (moves_of_step hs)

/-! ### At rest -/

/-- What has been done when no thread of the pool can go on. -/
structure Settled (threadCnt : UInt8) (s : State) : Prop where
  /-- Every accepted task has finished. -/
  served : s.base.accepted.Perm (s.base.finished.map Prod.fst)
  /-- While the pool runs, its workers wait for tasks. -/
  idle : s.base.pool.status_ = .RUNNING → ∀ w < threadCnt.toNat, w ∈ s.blocked
  /-- A pool that was told to stop has stopped, and every worker has left. -/
  stopped : Closed s.base.pool →
    s.base.pool.status_ = .STOPPED ∧ ∀ w < threadCnt.toNat, w ∈ s.base.exits
  /-- Every call of `stop` has returned. -/
  returned : ∀ x ∈ s.base.stops, x = .returned

section Rest

variable (hrest : (machine threadCnt maxQueueTasks).Rest internal s)

include hrest

theorem Rest.adding_eq : s.adding = 0 := by
  by_contra hne
  have hpos : 0 < s.adding := Nat.pos_of_ne_zero hne
  rcases s.blocked.eq_empty_or_nonempty with hempty | ⟨w, hw⟩
  · have hnone : step s (.notifyOne none) = none := hrest (.notifyOne none) rfl
    simp [step, hpos, hempty] at hnone
  · have hnone : step s (.notifyOne (some w)) = none := hrest (.notifyOne (some w)) rfl
    simp [step, hpos, hw] at hnone

theorem Rest.stopping_eq : s.stopping = [] := by
  refine List.eq_nil_iff_forall_not_mem.mpr fun k hk => ?_
  have hnone : step s (.notifyAll k) = none := hrest (.notifyAll k) rfl
  simp [step, hk] at hnone

/-- Nobody runs a task, and who is not blocked has left. -/
theorem Rest.blocked_or_exited {w : ℕ} {x : Worker TaskId}
    (hw : s.base.pool.threads_[w]? = some x) : w ∈ s.blocked ∨ x = .exited := by
  cases x with
  | exited => exact .inr rfl
  | running task =>
    have hnone : step s (.turn (.finish w .returned)) = none :=
      hrest (.turn (.finish w .returned)) rfl
    simp [step, TaskThreadPool.step, Held, hw] at hnone
  | waiting =>
    left
    by_contra hblocked
    -- the worker evaluates the predicate of `wait`
    cases htasks : s.base.pool.tasks_ with
    | cons task tasks =>
      have hnone : step s (.turn (.take w)) = none := hrest (.turn (.take w)) rfl
      simp [step, TaskThreadPool.step, Held, hblocked, take, hw, htasks] at hnone
    | nil =>
      by_cases hstatus : s.base.pool.status_ = .RUNNING
      · have hnone : step s (.wait w) = none := hrest (.wait w) rfl
        simp [step, hw, hblocked, predicate, htasks, hstatus] at hnone
      · have hnone : step s (.turn (.exit w)) = none := hrest (.turn (.exit w)) rfl
        simp [step, TaskThreadPool.step, Held, hblocked, exit, hw, htasks, hstatus] at hnone

/-- No call of `stop` is on its way, unless it waits for a worker. -/
theorem Rest.stops {k : ℕ} {x : StopCall} (hk : s.base.stops[k]? = some x) :
    x = .returned ∨ x = .joining ∧ s.base.pool.finishStop = none := by
  cases x with
  | returned => exact .inl rfl
  | leaving =>
    have hnone : step s (.turn (.returnStop k)) = none := hrest (.turn (.returnStop k)) rfl
    simp [step, TaskThreadPool.step, Held, hk] at hnone
  | joining =>
    right
    have hnone : step s (.turn (.finishStop k)) = none := hrest (.turn (.finishStop k)) rfl
    have hstopping := Rest.stopping_eq hrest
    simp only [step, TaskThreadPool.step, Held, hstopping, hk] at hnone
    simpa using hnone

/-- Nobody runs a task. -/
theorem Rest.running_eq (h : Awake s) : s.base.pool.running = [] := by
  refine List.filterMap_eq_nil_iff.mpr fun x hx => ?_
  obtain ⟨w, hw⟩ := List.getElem?_of_mem hx
  rcases Rest.blocked_or_exited hrest hw with hblocked | rfl
  · obtain rfl := Option.some.inj (hw.symm.trans (h.waiting w hblocked))
    rfl
  · rfl

/-- If all workers are blocked, then nothing is queued. -/
theorem Rest.tasks_eq (h : Awake s) (hbooks : Books threadCnt maxQueueTasks s.base) :
    s.base.pool.tasks_ = [] := by
  have hsound := hbooks.manned.sound
  by_contra hne
  have hactive : s.base.pool.status_ = .RUNNING ∨ s.base.pool.status_ = .STOPPING := by
    cases hstatus : s.base.pool.status_ with
    | NOT_START => exact absurd (hsound.idle hstatus).2 hne
    | RUNNING => exact .inl rfl
    | STOPPING => exact .inr rfl
    | STOPPED => exact absurd (hsound.stopped hstatus).2 hne
  have hlen := hsound.workers hactive
  have hpos : 0 < s.base.pool.threads_.length := hlen ▸ UInt8.lt_iff_toNat_lt.mp hbooks.manned.pos
  -- a worker leaves only when nothing is queued, so all of them are blocked
  have hsub : Finset.range s.base.pool.threads_.length ⊆ s.blocked := fun w hw => by
    have hget := List.getElem?_eq_getElem (Finset.mem_range.mp hw)
    rcases Rest.blocked_or_exited hrest hget with hblocked | hexited
    · exact hblocked
    · exact absurd (hsound.exited (hexited ▸ List.getElem_mem (Finset.mem_range.mp hw))).2 hne
  have hcard := Finset.card_le_card hsub
  rw [Finset.card_range] at hcard
  have hwork := h.work ⟨0, hsub (Finset.mem_range.mpr hpos)⟩
  rw [Rest.adding_eq hrest] at hwork
  have hzero : s.base.pool.tasks_.length = 0 := by omega
  exact hne (List.eq_nil_of_length_eq_zero hzero)

/-- Once the status is set, nobody stays blocked, and the workers leave. -/
theorem Rest.not_stopping (h : Awake s) (hbooks : Books threadCnt maxQueueTasks s.base) :
    s.base.pool.status_ ≠ .STOPPING := by
  intro hstatus
  have hne : s.base.pool.status_ ≠ .RUNNING := fun heq => by cases hstatus.symm.trans heq
  have hempty : ∀ w, w ∉ s.blocked := fun w hw => h.told ⟨w, hw⟩ hne (Rest.stopping_eq hrest)
  have hexited : ∀ x ∈ s.base.pool.threads_, x = .exited := fun x hx => by
    obtain ⟨w, hw⟩ := List.getElem?_of_mem hx
    exact (Rest.blocked_or_exited hrest hw).resolve_left (hempty w)
  -- the call that set the status can pass its last section
  have hcount := hbooks.staff.joining
  rw [if_pos hstatus] at hcount
  have hmem : StopCall.joining ∈ s.base.stops := List.count_pos_iff.mp (by omega)
  obtain ⟨k, hk⟩ := List.getElem?_of_mem hmem
  rcases Rest.stops hrest hk with heq | ⟨-, hnone⟩
  · cases heq
  · unfold finishStop at hnone
    rw [if_pos (List.all_eq_true.mpr fun x hx => by rw [hexited x hx])] at hnone
    cases hnone

theorem Rest.settled (h : Awake s) (hbooks : Books threadCnt maxQueueTasks s.base) :
    Settled threadCnt s := by
  have htasks := Rest.tasks_eq hrest h hbooks
  have hstopping := Rest.not_stopping hrest h hbooks
  have hsound := hbooks.manned.sound
  refine ⟨?_, fun hstatus w hw => ?_, fun hclosed => ?_, fun x hx => ?_⟩
  · have hperm := hbooks.history.partition
    rwa [htasks, Rest.running_eq hrest h, List.append_nil, List.append_nil] at hperm
  · have hlt : w < s.base.pool.threads_.length := by
      rw [hbooks.workers (.inl hstatus)]
      exact hw
    rcases Rest.blocked_or_exited hrest (List.getElem?_eq_getElem hlt) with hblocked | hexited
    · exact hblocked
    · cases hstatus.symm.trans (hsound.exited (hexited ▸ List.getElem_mem hlt)).1
  · have hstatus := hclosed.resolve_left hstopping
    refine ⟨hstatus, fun w hw => (hbooks.staff.exits w).mpr (.inr ⟨hstatus, ?_⟩)⟩
    rwa [hbooks.threadCnt]
  · obtain ⟨k, hk⟩ := List.getElem?_of_mem hx
    rcases Rest.stops hrest hk with heq | ⟨rfl, -⟩
    · exact heq
    · exact absurd (hbooks.staff.stopping hx) hstopping

end Rest

/-! ### The law -/

/-- No wake-up is lost. -/
structure NoLostWakeup (threadCnt : UInt8) (maxQueueTasks : Option ℕ) (s : State) : Prop where
  /-- A worker is only blocked while it has nothing to do that a notification or another worker
  does not take care of. -/
  work : s.blocked.Nonempty → s.base.pool.tasks_.length + s.blocked.card ≤
    s.adding + threadCnt.toNat
  /-- A worker that is blocked once the pool has been told to stop is still to be notified. -/
  told : s.blocked.Nonempty → Closed s.base.pool → s.stopping ≠ []
  /-- When no thread of the pool can go on, nothing is left to do. -/
  settled : (machine threadCnt maxQueueTasks).Rest internal s → Settled threadCnt s

/-- **No wake-up is lost.** -/
theorem noLostWakeup_of_reachable (hcnt : 0 < threadCnt)
    (h : (machine threadCnt maxQueueTasks).Reachable s) :
    NoLostWakeup threadCnt maxQueueTasks s := by
  have hawake := awake_of_reachable hcnt h
  have hbooks := books_of_reachable hcnt (base_of_reachable h)
  refine ⟨fun hne => ?_, fun hne hclosed => hawake.told hne fun heq => ?_, fun hrest => ?_⟩
  · have hwork := hawake.work hne
    have hlen := hbooks.manned.sound.length_le
    rw [hbooks.threadCnt] at hlen
    omega
  · rcases hclosed with hstatus | hstatus <;> cases hstatus.symm.trans heq
  · exact Rest.settled hrest hawake hbooks

/-- Two workers block, two tasks are queued, and the first worker to be woken takes both. -/
def waking : List Action :=
  [.turn .start, .wait 0, .wait 1, .turn (.addTask false), .turn (.addTask false),
    .notifyOne (some 1), .turn (.take 1), .turn (.finish 1 .returned), .turn (.take 1),
    .turn .stop]

theorem noLostWakeup_waking :
    NoLostWakeup 2 none ((machine 2 none).after waking) ∧
      ((machine 2 none).after waking).blocked = {0} ∧
      ((machine 2 none).after waking).stopping = [0] :=
  ⟨noLostWakeup_of_reachable (by decide) (Machine.reachable_after waking), by decide, by decide⟩

end MiniRpc.TaskThreadPool.Condition
