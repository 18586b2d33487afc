import MiniRpc.TaskThreadPool.Equiv.Sound
import MiniRpc.TaskThreadPool.Step

/-!
# The thread pool neither loses nor repeats tasks

`LosesNothing`: in every reachable state the accepted tasks are those that have ended, those that
run and those that are queued, each once, and they are taken in the order in which they were
accepted.  When the pool has stopped, all of them have ended.

* `History`: what was accepted has been taken or is queued, and what was taken runs or has ended.
* `Numbers`: no number is used twice.
* `Staff`: the workers that have left, and the calls of `stop`.
-/

namespace MiniRpc.TaskThreadPool

variable {threadCnt : UInt8} {maxQueueTasks : Option ℕ} {s s' : State} {a : Action}

/-! ### Turns -/

/-- What a turn does. -/
inductive Transition : State → Action → State → Prop
  | start {s : State} : Transition s .start { s with pool := s.pool.start }
  | accept {s : State} {pool : TaskThreadPool TaskId}
      (h : s.pool.addTask (some s.nextTask) = (.kAccepted, pool)) :
      Transition s (.addTask false) { s with
        pool := pool
        nextTask := s.nextTask + 1
        accepted := s.accepted ++ [s.nextTask] }
  | refuse {s : State} {empty : Bool} : Transition s (.addTask empty) { s with
        nextTask := s.nextTask + 1
        refused := s.refused ++ [s.nextTask] }
  | take {s : State} {pool : TaskThreadPool TaskId} {w : ℕ} {task : TaskId}
      (h : s.pool.take w = some (task, pool)) :
      Transition s (.take w) { s with pool := pool, taken := s.taken ++ [task] }
  | finish {s : State} {w : ℕ} {task : TaskId} (outcome : Outcome)
      (h : s.pool.threads_[w]? = some (.running task)) :
      Transition s (.finish w outcome) { s with
        pool := s.pool.finish w
        finished := s.finished ++ [(task, outcome)] }
  | exit {s : State} {pool : TaskThreadPool TaskId} {w : ℕ} (h : s.pool.exit w = some pool) :
      Transition s (.exit w) { s with pool := pool, exits := w :: s.exits }
  | beginStop {s : State} {pool : TaskThreadPool TaskId} (h : s.pool.beginStop = some pool) :
      Transition s .stop { s with pool := pool, stops := s.stops ++ [.joining] }
  | earlyStop {s : State} (h : s.pool.status_ ≠ .RUNNING) :
      Transition s .stop { s with stops := s.stops ++ [.leaving] }
  | finishStop {s : State} {pool : TaskThreadPool TaskId} {k : ℕ}
      (hk : s.stops[k]? = some .joining) (h : s.pool.finishStop = some pool) :
      Transition s (.finishStop k) { s with pool := pool, stops := s.stops.set k .leaving }
  | returnStop {s : State} {k : ℕ} (hk : s.stops[k]? = some .leaving) :
      Transition s (.returnStop k) { s with stops := s.stops.set k .returned }

theorem transition_of_step (h : step s a = some s') : Transition s a s' := by
  cases a with
  | start =>
    obtain rfl := Option.some.inj h
    exact .start
  | addTask empty =>
    simp only [step] at h
    split at h
    · rename_i pool hadd
      obtain rfl := Option.some.inj h
      obtain ⟨task, htask, -⟩ := addTask_inv hadd
      cases empty with
      | true => cases htask -- an empty function is never accepted
      | false => exact .accept hadd
    · rename_i res pool hres hadd
      obtain rfl := Option.some.inj h
      obtain rfl := addTask_of_refused hadd hres
      exact .refuse
  | take w =>
    obtain ⟨⟨task, pool⟩, htake, rfl⟩ := Option.map_eq_some_iff.mp h
    exact .take htake
  | finish w outcome =>
    simp only [step] at h
    split at h
    · rename_i task hw
      obtain rfl := Option.some.inj h
      exact .finish outcome hw
    · cases h
  | exit w =>
    obtain ⟨pool, hexit, rfl⟩ := Option.map_eq_some_iff.mp h
    exact .exit hexit
  | stop =>
    simp only [step] at h
    split at h
    · -- the `return` of the first section
      rename_i hbegin
      obtain rfl := Option.some.inj h
      exact .earlyStop (beginStop_none hbegin)
    · rename_i pool hbegin
      obtain rfl := Option.some.inj h
      exact .beginStop hbegin
  | finishStop k =>
    simp only [step] at h
    split_ifs at h with hk
    obtain ⟨pool, hfinish, rfl⟩ := Option.map_eq_some_iff.mp h
    exact .finishStop hk hfinish
  | returnStop k =>
    simp only [step] at h
    split_ifs at h with hk
    obtain rfl := Option.some.inj h
    exact .returnStop hk

/-! ### The pool and its callers -/

theorem threadCnt_start (pool : TaskThreadPool TaskId) :
    pool.start.threadCnt_ = pool.threadCnt_ ∧ pool.start.maxQueueTasks_ = pool.maxQueueTasks_ := by
  unfold start
  split_ifs <;> exact ⟨rfl, rfl⟩

/-- The configuration never changes. -/
theorem Transition.config (ht : Transition s a s') :
    s'.pool.threadCnt_ = s.pool.threadCnt_ ∧
      s'.pool.maxQueueTasks_ = s.pool.maxQueueTasks_ := by
  cases ht with
  | start => exact threadCnt_start s.pool
  | accept h =>
    obtain ⟨task, -, -, -, rfl⟩ := addTask_inv h
    exact ⟨rfl, rfl⟩
  | take h =>
    obtain ⟨tasks, -, -, rfl⟩ := take_inv h
    exact ⟨rfl, rfl⟩
  | exit h =>
    obtain ⟨-, -, -, rfl⟩ := exit_inv h
    exact ⟨rfl, rfl⟩
  | beginStop h =>
    obtain ⟨-, rfl⟩ := beginStop_inv h
    exact ⟨rfl, rfl⟩
  | finishStop _ h =>
    obtain ⟨-, rfl⟩ := finishStop_inv h
    exact ⟨rfl, rfl⟩
  | refuse | finish | earlyStop | returnStop => exact ⟨rfl, rfl⟩

/-- The pool is sound and has workers to start. -/
structure Manned (pool : TaskThreadPool TaskId) : Prop where
  sound : pool.Sound
  pos : 0 < pool.threadCnt_

/-- A call of `stop` joins the workers exactly while the pool is stopping, and `exits` are the
workers that have left. -/
structure Staff (pool : TaskThreadPool TaskId) (stops : List StopCall) (exits : List ℕ) : Prop where
  joining : stops.count .joining = if pool.status_ = .STOPPING then 1 else 0
  exits : ∀ w, w ∈ exits ↔ pool.threads_[w]? = some .exited ∨
    (pool.status_ = .STOPPED ∧ w < pool.threadCnt_.toNat)

theorem Staff.stopping {pool : TaskThreadPool TaskId} {stops : List StopCall} {exits : List ℕ}
    (h : Staff pool stops exits) (hmem : .joining ∈ stops) : pool.status_ = .STOPPING := by
  have hpos : 0 < stops.count .joining := List.count_pos_iff.mpr hmem
  by_contra hne
  rw [h.joining, if_neg hne] at hpos
  exact Nat.lt_irrefl 0 hpos

theorem Manned.step (h : Manned s.pool) (hstaff : Staff s.pool s.stops s.exits)
    (ht : Transition s a s') : Manned s'.pool := by
  refine ⟨?_, ht.config.1 ▸ h.pos⟩
  have hsound := h.sound
  cases ht with
  | start => exact hsound.start
  | accept hadd =>
    have hpool := hsound.addTask (t := some s.nextTask)
    rwa [hadd] at hpool
  | take htake => exact hsound.take htake
  | finish _ hw => exact hsound.finish hw
  | exit hexit => exact hsound.exit hexit
  | beginStop hbegin => exact hsound.beginStop hbegin
  | finishStop hk hfinish =>
    exact hsound.finishStop h.pos (hstaff.stopping (List.mem_of_getElem? hk)) hfinish
  | refuse | earlyStop | returnStop => exact hsound

/-- A worker goes on to something else than leaving. -/
theorem getElem?_set_exited {threads : List (Worker TaskId)} {w : ℕ} {x y : Worker TaskId}
    (h : threads[w]? = some x) (hx : x ≠ .exited) (hy : y ≠ .exited) (v : ℕ) :
    (threads.set w y)[v]? = some .exited ↔ threads[v]? = some .exited := by
  by_cases hv : w = v
  · subst hv
    have hlt : w < threads.length := (List.getElem?_eq_some_iff.mp h).1
    rw [List.getElem?_set_self hlt, h]
    exact ⟨fun heq => absurd (Option.some.inj heq) hy, fun heq => absurd (Option.some.inj heq) hx⟩
  · rw [List.getElem?_set_ne hv]

/-- The set of calls of `stop` changes, but not those that join. -/
theorem count_joining_set {stops : List StopCall} {k : ℕ} {x y : StopCall}
    (hk : stops[k]? = some x) :
    (stops.set k y).count .joining + (if x = .joining then 1 else 0) =
      stops.count .joining + if y = .joining then 1 else 0 := by
  obtain ⟨hlt, hget⟩ := List.getElem?_eq_some_iff.mp hk
  have hold := (List.getElem_cons_eraseIdx_perm hlt).count_eq .joining
  have hnew := (List.set_perm_cons_eraseIdx hlt y).count_eq .joining
  rw [hget, List.count_cons] at hold
  rw [List.count_cons] at hnew
  simp only [beq_iff_eq] at hold hnew
  omega

section

variable {pool pool' : TaskThreadPool TaskId} {stops : List StopCall} {exits : List ℕ} {w k : ℕ}

/-- The new workers wait, and before `start` none had left. -/
theorem Staff.start (h : Staff pool stops exits) (hsound : pool.Sound) :
    Staff pool.start stops exits := by
  by_cases hstatus : pool.status_ = .NOT_START
  · have hcount := h.joining
    rw [hstatus] at hcount
    rw [start_of_eq hstatus]
    refine ⟨hcount, fun w => ?_⟩
    show w ∈ exits ↔ (List.replicate _ Worker.waiting)[w]? = some Worker.exited ∨ _
    have hold := h.exits w
    rw [(hsound.idle hstatus).1, hstatus, List.getElem?_nil] at hold
    have hnone : (List.replicate pool.threadCnt_.toNat Worker.waiting)[w]? ≠
        some (Worker.exited : Worker TaskId) := fun heq => by
      cases List.eq_of_mem_replicate (List.mem_of_getElem? heq)
    rw [hold]
    simp [hnone]
  · rwa [start_of_ne hstatus]

theorem Staff.take {task : TaskId} (h : Staff pool stops exits)
    (htake : pool.take w = some (task, pool')) : Staff pool' stops exits := by
  obtain ⟨tasks, hw, -, rfl⟩ := take_inv htake
  refine ⟨h.joining, fun v => (h.exits v).trans (or_congr ?_ Iff.rfl)⟩
  exact (getElem?_set_exited hw (fun heq => by cases heq) (fun heq => by cases heq) v).symm

theorem Staff.finish {task : TaskId} (h : Staff pool stops exits)
    (hw : pool.threads_[w]? = some (.running task)) : Staff (pool.finish w) stops exits := by
  refine ⟨h.joining, fun v => (h.exits v).trans (or_congr ?_ Iff.rfl)⟩
  exact (getElem?_set_exited hw (fun heq => by cases heq) (fun heq => by cases heq) v).symm

theorem Staff.exit (h : Staff pool stops exits) (hexit : pool.exit w = some pool') :
    Staff pool' stops (w :: exits) := by
  obtain ⟨hw, -, -, rfl⟩ := exit_inv hexit
  refine ⟨h.joining, fun v => ?_⟩
  have hlt : w < pool.threads_.length := (List.getElem?_eq_some_iff.mp hw).1
  show v ∈ w :: exits ↔ (pool.threads_.set w .exited)[v]? = some Worker.exited ∨ _
  by_cases hv : w = v
  · subst hv
    simp [List.getElem?_set_self hlt]
  · rw [List.getElem?_set_ne hv, List.mem_cons, h.exits v]
    simp [Ne.symm hv]

/-- The pool was running, so no other call joins the workers. -/
theorem Staff.beginStop (h : Staff pool stops exits) (hbegin : pool.beginStop = some pool') :
    Staff pool' (stops ++ [.joining]) exits := by
  obtain ⟨hstatus, rfl⟩ := beginStop_inv hbegin
  refine ⟨?_, fun v => (h.exits v).trans ?_⟩
  · have hcount := h.joining
    rw [hstatus] at hcount
    show (stops ++ [StopCall.joining]).count StopCall.joining = 1
    rw [List.count_append, hcount]
    rfl
  · rw [hstatus]
    simp

theorem Staff.earlyStop (h : Staff pool stops exits) : Staff pool (stops ++ [.leaving]) exits := by
  refine ⟨?_, h.exits⟩
  rw [List.count_append, h.joining]
  rfl

/-- The vector of the threads is cleared: from now on `exits` are all numbers below
`threadCnt_`. -/
theorem Staff.finishStop (h : Staff pool stops exits) (hsound : pool.Sound)
    (hk : stops[k]? = some .joining) (hfinish : pool.finishStop = some pool') :
    Staff pool' (stops.set k .leaving) exits := by
  have hstatus := h.stopping (List.mem_of_getElem? hk)
  obtain ⟨hexited, rfl⟩ := finishStop_inv hfinish
  refine ⟨?_, fun v => (h.exits v).trans ?_⟩
  · have hcount := count_joining_set (y := .leaving) hk
    rw [h.joining, hstatus] at hcount
    simpa using hcount
  · have hlen := hsound.workers (.inr hstatus)
    show _ ↔ ([] : List (Worker TaskId))[v]? = some .exited ∨ _
    rw [hstatus, List.getElem?_nil, ← hlen]
    constructor
    · rintro (hv | ⟨heq, -⟩)
      · exact .inr ⟨rfl, (List.getElem?_eq_some_iff.mp hv).1⟩
      · cases heq
    · rintro (heq | ⟨-, hv⟩)
      · cases heq
      · left
        rw [List.getElem?_eq_getElem hv, hexited _ (List.getElem_mem hv)]

theorem Staff.returnStop (h : Staff pool stops exits) (hk : stops[k]? = some .leaving) :
    Staff pool (stops.set k .returned) exits := by
  refine ⟨?_, h.exits⟩
  have hcount := count_joining_set (y := .returned) hk
  rw [h.joining] at hcount
  simpa using hcount

end

theorem Staff.step (h : Staff s.pool s.stops s.exits) (hmanned : Manned s.pool)
    (ht : Transition s a s') : Staff s'.pool s'.stops s'.exits := by
  cases ht with
  | start => exact h.start hmanned.sound
  | accept hadd =>
    obtain ⟨task, -, -, -, rfl⟩ := addTask_inv hadd
    exact ⟨h.joining, h.exits⟩
  | take htake => exact h.take htake
  | finish _ hw => exact h.finish hw
  | exit hexit => exact h.exit hexit
  | beginStop hbegin => exact h.beginStop hbegin
  | earlyStop => exact h.earlyStop
  | finishStop hk hfinish => exact h.finishStop hmanned.sound hk hfinish
  | returnStop hk => exact h.returnStop hk
  | refuse => exact h

/-! ### The tasks -/

/-- What was accepted was taken, in that order, or is queued; what was taken runs or has ended. -/
structure History (pool : TaskThreadPool TaskId) (accepted taken : List TaskId)
    (finished : List (TaskId × Outcome)) : Prop where
  order : accepted = taken ++ pool.tasks_
  ran : taken.Perm (finished.map Prod.fst ++ pool.running)

theorem History.step (h : History s.pool s.accepted s.taken s.finished)
    (hmanned : Manned s.pool) (ht : Transition s a s') :
    History s'.pool s'.accepted s'.taken s'.finished := by
  cases ht with
  | start =>
    refine ⟨by rw [tasks_start]; exact h.order, ?_⟩
    rw [running_start]
    split_ifs with hstatus
    · have hran := h.ran
      rw [running, (hmanned.sound.idle hstatus).1] at hran
      exact hran
    · exact h.ran
  | accept hadd =>
    obtain ⟨task, htask, -, -, rfl⟩ := addTask_inv hadd
    obtain rfl := Option.some.inj htask
    refine ⟨?_, h.ran⟩
    rw [h.order, List.append_assoc]
  | take htake =>
    obtain ⟨tasks, -, htasks, rfl⟩ := take_inv htake
    refine ⟨by rw [h.order, htasks, List.append_assoc]; rfl, ?_⟩
    refine (List.perm_append_singleton _ _).trans ((h.ran.cons _).trans ?_)
    exact List.perm_middle.symm.trans ((running_take htake).symm.append_left _)
  | finish outcome hw =>
    refine ⟨h.order, h.ran.trans ?_⟩
    rw [List.map_append, List.append_assoc]
    exact (running_finish hw).append_left _
  | exit hexit =>
    have hrunning := running_exit hexit
    obtain ⟨-, -, -, rfl⟩ := exit_inv hexit
    exact ⟨h.order, h.ran.trans (hrunning.symm.append_left _)⟩
  | beginStop hbegin =>
    obtain ⟨-, rfl⟩ := beginStop_inv hbegin
    exact ⟨h.order, h.ran⟩
  | finishStop _ hfinish =>
    obtain ⟨hexited, rfl⟩ := finishStop_inv hfinish
    refine ⟨h.order, ?_⟩
    have hran := h.ran
    rwa [running_of_exited hexited] at hran
  | refuse | earlyStop | returnStop => exact h

/-- Every call of `addTask` has its own number, and was accepted or refused. -/
structure Numbers (nextTask : TaskId) (accepted refused : List TaskId) : Prop where
  perm : (accepted ++ refused).Perm (List.range nextTask)

theorem Numbers.step (h : Numbers s.nextTask s.accepted s.refused)
    (ht : Transition s a s') : Numbers s'.nextTask s'.accepted s'.refused := by
  cases ht with
  | accept =>
    refine ⟨?_⟩
    -- the new number goes between the accepted and the refused ones
    rw [List.range_succ, List.append_assoc]
    exact (List.perm_append_comm.append_left _).trans
      (by rw [← List.append_assoc]; exact h.perm.append_right _)
  | refuse =>
    refine ⟨?_⟩
    rw [List.range_succ, ← List.append_assoc]
    exact h.perm.append_right _
  | _ => exact h

theorem Numbers.nodup {nextTask : TaskId} {accepted refused : List TaskId}
    (h : Numbers nextTask accepted refused) : (accepted ++ refused).Nodup :=
  h.perm.nodup_iff.mpr List.nodup_range

/-! ### The law -/

structure Books (threadCnt : UInt8) (maxQueueTasks : Option ℕ) (s : State) : Prop where
  threadCnt : s.pool.threadCnt_ = threadCnt
  maxQueueTasks : s.pool.maxQueueTasks_ = maxQueueTasks
  manned : Manned s.pool
  staff : Staff s.pool s.stops s.exits
  history : History s.pool s.accepted s.taken s.finished
  numbers : Numbers s.nextTask s.accepted s.refused

theorem books_init (hcnt : 0 < threadCnt) :
    Books threadCnt maxQueueTasks (.init threadCnt maxQueueTasks) where
  threadCnt := rfl
  maxQueueTasks := rfl
  manned := ⟨sound_init _ _, hcnt⟩
  staff := ⟨rfl, fun w => by simp [State.init, TaskThreadPool.init]⟩
  history := ⟨rfl, .refl _⟩
  numbers := ⟨.refl _⟩

theorem Books.step (h : Books threadCnt maxQueueTasks s) (ht : Transition s a s') :
    Books threadCnt maxQueueTasks s' where
  threadCnt := ht.config.1.trans h.threadCnt
  maxQueueTasks := ht.config.2.trans h.maxQueueTasks
  manned := h.manned.step h.staff ht
  staff := h.staff.step h.manned ht
  history := h.history.step h.manned ht
  numbers := h.numbers.step ht

theorem books_of_reachable (hcnt : 0 < threadCnt)
    (h : (machine threadCnt maxQueueTasks).Reachable s) : Books threadCnt maxQueueTasks s := by
  refine Machine.Reachable.invariant (P := Books threadCnt maxQueueTasks) (books_init hcnt) ?_ h
  intro s a s' _ hold hs
  have ht := transition_of_step hs
  exact hold.step ht

/-- While the pool runs or stops it has the workers it was made for. -/
theorem Books.workers (h : Books threadCnt maxQueueTasks s)
    (hstatus : s.pool.status_ = .RUNNING ∨ s.pool.status_ = .STOPPING) :
    s.pool.threads_.length = threadCnt.toNat :=
  h.threadCnt ▸ h.manned.sound.workers hstatus

/-! ### Nothing is lost -/

/-- `stop` has left `RUNNING`. -/
def Closed (pool : TaskThreadPool TaskId) : Prop :=
  pool.status_ = .STOPPING ∨ pool.status_ = .STOPPED

/-- The pool neither loses nor repeats a task. -/
structure LosesNothing (threadCnt : UInt8) (maxQueueTasks : Option ℕ) (s : State) : Prop where
  /-- The tasks are dequeued in the order in which they were accepted. -/
  order : s.accepted = s.taken ++ s.pool.tasks_
  /-- The accepted tasks are the finished, the running and the queued ones. -/
  partition : s.accepted.Perm (s.finished.map Prod.fst ++ s.pool.running ++ s.pool.tasks_)
  /-- Each of them is only one of these, once. -/
  nodup : s.accepted.Nodup
  bounded : ∀ n ∈ maxQueueTasks, s.pool.tasks_.length ≤ n
  /-- A task that was not accepted is never executed. -/
  refused : ∀ task ∈ s.refused, task ∉ s.taken
  /-- No worker is lost while the pool runs. -/
  alive : s.pool.status_ = .RUNNING →
    s.pool.threads_.length = threadCnt.toNat ∧ .exited ∉ s.pool.threads_
  /-- A task that throws ends like one that returns: its worker waits for the next task, and
  nothing else changes. -/
  survives : ∀ w task outcome, s.pool.threads_[w]? = some (.running task) →
    step s (.finish w outcome) = some { s with
      pool := { s.pool with threads_ := s.pool.threads_.set w .waiting }
      finished := s.finished ++ [(task, outcome)] }
  /-- Nothing is accepted once `stop` has left `RUNNING`, and the pool never runs again. -/
  closed : Closed s.pool → ∀ a s', step s a = some s' →
    s'.accepted = s.accepted ∧ Closed s'.pool
  /-- When the pool has stopped, every accepted task has finished once. -/
  drained : s.pool.status_ = .STOPPED →
    s.pool.tasks_ = [] ∧ s.accepted.Perm (s.finished.map Prod.fst)

theorem History.partition (h : History s.pool s.accepted s.taken s.finished) :
    s.accepted.Perm (s.finished.map Prod.fst ++ s.pool.running ++ s.pool.tasks_) := by
  rw [h.order]
  exact h.ran.append_right _

/-- Once no task is queued and no worker is left, every accepted task has finished. -/
theorem History.drained (h : History s.pool s.accepted s.taken s.finished)
    (htasks : s.pool.tasks_ = []) (hexited : ∀ x ∈ s.pool.threads_, x = .exited) :
    s.accepted.Perm (s.finished.map Prod.fst) := by
  have hperm := h.partition
  rwa [htasks, running_of_exited hexited, List.append_nil, List.append_nil] at hperm

theorem Transition.closed (ht : Transition s a s') (h : Closed s.pool) :
    s'.accepted = s.accepted ∧ Closed s'.pool := by
  have hne : ∀ {status}, status = .NOT_START ∨ status = .RUNNING → s.pool.status_ ≠ status := by
    rintro status (rfl | rfl) heq <;> rcases h with h | h <;> cases h.symm.trans heq
  cases ht with
  | start =>
    rw [start_of_ne (hne (.inl rfl))]
    exact ⟨rfl, h⟩
  | accept hadd =>
    obtain ⟨task, -, hstatus, -⟩ := addTask_inv hadd
    exact absurd hstatus (hne (.inr rfl))
  | take htake =>
    obtain ⟨tasks, -, -, rfl⟩ := take_inv htake
    exact ⟨rfl, h⟩
  | exit hexit =>
    obtain ⟨-, -, -, rfl⟩ := exit_inv hexit
    exact ⟨rfl, h⟩
  | beginStop hbegin => exact absurd (beginStop_inv hbegin).1 (hne (.inr rfl))
  | finishStop _ hfinish =>
    obtain ⟨-, rfl⟩ := finishStop_inv hfinish
    exact ⟨rfl, .inr rfl⟩
  | refuse | finish | earlyStop | returnStop => exact ⟨rfl, h⟩

/-- **The thread pool neither loses nor repeats tasks.** -/
theorem losesNothing_of_reachable (hcnt : 0 < threadCnt)
    (h : (machine threadCnt maxQueueTasks).Reachable s) :
    LosesNothing threadCnt maxQueueTasks s := by
  have hbooks := books_of_reachable hcnt h
  have hsound := hbooks.manned.sound
  have hnodup := List.nodup_append.mp hbooks.numbers.nodup
  refine ⟨hbooks.history.order, hbooks.history.partition, hnodup.1, ?_, ?_, ?_, ?_, ?_, ?_⟩
  · exact hbooks.maxQueueTasks ▸ hsound.bounded
  · intro task hrefused htaken
    have haccepted : task ∈ s.accepted := by
      rw [hbooks.history.order]
      exact List.mem_append_left _ htaken
    exact hnodup.2.2 task haccepted task hrefused rfl
  · intro hstatus
    refine ⟨hbooks.workers (.inl hstatus), fun hmem => ?_⟩
    cases hstatus.symm.trans (hsound.exited hmem).1
  · intro w task outcome hw
    unfold step
    dsimp only
    rw [hw]
    rfl
  · intro hclosed a s' hs
    have ht := transition_of_step hs
    exact ht.closed hclosed
  · intro hstatus
    obtain ⟨hthreads, htasks⟩ := hsound.stopped hstatus
    refine ⟨htasks, hbooks.history.drained htasks fun x hx => ?_⟩
    rw [hthreads] at hx
    cases hx

/-- One worker runs two tasks, the first of which throws, while `stop` waits. -/
def draining : List Action :=
  [.start, .addTask false, .take 0, .addTask false, .stop, .addTask false, .finish 0 .threw,
    .take 0, .finish 0 .returned, .exit 0, .finishStop 0, .returnStop 0]

theorem losesNothing_draining :
    LosesNothing 1 (some 1) ((machine 1 (some 1)).after draining) ∧
      ((machine 1 (some 1)).after draining).finished = [(0, .threw), (1, .returned)] :=
  ⟨losesNothing_of_reachable (by decide) (Machine.reachable_after draining), by decide⟩

end MiniRpc.TaskThreadPool
