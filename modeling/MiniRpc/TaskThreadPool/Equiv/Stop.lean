import MiniRpc.Machine.Refinement
import MiniRpc.TaskThreadPool.Equiv.Drain
import MiniRpc.TaskThreadPool.Threads

/-!
# When `stop` waits

A call of `stop` that finds the pool running joins the threads.  One that finds the pool stopping
returns at once (`not_stopWaits`), while the header says that `stop` returns after all worker
threads have exited.  So every call that returns has waited, as long as none comes while the pool is
stopping and a thread has not ended (`stopWaits_of_proper`), and a call that does come then returns
too early (`not_stopWaits_of_stopping`).

The pool with the ends of its threads refines the pool without them (`refines_base`), so the books
of the latter are right here too.  `Ends` says what has become of the threads, `Waited` that a call
of `stop` is past its last section only when all of them have ended.
-/

namespace MiniRpc.TaskThreadPool.Threads

variable {threadCnt : UInt8} {maxQueueTasks : Option ℕ} {s s' : State} {a : Action}

/-- When a call of `stop` has returned, every task accepted has finished and the threads of all
workers have ended. -/
structure StopWaits (threadCnt : UInt8) (s : State) : Prop where
  finished : .returned ∈ s.base.stops → s.base.accepted.Perm (s.base.finished.map Prod.fst)
  exited : .returned ∈ s.base.stops → ∀ w < threadCnt.toNat, w ∈ s.ended

/-- `stop` is called on a pool that was started. -/
def Started (s : State) (a : Action) : Prop := a = .turn .stop → s.base.pool.status_ ≠ .NOT_START

/-- `stop` is called on a pool that was started, and not while the pool is stopping and the thread
of a worker has not ended. -/
def Proper (s : State) (a : Action) : Prop :=
  Started s a ∧ (a = .turn .stop → s.base.pool.status_ = .STOPPING →
    ∀ w < s.base.pool.threads_.length, w ∈ s.ended)

instance (s : State) (a : Action) : Decidable (Started s a) := inferInstanceAs (Decidable (_ → _))

instance (s : State) (a : Action) : Decidable (Proper s a) := inferInstanceAs (Decidable (_ ∧ _))

/-! ### What a step does -/

/-- What a step does to the pool and to the threads. -/
inductive Moves : State → Action → State → Prop
  | turn {s : State} {base : TaskThreadPool.State} {t : TaskThreadPool.Action}
      (hheld : ¬ Held s t) (h : Transition s.base t base) :
      Moves s (.turn t) { s with base := base }
  | endThread {s : State} {w : ℕ} (hw : s.base.pool.threads_[w]? = some .exited) :
      Moves s (.endThread w) { s with ended := insert w s.ended }
  | join {s : State} {k : ℕ} (hended : s.joined ∈ s.ended) :
      Moves s (.join k) { s with joined := s.joined + 1 }

theorem moves_of_step (h : step s a = some s') : Moves s a s' := by
  cases a with
  | turn t =>
    simp only [step] at h
    split_ifs at h with hheld
    obtain ⟨base, hstep, rfl⟩ := Option.map_eq_some_iff.mp h
    exact .turn hheld (transition_of_step hstep)
  | endThread w =>
    simp only [step] at h
    split_ifs at h with hw
    obtain rfl := Option.some.inj h
    exact .endThread hw.1
  | join k =>
    simp only [step] at h
    split_ifs at h with hk
    obtain rfl := Option.some.inj h
    exact .join hk.2.2

/-- The threads only make `stop` wait. -/
theorem refines_base : Machine.Refines (machine threadCnt maxQueueTasks)
    (TaskThreadPool.machine threadCnt maxQueueTasks) State.base where
  init := rfl
  step s a s' _ hs := by
    change step s a = some s' at hs
    cases a with
    | turn t =>
      simp only [step] at hs
      split_ifs at hs
      obtain ⟨base, hstep, rfl⟩ := Option.map_eq_some_iff.mp hs
      exact .inr ⟨t, hstep⟩
    | endThread | join =>
      left
      cases moves_of_step hs
      rfl

theorem books_of_reachable (hcnt : 0 < threadCnt)
    (h : (machine threadCnt maxQueueTasks).Reachable s) : Books threadCnt maxQueueTasks s.base :=
  TaskThreadPool.books_of_reachable hcnt (refines_base.reachable h)

/-! ### The threads -/

/-- Only the thread of a worker that has left its loop has ended, and what `stop` has joined has
ended. -/
structure Ends (s : State) : Prop where
  left : ∀ w ∈ s.ended, w ∈ s.base.exits
  joined : ∀ w < s.joined, w ∈ s.ended

theorem exits_subset {t t' : TaskThreadPool.State} {a : TaskThreadPool.Action}
    (ht : Transition t a t') : t.exits ⊆ t'.exits := by
  cases ht with
  | exit => exact List.subset_cons_self _ _
  | _ => exact List.Subset.refl _

theorem Ends.step (h : Ends s) (hbooks : Books threadCnt maxQueueTasks s.base)
    (hm : Moves s a s') : Ends s' := by
  cases hm with
  | turn _ ht => exact ⟨fun w hw => exits_subset ht (h.left w hw), h.joined⟩
  | endThread hw =>
    refine ⟨fun v hv => ?_, fun v hv => Finset.mem_insert_of_mem (h.joined v hv)⟩
    rcases Finset.mem_insert.mp hv with rfl | hv
    · exact (hbooks.staff.exits _).mpr (.inl hw)
    · exact h.left v hv
  | join hended =>
    refine ⟨h.left, fun v hv => ?_⟩
    rcases Nat.lt_succ_iff_lt_or_eq.mp hv with hv | rfl
    · exact h.joined v hv
    · exact hended

theorem ends_init : Ends (.init threadCnt maxQueueTasks) where
  left w hw := by cases hw
  joined w hw := absurd hw (Nat.not_lt_zero w)

theorem ends_of_reachable (hcnt : 0 < threadCnt)
    (h : (machine threadCnt maxQueueTasks).Reachable s) : Ends s :=
  h.invariant ends_init fun _ _ _ hr hold hs =>
    hold.step (books_of_reachable hcnt hr) (moves_of_step hs)

/-! ### The calls of `stop` -/

/-- A call of `stop` is past its last section, or the pool has stopped. -/
def Passed (s : TaskThreadPool.State) : Prop :=
  .leaving ∈ s.stops ∨ .returned ∈ s.stops ∨ s.pool.status_ = .STOPPED

/-- A call of `stop` gets past its last section by returning early or by joining the threads. -/
theorem passed_of_transition {t t' : TaskThreadPool.State} {a : TaskThreadPool.Action}
    (ht : Transition t a t') (h : Passed t') :
    Passed t ∨ (a = .stop ∧ t.pool.status_ ≠ .RUNNING) ∨ ∃ k, a = .finishStop k := by
  cases ht with
  | start =>
    left
    by_cases hstatus : t.pool.status_ = .NOT_START
    · rw [start_of_eq hstatus] at h
      exact h.imp_right (Or.imp_right fun heq => by cases heq)
    · rwa [start_of_ne hstatus] at h
  | accept hadd =>
    obtain ⟨task, -, -, -, rfl⟩ := addTask_inv hadd
    exact .inl h
  | take htake =>
    obtain ⟨tasks, -, -, rfl⟩ := take_inv htake
    exact .inl h
  | exit hexit =>
    obtain ⟨-, -, -, rfl⟩ := exit_inv hexit
    exact .inl h
  | beginStop hbegin =>
    obtain ⟨-, rfl⟩ := beginStop_inv hbegin
    left
    rcases h with hmem | hmem | heq
    · exact .inl (by simpa using hmem)
    · exact .inr (.inl (by simpa using hmem))
    · cases heq
  | earlyStop hstatus => exact .inr (.inl ⟨rfl, hstatus⟩)
  | finishStop => exact .inr (.inr ⟨_, rfl⟩)
  | returnStop hk => exact .inl (.inl (List.mem_of_getElem? hk))
  | refuse | finish => exact .inl h

/-- Nothing is accepted any more and the threads of all workers have ended. -/
structure Deserted (threadCnt : UInt8) (s : State) : Prop where
  closed : Closed s.base.pool
  ended : ∀ w < threadCnt.toNat, w ∈ s.ended

/-- A call of `stop` is past its last section only if all threads have ended. -/
def Waited (threadCnt : UInt8) (s : State) : Prop := Passed s.base → Deserted threadCnt s

theorem Waited.step (h : Waited threadCnt s) (hbooks : Books threadCnt maxQueueTasks s.base)
    (hends : Ends s) (hproper : Proper s a) (hm : Moves s a s') : Waited threadCnt s' := by
  intro hpassed
  cases hm with
  | @turn base t hheld ht =>
    have hold : Deserted threadCnt s → Deserted threadCnt { s with base := base } := fun hs =>
      ⟨(ht.closed hs.closed).2, hs.ended⟩
    rcases passed_of_transition ht hpassed with hp | ⟨rfl, hne⟩ | ⟨k, rfl⟩
    · exact hold (h hp)
    · -- the call returns early, and by the condition there is nothing left to wait for
      refine hold ?_
      cases hs : s.base.pool.status_ with
      | NOT_START => exact absurd hs (hproper.1 rfl)
      | RUNNING => exact absurd hs hne
      | STOPPING =>
        refine ⟨.inl hs, fun w hw => hproper.2 rfl hs w ?_⟩
        rwa [hbooks.workers (.inr hs)]
      | STOPPED => exact h (.inr (.inr hs))
    · cases ht with
      | finishStop hk hfinish =>
        have hs := hbooks.staff.stopping (List.mem_of_getElem? hk)
        obtain ⟨-, rfl⟩ := finishStop_inv hfinish
        -- the loop has joined every thread
        have hjoined : threadCnt.toNat ≤ s.joined :=
          hbooks.workers (.inr hs) ▸ Nat.le_of_not_lt hheld
        exact ⟨.inr rfl, fun w hw => hends.joined w (hw.trans_le hjoined)⟩
  | endThread hw =>
    have hs := h hpassed
    exact ⟨hs.closed, fun v hv => Finset.mem_insert_of_mem (hs.ended v hv)⟩
  | join => exact ⟨(h hpassed).closed, (h hpassed).ended⟩

theorem waited_init : Waited threadCnt (.init threadCnt maxQueueTasks) := by
  rintro (hmem | hmem | heq)
  · cases hmem
  · cases hmem
  · cases heq

theorem waited_of_proper (hcnt : 0 < threadCnt)
    (h : (machine threadCnt maxQueueTasks).ReachableBy Proper s) : Waited threadCnt s :=
  h.invariant waited_init fun _ _ _ hr hproper hold hs =>
    hold.step (books_of_reachable hcnt hr.reachable) (ends_of_reachable hcnt hr.reachable) hproper
      (moves_of_step hs)

/-- A worker whose thread has ended has left its loop. -/
theorem Deserted.exited (h : Deserted threadCnt s) (hbooks : Books threadCnt maxQueueTasks s.base)
    (hends : Ends s) : ∀ x ∈ s.base.pool.threads_, x = .exited := by
  intro x hx
  rcases h.closed with hstatus | hstatus
  · obtain ⟨w, hlt, rfl⟩ := List.getElem_of_mem hx
    have hw : w < threadCnt.toNat := hbooks.workers (.inr hstatus) ▸ hlt
    rcases (hbooks.staff.exits w).mp (hends.left w (h.ended w hw)) with hexited | ⟨heq, -⟩
    · rw [List.getElem?_eq_getElem hlt] at hexited
      exact Option.some.inj hexited
    · cases hstatus.symm.trans heq
  · rw [(hbooks.manned.sound.stopped hstatus).1] at hx
    cases hx

theorem Deserted.tasks_eq (h : Deserted threadCnt s)
    (hbooks : Books threadCnt maxQueueTasks s.base) (hends : Ends s) :
    s.base.pool.tasks_ = [] :=
  h.closed.elim
    (fun hstatus => hbooks.manned.sound.tasks_of_exited hbooks.manned.pos hstatus
      (h.exited hbooks hends))
    fun hstatus => (hbooks.manned.sound.stopped hstatus).2

/-- **Every `stop` waits**, if none is called while the pool is stopping and a thread has not
ended. -/
theorem stopWaits_of_proper (hcnt : 0 < threadCnt)
    (h : (machine threadCnt maxQueueTasks).ReachableBy Proper s) : StopWaits threadCnt s := by
  have hbooks := books_of_reachable hcnt h.reachable
  have hends := ends_of_reachable hcnt h.reachable
  have hdeserted : .returned ∈ s.base.stops → Deserted threadCnt s := fun hmem =>
    waited_of_proper hcnt h (.inr (.inl hmem))
  constructor
  · intro hmem
    have hs := hdeserted hmem
    exact hbooks.history.drained (hs.tasks_eq hbooks hends) (hs.exited hbooks hends)
  · exact fun hmem => (hdeserted hmem).ended

/-- One worker runs two tasks while `stop` waits for it.  A second call of `stop` comes when the
first one has joined the thread and has not set the status. -/
def joining : List Action :=
  ([.start, .addTask false, .take 0, .addTask false, .stop, .finish 0 .threw, .take 0,
    .finish 0 .returned, .exit 0].map .turn) ++
  [.endThread 0, .join 0, .turn .stop, .turn (.returnStop 1), .turn (.finishStop 0),
    .turn (.returnStop 0)]

theorem stopWaits_joining :
    StopWaits 1 ((machine 1 none).afterBy Proper joining) ∧
      ((machine 1 none).afterBy Proper joining).base.stops = [.returned, .returned] :=
  ⟨stopWaits_of_proper (by decide) (Machine.reachableBy_afterBy joining), by decide⟩

/-- A call of `stop` that comes while a thread has not ended can return before it ends. -/
theorem not_stopWaits_of_stopping (hcnt : 0 < threadCnt)
    (h : (machine threadCnt maxQueueTasks).Reachable s)
    (hstatus : s.base.pool.status_ = .STOPPING)
    (halive : ¬ ∀ w < s.base.pool.threads_.length, w ∈ s.ended) :
    ∃ s' s'', step s (.turn .stop) = some s' ∧
      step s' (.turn (.returnStop s.base.stops.length)) = some s'' ∧ ¬ StopWaits threadCnt s'' := by
  have hbooks := books_of_reachable hcnt h
  have hbegin : s.base.pool.beginStop = none := if_pos fun heq => by cases hstatus.symm.trans heq
  -- the second call returns at once, with no step of a worker in between
  let t : State := { s with base := { s.base with stops := s.base.stops ++ [.leaving] } }
  have hlast : t.base.stops[s.base.stops.length]? = some .leaving := by simp [t]
  have hstop : step s (.turn .stop) = some t := by
    simp [step, Held, TaskThreadPool.step, hbegin, t]
  refine ⟨t, { t with base := { t.base with
    stops := t.base.stops.set s.base.stops.length .returned } }, hstop, ?_, fun hwaits => ?_⟩
  · simp [step, Held, TaskThreadPool.step, hlast]
  · have hmem : StopCall.returned ∈ t.base.stops.set s.base.stops.length .returned :=
      List.mem_of_getElem? (List.getElem?_set_self (by simp [t]))
    refine halive fun w hw => hwaits.exited hmem w ?_
    rwa [← hbooks.workers (.inr hstatus)]

/-- The second call returns while the accepted task is still queued. -/
theorem not_stopWaits : ¬ ∀ s, (machine 1 none).ReachableBy Started s → StopWaits 1 s := by
  intro h
  have hwaits := h _ (Machine.reachableBy_afterBy
    ([.start, .addTask false, .stop, .stop, .returnStop 1].map .turn))
  have hperm := hwaits.finished (by decide)
  exact absurd hperm (by decide)

end MiniRpc.TaskThreadPool.Threads
