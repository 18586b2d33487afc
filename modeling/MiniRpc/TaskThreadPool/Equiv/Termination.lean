import Mathlib.Algebra.Order.BigOperators.Group.Finset
import Mathlib.Algebra.BigOperators.Ring.Finset
import MiniRpc.TaskThreadPool.Equiv.Wakeup

/-!
# Every accepted task is executed, and `stop` returns

`rank` counts what the threads of a pool still have to do: a queued task is taken and executed, a
worker that is awake blocks or leaves, a call of `stop` goes on and returns, a notification that is
due is made.  Every internal action lowers it (`Moves.rank_le`), also where the woken worker finds
that another one has taken the task.

So a run has only as many internal actions as its external ones pay for, and a scheduler that goes
on while it can brings the pool to rest: then every accepted task has finished and every call of
`stop` has returned.
-/

namespace MiniRpc.TaskThreadPool.Condition

variable {threadCnt : UInt8} {maxQueueTasks : Option ℕ} {s s' : State} {a : Action}

/-! ### What is left to do -/

/-- What worker `w` has to do before it blocks or has left. -/
def load (threads : List (Worker TaskId)) (blocked : Finset ℕ) (w : ℕ) : ℕ :=
  match threads[w]? with
  | some .waiting => if w ∈ blocked then 0 else 1
  | some (.running _) => 2
  | _ => 0

/-- What a call of `stop` has to do before it has returned. -/
def duty : StopCall → ℕ
  | .joining => 2
  | .leaving => 1
  | .returned => 0

/-- What the threads of a pool have to do. -/
def rank (n : ℕ) (s : State) : ℕ :=
  2 * s.base.pool.tasks_.length + ∑ w ∈ Finset.range n, load s.base.pool.threads_ s.blocked w +
    (s.base.stops.map duty).sum + 2 * s.adding + (n + 1) * s.stopping.length

/-- What an action from outside adds. -/
def cost (n : ℕ) : Action → ℕ
  | .turn .start => n
  | .turn (.addTask _) => 4
  | .turn .stop => n + 3
  | .wake _ => 1
  | _ => 0

/-! ### The workers -/

/-- One worker goes on, and the others do what they did. -/
theorem sum_load_of_eq {threads threads' : List (Worker TaskId)} {blocked blocked' : Finset ℕ}
    {n w : ℕ} (hw : w < n)
    (h : ∀ v, v ≠ w → load threads' blocked' v = load threads blocked v) :
    ∑ v ∈ Finset.range n, load threads' blocked' v + load threads blocked w =
      ∑ v ∈ Finset.range n, load threads blocked v + load threads' blocked' w := by
  have hmem : w ∈ Finset.range n := Finset.mem_range.mpr hw
  have hrest : ∑ v ∈ (Finset.range n).erase w, load threads' blocked' v =
      ∑ v ∈ (Finset.range n).erase w, load threads blocked v :=
    Finset.sum_congr rfl fun v hv => h v (Finset.ne_of_mem_erase hv)
  have hold := Finset.add_sum_erase (Finset.range n) (load threads blocked) hmem
  have hnew := Finset.add_sum_erase (Finset.range n) (load threads' blocked') hmem
  omega

/-- A worker goes on to something else. -/
theorem sum_load_set {threads : List (Worker TaskId)} {n w : ℕ} (hw : w < threads.length)
    (hn : threads.length ≤ n) (blocked : Finset ℕ) (x : Worker TaskId) :
    ∑ v ∈ Finset.range n, load (threads.set w x) blocked v + load threads blocked w =
      ∑ v ∈ Finset.range n, load threads blocked v + load (threads.set w x) blocked w := by
  refine sum_load_of_eq (Nat.lt_of_lt_of_le hw hn) fun v hne => ?_
  unfold load
  rw [List.getElem?_set_ne hne.symm]

/-- A worker blocks. -/
theorem sum_load_insert {n w : ℕ} (hw : w < n) (threads : List (Worker TaskId))
    (blocked : Finset ℕ) :
    ∑ v ∈ Finset.range n, load threads (insert w blocked) v + load threads blocked w =
      ∑ v ∈ Finset.range n, load threads blocked v + load threads (insert w blocked) w := by
  refine sum_load_of_eq hw fun v hne => ?_
  unfold load
  simp only [Finset.mem_insert, hne, false_or]

/-- A worker is woken. -/
theorem sum_load_erase {n w : ℕ} (hw : w < n) (threads : List (Worker TaskId))
    (blocked : Finset ℕ) :
    ∑ v ∈ Finset.range n, load threads (blocked.erase w) v + load threads blocked w =
      ∑ v ∈ Finset.range n, load threads blocked v + load threads (blocked.erase w) w := by
  refine sum_load_of_eq hw fun v hne => ?_
  unfold load
  simp only [Finset.mem_erase, hne, ne_eq, not_false_eq_true, true_and]

/-- All workers are woken. -/
theorem sum_load_empty (threads : List (Worker TaskId)) (blocked : Finset ℕ) (n : ℕ) :
    ∑ v ∈ Finset.range n, load threads ∅ v ≤ ∑ v ∈ Finset.range n, load threads blocked v + n := by
  have hle : ∀ v ∈ Finset.range n, load threads ∅ v ≤ load threads blocked v + 1 := by
    intro v _
    unfold load
    split
    · split_ifs <;> simp_all
    · exact Nat.le_succ _
    · exact Nat.zero_le _
  calc ∑ v ∈ Finset.range n, load threads ∅ v
      ≤ ∑ v ∈ Finset.range n, (load threads blocked v + 1) := Finset.sum_le_sum hle
    _ = ∑ v ∈ Finset.range n, load threads blocked v + n := by
      simp [Finset.sum_add_distrib]

/-- No worker has anything to do before `start` and after the last one has left. -/
theorem sum_load_exited {threads : List (Worker TaskId)} (h : ∀ x ∈ threads, x = .exited)
    (blocked : Finset ℕ) (n : ℕ) : ∑ v ∈ Finset.range n, load threads blocked v = 0 := by
  refine Finset.sum_eq_zero fun v _ => ?_
  unfold load
  cases hv : threads[v]? with
  | none => rfl
  | some x =>
    rw [h x (List.mem_of_getElem? hv)]

/-- The workers that `start` creates. -/
theorem sum_load_replicate (m n : ℕ) (blocked : Finset ℕ) :
    ∑ v ∈ Finset.range n, load (List.replicate m .waiting) blocked v ≤ n := by
  have hle : ∀ v ∈ Finset.range n, load (List.replicate m .waiting) blocked v ≤ 1 := by
    intro v _
    unfold load
    split
    · split_ifs <;> omega
    · rename_i hv
      cases List.eq_of_mem_replicate (List.mem_of_getElem? hv)
    · exact Nat.zero_le _
  simpa using Finset.sum_le_card_nsmul _ _ 1 hle

/-! ### The calls of `stop` -/

theorem sum_duty_set {stops : List StopCall} {k : ℕ} {x y : StopCall} (hk : stops[k]? = some x) :
    ((stops.set k y).map duty).sum + duty x = (stops.map duty).sum + duty y := by
  obtain ⟨hlt, hget⟩ := List.getElem?_eq_some_iff.mp hk
  have hold := ((List.getElem_cons_eraseIdx_perm hlt).map duty).sum_eq
  have hnew := ((List.set_perm_cons_eraseIdx hlt y).map duty).sum_eq
  rw [hget, List.map_cons, List.sum_cons] at hold
  rw [List.map_cons, List.sum_cons] at hnew
  omega

/-! ### Every internal action lowers the rank -/

/-- A thread of the pool lowers the rank, and an action from outside raises it by at most its
cost. -/
theorem Moves.rank_le {n : ℕ} (hm : Moves s a s') (hawake : Awake s)
    (hlen : s.base.pool.threads_.length ≤ n) :
    rank n s' + (if internal a then 1 else 0) ≤ rank n s + cost n a := by
  have hlt : ∀ {w x}, s.base.pool.threads_[w]? = some x → w < s.base.pool.threads_.length :=
    fun hw => (List.getElem?_eq_some_iff.mp hw).1
  unfold rank
  cases hm with
  | @start base hpool hstops =>
    simp only [internal, cost, hstops, hpool]
    by_cases hstatus : s.base.pool.status_ = .NOT_START
    · rw [start_of_eq hstatus]
      have hnew := sum_load_replicate s.base.pool.threadCnt_.toNat n s.blocked
      simp only [Bool.false_eq_true, if_false]
      omega
    · rw [start_of_ne hstatus]
      simp only [Bool.false_eq_true, if_false]
      omega
  | @accept base empty task hadd hstops =>
    obtain ⟨task, -, -, -, hpool⟩ := addTask_inv hadd
    simp only [internal, cost, hstops, hpool, List.length_append, List.length_singleton]
    simp only [Bool.false_eq_true, if_false]
    omega
  | @refuse base empty hpool hstops =>
    simp only [internal, cost, hstops, hpool, Bool.false_eq_true, if_false]
    omega
  | @take base w task hw htake hstops =>
    obtain ⟨tasks, hwaiting, htasks, hpool⟩ := take_inv htake
    have hsum := sum_load_set (hlt hwaiting) hlen s.blocked (.running task)
    have hold : load s.base.pool.threads_ s.blocked w = 1 := by simp [load, hwaiting, hw]
    have hnew : load (s.base.pool.threads_.set w (.running task)) s.blocked w = 2 := by
      simp [load, List.getElem?_set_self (hlt hwaiting)]
    simp only [internal, cost, hstops, hpool, htasks, List.length_cons, if_true]
    omega
  | @finish base w task outcome hw hpool hstops =>
    have hsum := sum_load_set (hlt hw) hlen s.blocked .waiting
    have hold : load s.base.pool.threads_ s.blocked w = 2 := by simp [load, hw]
    have hnew : load (s.base.pool.threads_.set w .waiting) s.blocked w ≤ 1 := by
      simp only [load, List.getElem?_set_self (hlt hw)]
      split_ifs <;> omega
    simp only [internal, cost, hstops, hpool, TaskThreadPool.finish, if_true]
    omega
  | @exit base w hw hexit hstops =>
    obtain ⟨hwaiting, -, -, hpool⟩ := exit_inv hexit
    have hsum := sum_load_set (hlt hwaiting) hlen s.blocked .exited
    have hold : load s.base.pool.threads_ s.blocked w = 1 := by simp [load, hwaiting, hw]
    have hnew : load (s.base.pool.threads_.set w .exited) s.blocked w = 0 := by
      simp [load, List.getElem?_set_self (hlt hwaiting)]
    simp only [internal, cost, hstops, hpool, if_true]
    omega
  | @beginStop base hbegin hstops =>
    obtain ⟨-, hpool⟩ := beginStop_inv hbegin
    simp only [internal, cost, hstops, hpool, List.map_append, List.sum_append, List.length_cons,
      List.map_cons, List.map_nil, List.sum_cons, List.sum_nil, duty, Nat.mul_add]
    simp only [Bool.false_eq_true, if_false]
    omega
  | @earlyStop base hpool hstops =>
    simp only [internal, cost, hstops, hpool, List.map_append, List.sum_append,
      List.map_cons, List.map_nil, List.sum_cons, List.sum_nil, duty]
    simp only [Bool.false_eq_true, if_false]
    omega
  | @finishStop base k hheld hk hfinish hstops =>
    obtain ⟨hexited, hpool⟩ := finishStop_inv hfinish
    have hduty := sum_duty_set (y := .leaving) hk
    have hold := sum_load_exited hexited s.blocked n
    have hnew := @sum_load_exited [] (fun _ hmem => by cases hmem) s.blocked n
    simp only [duty] at hduty
    simp only [internal, cost, hstops, hpool, if_true]
    omega
  | @returnStop base k hk hpool hstops =>
    have hduty := sum_duty_set (y := .returned) hk
    simp only [duty] at hduty
    simp only [internal, cost, hstops, hpool, if_true]
    omega
  | @wait w hw hblocked htasks hstatus =>
    have hsum := sum_load_insert (Nat.lt_of_lt_of_le (hlt hw) hlen) s.base.pool.threads_
      s.blocked
    have hold : load s.base.pool.threads_ s.blocked w = 1 := by simp [load, hw, hblocked]
    have hnew : load s.base.pool.threads_ (insert w s.blocked) w = 0 := by simp [load, hw]
    simp only [internal, cost, if_true]
    omega
  | @notifyNone hadding hblocked =>
    simp only [internal, cost, if_true]
    omega
  | @notifyOne w hadding hw =>
    have hwaiting := hawake.waiting w hw
    have hsum := sum_load_erase (Nat.lt_of_lt_of_le (hlt hwaiting) hlen) s.base.pool.threads_
      s.blocked
    have hnew : load s.base.pool.threads_ (s.blocked.erase w) w = 1 := by simp [load, hwaiting]
    simp only [internal, cost, if_true]
    omega
  | @notifyAll k hk =>
    have hsum := sum_load_empty s.base.pool.threads_ s.blocked n
    obtain ⟨m, hm⟩ := Nat.exists_eq_add_one_of_ne_zero (List.length_pos_of_mem hk).ne'
    simp only [internal, cost, if_true, List.length_erase_of_mem hk, hm, Nat.add_sub_cancel,
      Nat.mul_add]
    omega
  | @wake w hw =>
    have hwaiting := hawake.waiting w hw
    have hsum := sum_load_erase (Nat.lt_of_lt_of_le (hlt hwaiting) hlen) s.base.pool.threads_
      s.blocked
    have hnew : load s.base.pool.threads_ (s.blocked.erase w) w = 1 := by simp [load, hwaiting]
    simp only [internal, cost, Bool.false_eq_true, if_false]
    omega

theorem cost_of_internal {n : ℕ} (ha : internal a = true) : cost n a = 0 := by
  cases a with
  | turn t => cases t <;> first | rfl | cases ha
  | wake => cases ha
  | wait | notifyOne | notifyAll => rfl

theorem rank_le_of_step (hcnt : 0 < threadCnt) (h : (machine threadCnt maxQueueTasks).Reachable s)
    (hs : step s a = some s') :
    rank threadCnt.toNat s' + (if internal a then 1 else 0) ≤
      rank threadCnt.toNat s + cost threadCnt.toNat a := by
  have hbooks := books_of_reachable hcnt (base_of_reachable h)
  have hlen := hbooks.manned.sound.length_le
  rw [hbooks.threadCnt] at hlen
  exact (moves_of_step hs).rank_le (awake_of_reachable hcnt h) hlen

theorem ranks (hcnt : 0 < threadCnt) :
    Machine.Ranks (machine threadCnt maxQueueTasks) (machine threadCnt maxQueueTasks).Reachable
      internal (rank threadCnt.toNat) (cost threadCnt.toNat) := by
  refine ⟨⟨fun s a s' hr hs => hr.step hs, fun s a s' hr ha hs => ?_⟩, fun s a s' hr ha hs => ?_⟩
  · have hle := rank_le_of_step hcnt hr hs
    rw [if_pos ha, cost_of_internal ha] at hle
    omega
  · have hle := rank_le_of_step hcnt hr hs
    rw [if_neg (by simp [ha])] at hle
    omega

/-! ### The law -/

/-- What was accepted stays accepted, and the calls of `stop` keep their places. -/
structure Grows (s s' : TaskThreadPool.State) : Prop where
  accepted : s.accepted ⊆ s'.accepted
  stops : s.stops.length ≤ s'.stops.length

theorem Grows.refl (s : TaskThreadPool.State) : Grows s s := ⟨fun _ => id, Nat.le_refl _⟩

theorem Grows.trans {s t s' : TaskThreadPool.State} (h : Grows s t) (h' : Grows t s') :
    Grows s s' :=
  ⟨fun _ hmem => h'.accepted (h.accepted hmem), Nat.le_trans h.stops h'.stops⟩

theorem grows_of_transition {s s' : TaskThreadPool.State} {t : TaskThreadPool.Action}
    (ht : TaskThreadPool.Transition s t s') : Grows s s' := by
  cases ht with
  | accept => exact ⟨List.subset_append_left _ _, Nat.le_refl _⟩
  | beginStop | earlyStop => exact ⟨fun _ => id, by simp⟩
  | finishStop | returnStop => exact ⟨fun _ => id, by simp⟩
  | start | refuse | take | finish | exit => exact ⟨fun _ => id, Nat.le_refl _⟩

/-- A turn is a transition of the pool, and the other actions do not touch it. -/
theorem base_of_step (hs : step s a = some s') :
    s'.base = s.base ∨ ∃ t, TaskThreadPool.Transition s.base t s'.base := by
  cases a with
  | turn t =>
    simp only [step] at hs
    split_ifs at hs
    obtain ⟨base, hstep, rfl⟩ := Option.map_eq_some_iff.mp hs
    exact .inr ⟨t, transition_of_step hstep⟩
  | wait | notifyOne | notifyAll | wake =>
    left
    cases moves_of_step hs <;> rfl

theorem grows_of_step (hs : step s a = some s') : Grows s.base s'.base := by
  rcases base_of_step hs with heq | ⟨_, ht⟩
  · rw [heq]
    exact .refl _
  · exact grows_of_transition ht

/-- A pool does what it has accepted and comes to rest. -/
structure ComesToRest (threadCnt : UInt8) (maxQueueTasks : Option ℕ) (s : State) : Prop where
  /-- Whatever the order of the actions, only so many of them are the pool's own. -/
  bounded : ∀ as s', (machine threadCnt maxQueueTasks).Run s as s' →
    as.countP internal ≤ rank threadCnt.toNat s +
      Machine.costs internal (cost threadCnt.toNat) as
  /-- The pool can always come to rest without help from outside. -/
  rests : ∃ as s', (∀ a ∈ as, internal a = true) ∧
    (machine threadCnt maxQueueTasks).Run s as s' ∧
    (machine threadCnt maxQueueTasks).Rest internal s'
  /-- Once it does, every task accepted until now has finished and every call of `stop` made until
  now has returned. -/
  settles : ∀ as s', (machine threadCnt maxQueueTasks).Run s as s' →
    (machine threadCnt maxQueueTasks).Rest internal s' →
    (∀ task ∈ s.base.accepted, ∃ outcome, (task, outcome) ∈ s'.base.finished) ∧
      ∀ k < s.base.stops.length, s'.base.stops[k]? = some .returned

/-- **Every accepted task is executed, and every call of `stop` returns.** -/
theorem comesToRest_of_reachable (hcnt : 0 < threadCnt)
    (h : (machine threadCnt maxQueueTasks).Reachable s) :
    ComesToRest threadCnt maxQueueTasks s := by
  have hranks := @ranks threadCnt maxQueueTasks hcnt
  refine ⟨fun as s' hrun => hranks.internal_le h hrun, hranks.exists_rest h, ?_⟩
  intro as s' hrun hrest
  have hreach := hrun.reachable h
  have hgrows : Grows s.base s'.base := by
    refine hrun.relates (R := fun s s' : State => Grows s.base s'.base) ?_ ?_ ?_ h
    · exact fun s => .refl s.base
    · exact fun s t s' hst hts => hst.trans hts
    · exact fun s a s' _ hs => grows_of_step hs
  have hsettled := Rest.settled hrest (awake_of_reachable hcnt hreach)
    (books_of_reachable hcnt (base_of_reachable hreach))
  refine ⟨fun task htask => ?_, fun k hk => ?_⟩
  · obtain ⟨⟨task', outcome⟩, hmem, rfl⟩ :=
      List.mem_map.mp (hsettled.served.mem_iff.mp (hgrows.accepted htask))
    exact ⟨outcome, hmem⟩
  · have hlt := Nat.lt_of_lt_of_le hk hgrows.stops
    rw [List.getElem?_eq_getElem hlt, hsettled.returned _ (List.getElem_mem hlt)]

theorem comesToRest_waking :
    ComesToRest 2 none ((machine 2 none).after waking) ∧
      ((machine 2 none).after waking).base.pool.status_ = .STOPPING ∧
      rank 2 ((machine 2 none).after waking) = 9 :=
  ⟨comesToRest_of_reachable (by decide) (Machine.reachable_after waking), by decide, by decide⟩

end MiniRpc.TaskThreadPool.Condition
