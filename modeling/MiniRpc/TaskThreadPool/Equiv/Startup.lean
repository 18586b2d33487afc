import MiniRpc.TaskThreadPool.Equiv.Termination
import MiniRpc.TaskThreadPool.Startup

/-!
# A `start` that throws leaves nothing behind

As long as no call of `start` has failed, the pool is the one of `Condition`.  The call that fails
finds a pool that has done nothing yet (`Idle`), and holds the mutex until the pool is stopping.  So
from then on the pool accepts nothing and runs nothing, no worker ever blocks and no call of `stop`
joins (`Emptied`); the workers that were created leave, and the call throws.
-/

namespace MiniRpc.TaskThreadPool

variable {threadCnt : UInt8} {maxQueueTasks : Option ℕ}

theorem failStart_inv {τ : Type*} {pool pool' : TaskThreadPool τ} {created : ℕ}
    (h : pool.failStart created = some pool') :
    pool.status_ = .NOT_START ∧ created < pool.threadCnt_.toNat ∧ pool' = { pool with
      status_ := .STOPPING, threads_ := List.replicate created .waiting } := by
  unfold failStart at h
  split_ifs at h with hstatus hcreated
  exact ⟨not_not.mp hstatus, hcreated, (Option.some.inj h).symm⟩

/-! ### Before `start` -/

/-- Before `start` nothing has been accepted. -/
def Idle (s : State) : Prop := s.pool.status_ = .NOT_START → s.accepted = []

theorem Idle.step {s s' : State} {a : Action} (h : Idle s) (ht : Transition s a s') :
    Idle s' := by
  cases ht with
  | start =>
    intro hstatus
    by_cases hold : s.pool.status_ = .NOT_START
    · rw [start_of_eq hold] at hstatus
      cases hstatus
    · rw [start_of_ne hold] at hstatus
      exact absurd hstatus hold
  | accept hadd =>
    obtain ⟨task, -, hrunning, -, rfl⟩ := addTask_inv hadd
    intro hstatus
    cases hrunning.symm.trans hstatus
  | take htake =>
    obtain ⟨tasks, -, -, rfl⟩ := take_inv htake
    exact h
  | exit hexit =>
    obtain ⟨-, -, -, rfl⟩ := exit_inv hexit
    exact h
  | beginStop hbegin =>
    obtain ⟨-, rfl⟩ := beginStop_inv hbegin
    intro hstatus
    cases hstatus
  | finishStop _ hfinish =>
    obtain ⟨-, rfl⟩ := finishStop_inv hfinish
    intro hstatus
    cases hstatus
  | refuse | finish | earlyStop | returnStop => exact h

theorem idle_of_reachable {s : State} (h : (machine threadCnt maxQueueTasks).Reachable s) :
    Idle s := by
  refine h.invariant (fun _ => rfl) fun s a s' _ hold hs => ?_
  exact hold.step (transition_of_step hs)

namespace Condition

/-- Before `start` no call of `addTask` has to notify. -/
theorem adding_of_reachable {s : State} (h : (machine threadCnt maxQueueTasks).Reachable s) :
    s.base.pool.status_ = .NOT_START → s.adding = 0 := by
  refine h.invariant (P := fun s => s.base.pool.status_ = .NOT_START → s.adding = 0)
    (fun _ => rfl) fun s a s' _ hold hs hstatus => ?_
  cases moves_of_step hs with
  | start hpool =>
    rw [hpool] at hstatus
    by_cases hnew : s.base.pool.status_ = .NOT_START
    · rw [start_of_eq hnew] at hstatus
      cases hstatus
    · rw [start_of_ne hnew] at hstatus
      exact absurd hstatus hnew
  | accept hadd =>
    obtain ⟨task, -, hrunning, -, hpool⟩ := addTask_inv hadd
    rw [hpool] at hstatus
    cases hrunning.symm.trans hstatus
  | refuse hpool | earlyStop hpool | finish _ hpool | returnStop _ hpool =>
    rw [hpool] at hstatus
    exact hold hstatus
  | take _ htake =>
    obtain ⟨tasks, -, -, hpool⟩ := take_inv htake
    rw [hpool] at hstatus
    exact hold hstatus
  | exit _ hexit =>
    obtain ⟨-, -, -, hpool⟩ := exit_inv hexit
    rw [hpool] at hstatus
    exact hold hstatus
  | beginStop hbegin =>
    obtain ⟨-, hpool⟩ := beginStop_inv hbegin
    rw [hpool] at hstatus
    cases hstatus
  | finishStop _ _ hfinish =>
    obtain ⟨-, hpool⟩ := finishStop_inv hfinish
    rw [hpool] at hstatus
    cases hstatus
  | notifyNone hadding | notifyOne hadding =>
    have hzero := hold hstatus
    omega
  | wait | notifyAll | wake => exact hold hstatus

end Condition

namespace Startup

variable {s s' : State} {a : Action}

/-! ### After `start` has failed -/

/-- The status that a failed call of `start` has set. -/
def StartCall.status : StartCall → TaskThreadPoolStatus
  | .notifying | .joining => .STOPPING
  | .leaving | .threw => .STOPPED

/-- The pool after `start` has created `created` threads and failed. -/
structure Emptied (threadCnt : UInt8) (c : StartCall) (created : ℕ) (s : TaskThreadPool.State) :
    Prop where
  status : s.pool.status_ = c.status
  created_lt : created < threadCnt.toNat
  /-- The threads are cleared when the call has joined them. -/
  length : s.pool.threads_.length = if c.status = .STOPPING then created else 0
  free : ∀ x ∈ s.pool.threads_, x = .waiting ∨ x = .exited
  exits : ∀ w, w ∈ s.exits ↔
    s.pool.threads_[w]? = some .exited ∨ c.status = .STOPPED ∧ w < created
  tasks : s.pool.tasks_ = []
  accepted : s.accepted = []
  taken : s.taken = []
  finished : s.finished = []
  /-- A call of `stop` returns at once. -/
  stops : ∀ x ∈ s.stops, x ≠ .joining

theorem StartCall.status_ne (c : StartCall) : c.status ≠ .NOT_START ∧ c.status ≠ .RUNNING := by
  cases c <;> exact ⟨fun h => (by cases h), fun h => (by cases h)⟩

variable {c : StartCall} {created : ℕ}

theorem Emptied.not_running {t : TaskThreadPool.State} (h : Emptied threadCnt c created t) :
    t.pool.status_ ≠ .RUNNING := h.status ▸ c.status_ne.2

/-- The rest of the pool goes on while a failed call of `start` joins the workers, and after. -/
theorem Emptied.step {t t' : TaskThreadPool.State} {a : TaskThreadPool.Action}
    (h : Emptied threadCnt c created t) (ht : Transition t a t') : Emptied threadCnt c created t' := by
  cases ht with
  | start =>
    have hstatus : t.pool.status_ ≠ .NOT_START := h.status ▸ c.status_ne.1
    rw [start_of_ne hstatus]
    exact h
  | accept hadd =>
    obtain ⟨task, -, hrunning, -, -⟩ := addTask_inv hadd
    exact absurd hrunning h.not_running
  | refuse => exact { h with }
  | take htake =>
    obtain ⟨tasks, -, htasks, -⟩ := take_inv htake
    cases h.tasks.symm.trans htasks
  | finish _ hw =>
    rcases h.free _ (List.mem_of_getElem? hw) with heq | heq <;> cases heq
  | @exit pool w hexit =>
    obtain ⟨hw, -, -, rfl⟩ := exit_inv hexit
    have hlt : w < t.pool.threads_.length := (List.getElem?_eq_some_iff.mp hw).1
    refine { h with
      length := by rw [← h.length]; exact List.length_set
      free := fun x hx => ?_
      exits := fun v => ?_ }
    · rcases List.mem_or_eq_of_mem_set hx with hx | rfl
      · exact h.free x hx
      · exact .inr rfl
    · show v ∈ w :: t.exits ↔ (t.pool.threads_.set w .exited)[v]? = some Worker.exited ∨ _
      by_cases hv : w = v
      · subst hv
        simp [List.getElem?_set_self hlt]
      · rw [List.getElem?_set_ne hv, List.mem_cons, h.exits v]
        simp [Ne.symm hv]
  | beginStop hbegin =>
    obtain ⟨hrunning, -⟩ := beginStop_inv hbegin
    exact absurd hrunning h.not_running
  | earlyStop =>
    refine { h with stops := fun x hx => ?_ }
    rcases List.mem_append.mp hx with hx | hx
    · exact h.stops x hx
    · obtain rfl := List.mem_singleton.mp hx
      exact fun heq => by cases heq
  | finishStop hk => exact absurd rfl (h.stops _ (List.mem_of_getElem? hk))
  | returnStop =>
    refine { h with stops := fun x hx => ?_ }
    rcases List.mem_or_eq_of_mem_set hx with hx | rfl
    · exact h.stops x hx
    · exact fun heq => by cases heq

/-- The call goes on without changing the pool. -/
theorem Emptied.congr {c' : StartCall} {t : TaskThreadPool.State}
    (h : Emptied threadCnt c created t) (hc : c'.status = c.status) :
    Emptied threadCnt c' created t :=
  { h with
    status := h.status.trans hc.symm
    length := by rw [h.length, hc]
    exits := fun w => by rw [h.exits w, hc] }

/-- The call has joined the workers and passes its last section. -/
theorem Emptied.finishStart {t : TaskThreadPool.State} {pool : TaskThreadPool TaskId}
    (h : Emptied threadCnt .joining created t) (hfinish : t.pool.finishStop = some pool) :
    Emptied threadCnt .leaving created { t with pool := pool } := by
  obtain ⟨hexited, rfl⟩ := finishStop_inv hfinish
  have hlength : t.pool.threads_.length = created := h.length
  refine { h with
    status := rfl
    length := rfl
    free := fun x hx => (by cases hx)
    exits := fun w => ?_ }
  rw [h.exits w]
  show t.pool.threads_[w]? = some Worker.exited ∨ _ ↔
    ([] : List (Worker TaskId))[w]? = some Worker.exited ∨ _
  constructor
  · rintro (hw | ⟨heq, -⟩)
    · have hlt := (List.getElem?_eq_some_iff.mp hw).1
      exact .inr ⟨rfl, hlength ▸ hlt⟩
    · cases heq
  · rintro (hw | ⟨-, hlt⟩)
    · cases hw
    · rw [← hlength] at hlt
      left
      rw [List.getElem?_eq_getElem hlt, hexited _ (List.getElem_mem hlt)]

/-! ### The condition variable -/

/-- No worker is blocked and nobody has to notify. -/
structure Quiet (s : Condition.State) : Prop where
  blocked : s.blocked = ∅
  adding : s.adding = 0
  stopping : s.stopping = []

theorem Quiet.awake {s : Condition.State} (h : Quiet s) : Condition.Awake s where
  waiting w hw := by
    rw [h.blocked] at hw
    cases hw
  work hne := absurd h.blocked hne.ne_empty
  told hne := absurd h.blocked hne.ne_empty
  joining k hk := by
    rw [h.stopping] at hk
    cases hk

/-- Once `start` has failed no worker blocks. -/
theorem Quiet.step {s s' : Condition.State} {a : Condition.Action} (h : Quiet s)
    (hstatus : s.base.pool.status_ ≠ .RUNNING) (hm : Condition.Moves s a s') : Quiet s' := by
  cases hm with
  | accept hadd =>
    obtain ⟨task, -, hrunning, -, -⟩ := addTask_inv hadd
    exact absurd hrunning hstatus
  | beginStop hbegin => exact absurd (beginStop_inv hbegin).1 hstatus
  | wait _ _ _ hrunning => exact absurd hrunning hstatus
  | notifyNone hadding | notifyOne hadding =>
    rw [h.adding] at hadding
    cases hadding
  | notifyAll hk =>
    rw [h.stopping] at hk
    cases hk
  | wake hw =>
    rw [h.blocked] at hw
    cases hw
  | start | refuse | take | finish | exit | earlyStop | finishStop | returnStop =>
    exact ⟨h.blocked, h.adding, h.stopping⟩

/-! ### Before and after -/

/-- Until `start` fails the pool is the ordinary one, and from then on it is emptied. -/
inductive Phase (threadCnt : UInt8) (maxQueueTasks : Option ℕ) (s : State) : Prop
  | ordinary (hfailed : s.failed = none)
      (h : (Condition.machine threadCnt maxQueueTasks).Reachable s.base)
  | failed {c : StartCall} (hfailed : s.failed = some c)
      (h : Emptied threadCnt c s.created s.base.base) (hquiet : Quiet s.base)

/-- The call of `start` that fails finds a pool that has done nothing. -/
theorem emptied_of_failStart (hcnt : 0 < threadCnt) {s : Condition.State}
    {pool : TaskThreadPool TaskId} (h : (Condition.machine threadCnt maxQueueTasks).Reachable s)
    (hfail : s.base.pool.failStart created = some pool) :
    Emptied threadCnt .notifying created { s.base with pool := pool } ∧ Quiet s := by
  obtain ⟨hstatus, hlt, rfl⟩ := failStart_inv hfail
  have hbase := Condition.base_of_reachable h
  have hbooks := books_of_reachable hcnt hbase
  have hawake := Condition.awake_of_reachable hcnt h
  obtain ⟨hthreads, htasks⟩ := hbooks.manned.sound.idle hstatus
  have haccepted := idle_of_reachable hbase hstatus
  -- nothing accepted, so nothing taken, so nothing finished
  have horder := hbooks.history.order
  rw [haccepted, htasks, List.append_nil] at horder
  have hran := hbooks.history.ran
  rw [← horder, running, hthreads, List.filterMap_nil, List.append_nil] at hran
  have hfinished := List.map_eq_nil_iff.mp hran.nil_eq.symm
  have hcount := hbooks.staff.joining
  rw [hstatus, if_neg (fun heq => by cases heq)] at hcount
  have hstops : ∀ x ∈ s.base.stops, x ≠ .joining := by
    rintro x hx rfl
    exact List.count_eq_zero.mp hcount hx
  have hexits : ∀ w, w ∉ s.base.exits := by
    intro w hw
    rcases (hbooks.staff.exits w).mp hw with hexited | ⟨heq, -⟩
    · rw [hthreads] at hexited
      cases hexited
    · cases hstatus.symm.trans heq
  refine ⟨?_, hawake.blocked_eq hthreads, Condition.adding_of_reachable h hstatus, ?_⟩
  · refine ⟨rfl, hbooks.threadCnt ▸ hlt, ?_, fun x hx => ?_, fun w => ?_, htasks, haccepted,
      horder.symm, hfinished, hstops⟩
    · show (List.replicate created Worker.waiting).length = created
      exact List.length_replicate
    · exact .inl (List.eq_of_mem_replicate hx)
    · refine ⟨fun hw => absurd hw (hexits w), ?_⟩
      rintro (hw | ⟨heq, -⟩)
      · cases List.eq_of_mem_replicate (List.mem_of_getElem? hw)
      · cases heq
  · refine List.eq_nil_iff_forall_not_mem.mpr fun k hk => ?_
    exact hstops _ (List.mem_of_getElem? (hawake.joining k hk)) rfl

theorem Phase.step (hcnt : 0 < threadCnt) (h : Phase threadCnt maxQueueTasks s)
    (hs : step s a = some s') : Phase threadCnt maxQueueTasks s' := by
  cases a with
  | act a =>
    obtain ⟨base, hstep, rfl⟩ := Option.map_eq_some_iff.mp hs
    cases h with
    | ordinary hfailed h => exact .ordinary hfailed (h.step hstep)
    | failed hfailed h hquiet =>
      refine .failed hfailed ?_ (hquiet.step h.not_running (Condition.moves_of_step hstep))
      rcases Condition.base_of_step hstep with heq | ⟨_, ht⟩
      · show Emptied threadCnt _ s.created base.base
        rwa [heq]
      · exact h.step ht
  | failStart created =>
    obtain ⟨pool, hfail, rfl⟩ := Option.map_eq_some_iff.mp hs
    cases h with
    | ordinary hfailed h =>
      obtain ⟨hemptied, hquiet⟩ := emptied_of_failStart hcnt h hfail
      exact .failed rfl hemptied ⟨hquiet.blocked, hquiet.adding, hquiet.stopping⟩
    | @failed c _ h _ => exact absurd (h.status.symm.trans (failStart_inv hfail).1) c.status_ne.1
  | notifyStart =>
    obtain ⟨hnotifying, heq⟩ := Option.ite_none_right_eq_some.mp hs
    obtain rfl := Option.some.inj heq
    cases h with
    | ordinary hfailed => cases hfailed.symm.trans hnotifying
    | failed hfailed h hquiet =>
      obtain rfl := Option.some.inj (hfailed.symm.trans hnotifying)
      exact .failed rfl (h.congr rfl) ⟨rfl, hquiet.adding, hquiet.stopping⟩
  | finishStart =>
    obtain ⟨hjoining, heq⟩ := Option.ite_none_right_eq_some.mp hs
    obtain ⟨pool, hfinish, rfl⟩ := Option.map_eq_some_iff.mp heq
    cases h with
    | ordinary hfailed => cases hfailed.symm.trans hjoining
    | failed hfailed h hquiet =>
      obtain rfl := Option.some.inj (hfailed.symm.trans hjoining)
      exact .failed rfl (h.finishStart hfinish) ⟨hquiet.blocked, hquiet.adding, hquiet.stopping⟩
  | throwStart =>
    obtain ⟨hleaving, heq⟩ := Option.ite_none_right_eq_some.mp hs
    obtain rfl := Option.some.inj heq
    cases h with
    | ordinary hfailed => cases hfailed.symm.trans hleaving
    | failed hfailed h hquiet =>
      obtain rfl := Option.some.inj (hfailed.symm.trans hleaving)
      exact .failed rfl (h.congr rfl) hquiet

theorem phase_of_reachable (hcnt : 0 < threadCnt)
    (h : (machine threadCnt maxQueueTasks).Reachable s) : Phase threadCnt maxQueueTasks s :=
  h.invariant (.ordinary rfl .init) fun _ _ _ _ hold hs => hold.step hcnt hs

/-! ### The pool after the throw -/

/-- The configuration never changes. -/
theorem config_of_reachable (h : (machine threadCnt maxQueueTasks).Reachable s) :
    s.base.base.pool.threadCnt_ = threadCnt ∧ s.base.base.pool.maxQueueTasks_ = maxQueueTasks := by
  refine h.invariant (P := fun s => s.base.base.pool.threadCnt_ = threadCnt ∧
    s.base.base.pool.maxQueueTasks_ = maxQueueTasks) ⟨rfl, rfl⟩ fun s a s' _ hold hs => ?_
  cases a with
  | act a =>
    obtain ⟨base, hstep, rfl⟩ := Option.map_eq_some_iff.mp hs
    rcases Condition.base_of_step hstep with heq | ⟨_, ht⟩
    · show base.base.pool.threadCnt_ = _ ∧ base.base.pool.maxQueueTasks_ = _
      rwa [heq]
    · exact ⟨ht.config.1.trans hold.1, ht.config.2.trans hold.2⟩
  | failStart created =>
    obtain ⟨pool, hfail, rfl⟩ := Option.map_eq_some_iff.mp hs
    obtain ⟨-, -, rfl⟩ := failStart_inv hfail
    exact hold
  | finishStart =>
    obtain ⟨-, heq⟩ := Option.ite_none_right_eq_some.mp hs
    obtain ⟨pool, hfinish, rfl⟩ := Option.map_eq_some_iff.mp heq
    obtain ⟨-, rfl⟩ := finishStop_inv hfinish
    exact hold
  | notifyStart | throwStart =>
    obtain ⟨-, heq⟩ := Option.ite_none_right_eq_some.mp hs
    obtain rfl := Option.some.inj heq
    exact hold

/-- What the caller of a `start` that has thrown finds. -/
theorem pool_of_threw (hcnt : 0 < threadCnt) (h : (machine threadCnt maxQueueTasks).Reachable s)
    (hthrew : s.failed = some .threw) :
    s.base.base.pool = (TaskThreadPool.init threadCnt maxQueueTasks).afterThrow := by
  obtain ⟨hthreadCnt, hmaxQueueTasks⟩ := config_of_reachable h
  cases phase_of_reachable hcnt h with
  | ordinary hfailed => cases hfailed.symm.trans hthrew
  | failed hfailed hemptied =>
    obtain rfl := Option.some.inj (hfailed.symm.trans hthrew)
    have hthreads := List.eq_nil_of_length_eq_zero hemptied.length
    calc s.base.base.pool
        = ⟨s.base.base.pool.status_, s.base.base.pool.threadCnt_, s.base.base.pool.maxQueueTasks_,
            s.base.base.pool.threads_, s.base.base.pool.tasks_⟩ := rfl
      _ = ⟨.STOPPED, threadCnt, maxQueueTasks, [], []⟩ := by
        rw [hemptied.status, hthreadCnt, hmaxQueueTasks, hthreads, hemptied.tasks]
        rfl

/-! ### What is left to do -/

/-- What a failed call of `start` has to do before it has thrown. -/
def duty : Option StartCall → ℕ
  | some .notifying => 3
  | some .joining => 2
  | some .leaving => 1
  | some .threw | none => 0

def rank (n : ℕ) (s : State) : ℕ := Condition.rank n s.base + duty s.failed

/-- What an action from outside adds. -/
def cost (n : ℕ) : Action → ℕ
  | .act a => Condition.cost n a
  | .failStart _ => n + 3
  | _ => 0

theorem rank_le_of_step (hcnt : 0 < threadCnt) (h : Phase threadCnt maxQueueTasks s)
    (hs : step s a = some s') :
    rank threadCnt.toNat s' + (if internal a then 1 else 0) ≤
      rank threadCnt.toNat s + cost threadCnt.toNat a := by
  cases a with
  | act a =>
    obtain ⟨base, hstep, rfl⟩ := Option.map_eq_some_iff.mp hs
    have hle : Condition.rank threadCnt.toNat base + (if Condition.internal a then 1 else 0) ≤
        Condition.rank threadCnt.toNat s.base + Condition.cost threadCnt.toNat a := by
      cases h with
      | ordinary _ h => exact Condition.rank_le_of_step hcnt h hstep
      | failed _ h hquiet =>
        refine (Condition.moves_of_step hstep).rank_le hquiet.awake ?_
        have hlt := h.created_lt
        rw [h.length]
        split_ifs <;> omega
    show Condition.rank _ base + duty s.failed + (if Condition.internal a then 1 else 0) ≤
      Condition.rank _ s.base + duty s.failed + Condition.cost _ a
    omega
  | failStart created =>
    obtain ⟨pool, hfail, rfl⟩ := Option.map_eq_some_iff.mp hs
    obtain ⟨-, -, rfl⟩ := failStart_inv hfail
    have hnew := Condition.sum_load_replicate created threadCnt.toNat s.base.blocked
    simp only [rank, Condition.rank, duty, cost, internal, Bool.false_eq_true, if_false]
    omega
  | notifyStart =>
    obtain ⟨hnotifying, heq⟩ := Option.ite_none_right_eq_some.mp hs
    obtain rfl := Option.some.inj heq
    cases h with
    | ordinary hfailed => cases hfailed.symm.trans hnotifying
    | failed _ _ hquiet =>
      simp only [rank, Condition.rank, duty, cost, internal, hnotifying, hquiet.blocked, if_true]
      omega
  | finishStart =>
    obtain ⟨hjoining, heq⟩ := Option.ite_none_right_eq_some.mp hs
    obtain ⟨pool, hfinish, rfl⟩ := Option.map_eq_some_iff.mp heq
    obtain ⟨hexited, rfl⟩ := finishStop_inv hfinish
    have hold := Condition.sum_load_exited hexited s.base.blocked threadCnt.toNat
    have hnew := @Condition.sum_load_exited [] (fun _ hmem => by cases hmem) s.base.blocked
      threadCnt.toNat
    simp only [rank, Condition.rank, duty, cost, internal, hjoining, hold, hnew, if_true]
    omega
  | throwStart =>
    obtain ⟨hleaving, heq⟩ := Option.ite_none_right_eq_some.mp hs
    obtain rfl := Option.some.inj heq
    simp only [rank, duty, cost, internal, hleaving, if_true]
    omega

theorem cost_of_internal {n : ℕ} (ha : internal a = true) : cost n a = 0 := by
  cases a with
  | act a => exact Condition.cost_of_internal ha
  | failStart => cases ha
  | notifyStart | finishStart | throwStart => rfl

theorem ranks (hcnt : 0 < threadCnt) :
    Machine.Ranks (machine threadCnt maxQueueTasks) (machine threadCnt maxQueueTasks).Reachable
      internal (rank threadCnt.toNat) (cost threadCnt.toNat) := by
  refine ⟨⟨fun s a s' hr hs => hr.step hs, fun s a s' hr ha hs => ?_⟩, fun s a s' hr ha hs => ?_⟩
  · have hle := rank_le_of_step hcnt (phase_of_reachable hcnt hr) hs
    rw [if_pos ha, cost_of_internal ha] at hle
    omega
  · have hle := rank_le_of_step hcnt (phase_of_reachable hcnt hr) hs
    rw [if_neg (by simp [ha])] at hle
    omega

/-! ### At rest -/

section Rest

variable (hrest : (machine threadCnt maxQueueTasks).Rest internal s)

include hrest

/-- The pool below is at rest too. -/
theorem Rest.base : (Condition.machine threadCnt maxQueueTasks).Rest Condition.internal s.base := by
  intro a ha
  exact Option.map_eq_none_iff.mp (hrest (.act a) ha)

/-- Nothing keeps a failed call of `start` from throwing. -/
theorem Rest.threw (h : Emptied threadCnt c created s.base.base) (hquiet : Quiet s.base)
    (hfailed : s.failed = some c) : c = .threw := by
  cases c with
  | threw => rfl
  | notifying =>
    have hnone : step s .notifyStart = none := hrest .notifyStart rfl
    simp [step, hfailed] at hnone
  | leaving =>
    have hnone : step s .throwStart = none := hrest .throwStart rfl
    simp [step, hfailed] at hnone
  | joining =>
    have hexited : ∀ x ∈ s.base.base.pool.threads_, x = .exited := fun x hx => by
      obtain ⟨w, hw⟩ := List.getElem?_of_mem hx
      refine (Condition.Rest.blocked_or_exited (Rest.base hrest) hw).resolve_left fun hmem => ?_
      rw [hquiet.blocked] at hmem
      cases hmem
    have hnone : step s .finishStart = none := hrest .finishStart rfl
    have hall : s.base.base.pool.finishStop ≠ none := by
      unfold finishStop
      rw [if_pos (List.all_eq_true.mpr fun x hx => by rw [hexited x hx])]
      exact Option.some_ne_none _
    simp only [step, hfailed, if_true, Option.map_eq_none_iff] at hnone
    exact absurd hnone hall

/-- Every call of `stop` has returned. -/
theorem Rest.returned (h : Emptied threadCnt c created s.base.base) :
    ∀ x ∈ s.base.base.stops, x = .returned := by
  intro x hx
  obtain ⟨k, hk⟩ := List.getElem?_of_mem hx
  exact (Condition.Rest.stops (Rest.base hrest) hk).resolve_right
    fun hjoining => h.stops x hx hjoining.1

end Rest

/-! ### The law -/

/-- What a call of `start` that fails leaves. -/
structure Failed (s : State) (c : StartCall) : Prop where
  /-- No task is accepted or run, before or after. -/
  useless : s.base.base.accepted = [] ∧ s.base.base.taken = [] ∧ s.base.base.finished = [] ∧
    s.base.base.pool.tasks_ = []
  /-- No worker blocks, so none has to be woken. -/
  awake : s.base.blocked = ∅
  /-- No call of `stop` joins the workers. -/
  stops : ∀ x ∈ s.base.base.stops, x ≠ .joining
  /-- When the call leaves, exactly the workers that were created have left, and the pool has
  stopped. -/
  clean : c = .leaving ∨ c = .threw → s.base.base.pool.status_ = .STOPPED ∧
    s.base.base.pool.threads_ = [] ∧ ∀ w, w ∈ s.base.base.exits ↔ w < s.created

/-- A `start` that cannot create its threads throws, and leaves nothing behind. -/
structure ThrowsCleanly (threadCnt : UInt8) (maxQueueTasks : Option ℕ) (s : State) : Prop where
  /-- Until `start` fails, the pool is the one without failures. -/
  ordinary : s.failed = none → (Condition.machine threadCnt maxQueueTasks).Reachable s.base
  failed : ∀ c, s.failed = some c → Failed s c
  /-- Whatever the order of the actions, only so many of them are the pool's own. -/
  bounded : ∀ as s', (machine threadCnt maxQueueTasks).Run s as s' →
    as.countP internal ≤ rank threadCnt.toNat s +
      Machine.costs internal (cost threadCnt.toNat) as
  /-- The pool can always come to rest without help from outside. -/
  rests : ∃ as s', (∀ a ∈ as, internal a = true) ∧
    (machine threadCnt maxQueueTasks).Run s as s' ∧
    (machine threadCnt maxQueueTasks).Rest internal s'
  /-- Once it does, a call of `start` that had failed has thrown and every call of `stop` has
  returned. -/
  settles : ∀ as s', (machine threadCnt maxQueueTasks).Run s as s' →
    (machine threadCnt maxQueueTasks).Rest internal s' →
    (s.failed ≠ none → s'.failed = some .threw) ∧
      ∀ x ∈ s'.base.base.stops, x = .returned

theorem Phase.law (h : Phase threadCnt maxQueueTasks s) (hfailed : s.failed = some c) :
    Failed s c := by
  cases h with
  | ordinary hnone => cases hnone.symm.trans hfailed
  | @failed c hsome h hquiet =>
    obtain rfl := Option.some.inj (hsome.symm.trans hfailed)
    refine ⟨⟨h.accepted, h.taken, h.finished, h.tasks⟩, hquiet.blocked, h.stops, fun hc => ?_⟩
    have hstopped : c.status = .STOPPED := by rcases hc with rfl | rfl <;> rfl
    have hlength := h.length
    rw [hstopped, if_neg (fun heq => by cases heq)] at hlength
    have hthreads := List.eq_nil_of_length_eq_zero hlength
    refine ⟨h.status.trans hstopped, hthreads, fun w => ?_⟩
    rw [h.exits w, hthreads, hstopped]
    simp

/-- A failed call of `start` stays failed. -/
theorem failed_of_step (hs : step s a = some s') (hfailed : s.failed ≠ none) :
    s'.failed ≠ none := by
  cases a with
  | act a =>
    obtain ⟨base, -, rfl⟩ := Option.map_eq_some_iff.mp hs
    exact hfailed
  | failStart created =>
    obtain ⟨pool, -, rfl⟩ := Option.map_eq_some_iff.mp hs
    exact Option.some_ne_none _
  | finishStart =>
    obtain ⟨-, heq⟩ := Option.ite_none_right_eq_some.mp hs
    obtain ⟨pool, -, rfl⟩ := Option.map_eq_some_iff.mp heq
    exact Option.some_ne_none _
  | notifyStart | throwStart =>
    obtain ⟨-, heq⟩ := Option.ite_none_right_eq_some.mp hs
    obtain rfl := Option.some.inj heq
    exact Option.some_ne_none _

/-- **A `start` that throws leaves nothing behind.** -/
theorem throwsCleanly_of_reachable (hcnt : 0 < threadCnt)
    (h : (machine threadCnt maxQueueTasks).Reachable s) :
    ThrowsCleanly threadCnt maxQueueTasks s := by
  have hranks := @ranks threadCnt maxQueueTasks hcnt
  refine ⟨fun hnone => ?_, fun c hc => (phase_of_reachable hcnt h).law hc,
    fun as s' hrun => hranks.internal_le h hrun, hranks.exists_rest h, fun as s' hrun hrest => ?_⟩
  · cases phase_of_reachable hcnt h with
    | ordinary _ hreach => exact hreach
    | failed hsome => cases hsome.symm.trans hnone
  · have hstays : s.failed ≠ none → s'.failed ≠ none := by
      refine hrun.relates (R := fun s s' : State => s.failed ≠ none → s'.failed ≠ none) ?_ ?_ ?_ h
      · exact fun s => id
      · exact fun s t s' hst hts hne => hts (hst hne)
      · exact fun s a s' _ hs => failed_of_step hs
    cases phase_of_reachable hcnt (hrun.reachable h) with
    | ordinary hnone hreach =>
      refine ⟨fun hne => absurd hnone (hstays hne), ?_⟩
      have hbooks := books_of_reachable hcnt (Condition.base_of_reachable hreach)
      exact (Condition.Rest.settled (Rest.base hrest) (Condition.awake_of_reachable hcnt hreach)
        hbooks).returned
    | failed hsome hemptied hquiet =>
      obtain rfl := Rest.threw hrest hemptied hquiet hsome
      exact ⟨fun _ => hsome, Rest.returned hrest hemptied⟩

/-- Two of three threads are created; one of the workers leaves before `notify_all`, and a call of
`stop` returns while the other is still there. -/
def failing : List Action :=
  [.failStart 2, .act (.turn (.exit 1)), .act (.turn (.addTask false)), .act (.turn .stop),
    .act (.turn (.returnStop 0)), .notifyStart, .act (.turn (.exit 0)), .finishStart]

theorem throwsCleanly_failing :
    ThrowsCleanly 3 none ((machine 3 none).after failing) ∧
      ((machine 3 none).after failing).failed = some .leaving ∧
      ((machine 3 none).after failing).base.base.exits = [0, 1] ∧
      ((machine 3 none).after failing).base.base.refused = [0] ∧
      rank 3 ((machine 3 none).after failing) = 1 :=
  ⟨throwsCleanly_of_reachable (by decide) (Machine.reachable_after failing), by decide, by decide,
    by decide, by decide⟩

end Startup

end MiniRpc.TaskThreadPool
