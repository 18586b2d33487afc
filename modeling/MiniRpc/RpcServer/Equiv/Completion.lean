import MiniRpc.RpcServer.Equiv.Shutdown
import MiniRpc.RpcServer.Equiv.Work

/-!
# The server completes its work, and `stop` completes

`Orderly` is what the report of the worker pool depends on: the thread that stops the pool has
queued its report or the report has been taken, the stopping never waits with both reports there,
and every worker that the pool thinks is running a task is in the middle of it.

Together with the rank of `Work` it says that a server which can take no step by itself has nothing
left to do: no operation is in progress, no task is queued, and a server that was told to stop has
stopped once its TCP server has.
-/

namespace MiniRpc.RpcServer

variable {cfg : Config} {s s' : State} {a : Action}

/-! ### The reports and the workers -/

/-- The workers that run a task are in the middle of it. -/
def Staffed (w : Work) : Prop :=
  ∀ pool ∈ w.taskPool_, ∀ n inv, pool.threads_[n]? = some (.running inv) →
    (n, inv) ∈ workerTasks w.running

/-- What holds of the reports on which the stopping waits. -/
structure Orderly (w : Work) : Prop where
  /-- Nothing is reported before `stop`. -/
  early : w.status_ = .kNotStarted ∨ w.status_ = .kRunning →
    w.tcpServerStopped_ = false ∧ w.taskPoolStopped_ = false
  /-- The stopping does not wait once both sides have been reported. -/
  pending : w.status_ = .kStopping →
    ¬ (w.tcpServerStopped_ = true ∧ w.taskPoolStopped_ = true)
  /-- The thread that stopped the pool has queued its report. -/
  reported : w.taskPoolStopThread_ = .finished →
    (∃ l, (l, .onTaskPoolStopped) ∈ w.tasks) ∨ w.taskPoolStopped_ = true
  /-- Without a pool there is nothing to wait for. -/
  alone : w.taskPool_ = none → w.taskPoolStopThread_ = .none ∧
    (∀ l, (l, .onTaskPoolStopped) ∉ w.tasks) ∧
    (w.status_ = .kStopping ∨ w.status_ = .kStopped → w.taskPoolStopped_ = true)
  staffed : Staffed w

theorem orderly_init : Orderly (State.init cfg).work where
  early _ := ⟨rfl, rfl⟩
  pending h := by cases h
  reported h := by cases h
  alone _ := ⟨rfl, fun _ hmem => (by cases hmem), fun h => by rcases h with h | h <;> cases h⟩
  staffed pool hpool n inv hn := by
    obtain ⟨workers, -, rfl⟩ := Option.map_eq_some_iff.mp hpool
    cases hn

/-- Whatever has been reported, the stopping is completed when it can be. -/
theorem Orderly.complete {w : Work} (early : w.status_ = .kNotStarted ∨ w.status_ = .kRunning →
      w.tcpServerStopped_ = false ∧ w.taskPoolStopped_ = false)
    (reported : w.taskPoolStopThread_ = .finished →
      (∃ l, (l, .onTaskPoolStopped) ∈ w.tasks) ∨ w.taskPoolStopped_ = true)
    (alone : w.taskPool_ = none → w.taskPoolStopThread_ = .none ∧
      (∀ l, (l, .onTaskPoolStopped) ∉ w.tasks) ∧
      (w.status_ = .kStopping ∨ w.status_ = .kStopped → w.taskPoolStopped_ = true))
    (staffed : Staffed w) : Orderly w.complete := by
  unfold Work.complete
  split_ifs with hboth
  · refine ⟨fun h => ?_, fun h => (by cases h), reported, fun hpool => ?_, staffed⟩
    · rcases h with h | h <;> cases h
    · exact ⟨(alone hpool).1, (alone hpool).2.1, fun _ => hboth.2.2⟩
  · exact ⟨early, fun hstatus h => hboth ⟨hstatus, h⟩, reported, alone, staffed⟩

/-- The pool and the operations change, the reports do not. -/
theorem Orderly.of_same {w w' : Work} (h : Orderly w) (hstatus : w'.status_ = w.status_)
    (htcp : w'.tcpServerStopped_ = w.tcpServerStopped_)
    (hstopped : w'.taskPoolStopped_ = w.taskPoolStopped_)
    (hthread : w'.taskPoolStopThread_ = w.taskPoolStopThread_)
    (htasks : ∀ l, (l, .onTaskPoolStopped) ∈ w'.tasks ↔ (l, .onTaskPoolStopped) ∈ w.tasks)
    (hpool : w'.taskPool_ = none → w.taskPool_ = none) (hstaffed : Staffed w') : Orderly w' where
  early := by
    rw [hstatus, htcp, hstopped]
    exact h.early
  pending := by
    rw [hstatus, htcp, hstopped]
    exact h.pending
  reported := by
    simp only [hthread, hstopped, htasks]
    exact h.reported
  alone hnone := by
    simp only [hthread, hstatus, hstopped, htasks]
    exact h.alone (hpool hnone)
  staffed := hstaffed

/-! ### The operations -/

theorem staffed_of_perm {w w' : Work} (h : Staffed w)
    (hthreads : ∀ pool' ∈ w'.taskPool_, ∃ pool ∈ w.taskPool_, ∀ (n : ℕ) (inv : Invocation),
      pool'.threads_[n]? = some (Worker.running inv) →
        pool.threads_[n]? = some (Worker.running inv))
    (hrunning : (workerTasks w'.running).Perm (workerTasks w.running)) : Staffed w' := by
  intro pool' hpool' n inv hn
  obtain ⟨pool, hpool, hold⟩ := hthreads pool' hpool'
  exact hrunning.mem_iff.mpr (h pool hpool n inv (hold n inv hn))

/-- A worker that goes on to something else is not running a task. -/
theorem running_of_set {threads : List (Worker Invocation)} {n n' : ℕ} {x : Worker Invocation}
    {inv : Invocation} (hx : ∀ inv, x ≠ .running inv)
    (h : (threads.set n x)[n']? = some (.running inv)) :
    n ≠ n' ∧ threads[n']? = some (.running inv) := by
  have hne : n ≠ n' := by
    rintro rfl
    by_cases hlt : n < threads.length
    · rw [List.getElem?_set_self hlt] at h
      exact hx inv (Option.some.inj h)
    · have hlen := Nat.le_of_not_lt hlt
      rw [List.set_eq_of_length_le hlen, List.getElem?_eq_none hlen] at h
      cases h
  rw [List.getElem?_set_ne hne] at h
  exact ⟨hne, h⟩

/-- An operation ends, and its worker is ready for the next task. -/
theorem staffed_release {w : Work} {k : ℕ} {t : Thread} {activity : Activity} (h : Staffed w)
    (hk : w.running[k]? = some (t, activity)) : Staffed (w.release k t) := by
  have hperm : (workerTasks w.running).Perm ((workerTask (t, activity)).toList ++
      workerTasks (w.running.eraseIdx k)) :=
    @workerTasks_eraseIdx { State.init (.ofHandlers ∅ ∅) with running := w.running } k _ hk
  cases t with
  | worker m =>
    intro pool' hpool' n inv hn
    obtain ⟨pool, hpool, rfl⟩ := Option.map_eq_some_iff.mp hpool'
    obtain ⟨hne, hn⟩ := running_of_set (fun inv heq => by cases heq) hn
    rcases List.mem_append.mp (hperm.mem_iff.mp (h pool hpool n inv hn)) with hhead | hrest
    · -- the task of worker `m` is not that of another worker
      obtain rfl := congrArg Prod.fst (List.mem_singleton.mp hhead)
      exact absurd rfl hne
    · exact hrest
  | loop | user =>
    exact staffed_of_perm h (fun pool hpool => ⟨pool, hpool, fun _ _ => id⟩) hperm.symm

/-- An operation goes on, for the same invocation on the same thread. -/
theorem staffed_set {w : Work} {k : ℕ} {t : Thread} {activity activity' : Activity}
    (h : Staffed w) (hk : w.running[k]? = some (t, activity))
    (hinv : activity'.inv = activity.inv) :
    Staffed { w with running := w.running.set k (t, activity') } := by
  have htask : workerTask (t, activity') = workerTask (t, activity) := by
    cases t with
    | worker n => exact congrArg (fun inv => some (n, inv)) hinv
    | loop | user => rfl
  have hperm : (workerTasks (w.running.set k (t, activity'))).Perm (workerTasks w.running) :=
    @workerTasks_set { State.init (.ofHandlers ∅ ∅) with running := w.running } k _ _ hk htask
  exact staffed_of_perm h (fun pool hpool => ⟨pool, hpool, fun _ _ => id⟩) hperm

theorem release_frame (w : Work) (k : ℕ) (t : Thread) : (w.release k t).status_ = w.status_ ∧
    (w.release k t).tcpServerStopped_ = w.tcpServerStopped_ ∧
    (w.release k t).taskPoolStopped_ = w.taskPoolStopped_ ∧
    (w.release k t).taskPoolStopThread_ = w.taskPoolStopThread_ ∧
    (w.release k t).tasks = w.tasks ∧ ((w.release k t).taskPool_ = none → w.taskPool_ = none) := by
  cases t with
  | worker n => exact ⟨rfl, rfl, rfl, rfl, rfl, Option.map_eq_none_iff.mp⟩
  | loop | user => exact ⟨rfl, rfl, rfl, rfl, rfl, id⟩

theorem Orderly.release {w : Work} {k : ℕ} {t : Thread} {activity : Activity} (h : Orderly w)
    (hk : w.running[k]? = some (t, activity)) : Orderly (w.release k t) := by
  obtain ⟨hstatus, htcp, hstopped, hthread, htasks, hpool⟩ := release_frame w k t
  exact h.of_same hstatus htcp hstopped hthread (fun l => by rw [htasks]) hpool
    (staffed_release h.staffed hk)

/-! ### The steps -/

/-- The stage of the stopping, where there is a pool. -/
def Staged (w : Work) : Prop :=
  ∀ pool ∈ w.taskPool_, Stage w.status_ w.taskPoolStopThread_ pool.status_ ∧
    ((∃ l, (l, .onTaskPoolStopped) ∈ w.tasks) ∨ w.taskPoolStopped_ = true →
      w.taskPoolStopThread_ = .finished)

/-- A report that is queued is that of a thread that has stopped the pool of a stopping server. -/
theorem Orderly.of_queued {w : Work} (h : Orderly w) (hstaged : Staged w) {l : LoopId}
    (hmem : (l, .onTaskPoolStopped) ∈ w.tasks) :
    w.taskPoolStopThread_ = .finished ∧ ¬ (w.status_ = .kNotStarted ∨ w.status_ = .kRunning) ∧
      w.taskPool_ ≠ none := by
  cases hpool : w.taskPool_ with
  | none => exact absurd hmem ((h.alone hpool).2.1 l)
  | some pool =>
    obtain ⟨hstage, hfinished⟩ := hstaged pool hpool
    have hthread := hfinished (.inl ⟨l, hmem⟩)
    rw [hthread] at hstage
    refine ⟨hthread, fun hstatus => ?_, by simp⟩
    rcases hstatus with hstatus | hstatus <;> rw [hstatus] at hstage <;> cases hstage

theorem Orderly.step {w w' : Work} (h : Orderly w) (hstaged : Staged w) (hs : WorkStep w a w') :
    Orderly w' := by
  cases hs with
  | idle => exact h
  | arrive | userReply =>
    exact h.of_same rfl rfl rfl rfl (fun _ => Iff.rfl) id h.staffed
  | next hk hlt hinv =>
    exact h.of_same rfl rfl rfl rfl (fun _ => Iff.rfl) id (staffed_set h.staffed hk hinv)
  | leave hk => exact h.release hk
  | @accept k t inv pool pool' hk hpool hadd =>
    obtain ⟨task, -, -, -, rfl⟩ := TaskThreadPool.addTask_inv hadd
    have haccepted : Orderly { w with
        taskPool_ := some { pool with tasks_ := pool.tasks_ ++ [task] } } := by
      refine h.of_same rfl rfl rfl rfl (fun _ => Iff.rfl) (fun heq => by cases heq) ?_
      rintro _ ⟨⟩ n inv hn
      exact h.staffed pool hpool n inv hn
    exact haccepted.release hk
  | @queueReply k t inv r l hk =>
    have hqueued : Orderly { w with tasks := w.tasks ++ [(l, .reply inv (replyResult r))] } :=
      h.of_same rfl rfl rfl rfl (fun l => by simp) id h.staffed
    exact hqueued.release hk
  | @runReply l inv r hfirst =>
    have hperm := Channel.perm_of_first hfirst
    refine h.of_same rfl rfl rfl rfl (fun l' => ?_) id h.staffed
    show (l', .onTaskPoolStopped) ∈ w.tasks.dropFirst l ↔ _
    rw [hperm.mem_iff]
    simp
  | @onTaskPoolStopped l hfirst =>
    obtain ⟨hthread, hstatus, hpool⟩ := h.of_queued hstaged (Channel.mem_of_first hfirst)
    exact .complete (fun heq => absurd heq hstatus) (fun _ => .inr rfl)
      (fun heq => absurd heq hpool) h.staffed
  | start hstatus =>
    refine ⟨fun _ => h.early (.inl hstatus), fun heq => (by cases heq), h.reported,
      fun heq => ?_, ?_⟩
    · obtain ⟨hthread, htasks, -⟩ := h.alone (Option.map_eq_none_iff.mp heq)
      exact ⟨hthread, htasks, fun hstopping => by rcases hstopping with h | h <;> cases h⟩
    · intro pool' hpool' n inv hn
      obtain ⟨pool, hpool, rfl⟩ := Option.map_eq_some_iff.mp hpool'
      have hnot := ((hstatus ▸ (hstaged pool hpool).1)).of_notStarted.2
      -- the workers are new
      rw [TaskThreadPool.start_of_eq hnot] at hn
      cases List.eq_of_mem_replicate (List.mem_of_getElem? hn)
  | @stop pool hstatus hpool =>
    obtain ⟨htcp, hstopped⟩ := h.early (.inr hstatus)
    refine ⟨fun heq => ?_, fun _ hboth => ?_, fun heq => (by cases heq), fun heq => ?_, h.staffed⟩
    · rcases heq with heq | heq <;> cases heq
    · cases htcp.symm.trans hboth.1
    · cases hpool.symm.trans heq
  | stopAlone hstatus hpool =>
    obtain ⟨hthread, htasks, -⟩ := h.alone hpool
    refine .complete (fun heq => ?_) (fun _ => .inr rfl) (fun _ => ⟨hthread, htasks, fun _ => rfl⟩)
      h.staffed
    rcases heq with heq | heq <;> cases heq
  | tcpServerStopped hstatus =>
    exact .complete (fun heq => absurd heq hstatus) h.reported h.alone h.staffed
  | @poolBeginStop pool hpool hthread =>
    refine ⟨h.early, h.pending, fun heq => (by cases heq), fun heq => (by cases heq), ?_⟩
    rintro _ ⟨⟩ n inv hn
    refine h.staffed pool hpool n inv ?_
    cases hbegin : pool.beginStop with
    | none => rwa [hbegin] at hn
    | some pool' =>
      obtain ⟨-, rfl⟩ := TaskThreadPool.beginStop_inv hbegin
      rwa [hbegin] at hn
  | @poolFinishStop pool pool' hpool hthread hfinish =>
    obtain ⟨-, rfl⟩ := TaskThreadPool.finishStop_inv hfinish
    refine ⟨h.early, h.pending, fun _ => .inl ⟨0, by simp⟩, fun heq => (by cases heq), ?_⟩
    rintro _ ⟨⟩ n inv hn
    cases hn
  | @workerTake n pool pool' inv hpool htake =>
    obtain ⟨tasks, hn, -, rfl⟩ := TaskThreadPool.take_inv htake
    refine h.of_same rfl rfl rfl rfl (fun _ => Iff.rfl) (fun heq => by cases heq) ?_
    rintro _ ⟨⟩ n' inv' hn'
    by_cases hne : n = n'
    · subst hne
      have hset : (pool.threads_.set n (.running inv))[n]? = some (.running inv) :=
        List.getElem?_set_self (List.getElem?_eq_some_iff.mp hn).1
      obtain rfl := Worker.running.inj (Option.some.inj (hset.symm.trans hn'))
      exact List.mem_cons_self
    · have hold : pool.threads_[n']? = some (.running inv') := by
        rwa [← List.getElem?_set_ne hne]
      exact .tail _ (h.staffed pool hpool n' inv' hold)
  | @workerExit n pool pool' hpool hexit =>
    obtain ⟨-, -, -, rfl⟩ := TaskThreadPool.exit_inv hexit
    refine h.of_same rfl rfl rfl rfl (fun _ => Iff.rfl) (fun heq => by cases heq) ?_
    rintro _ ⟨⟩ n' inv' hn'
    exact h.staffed pool hpool n' inv' (running_of_set (fun inv heq => by cases heq) hn').2

/-! ### The states of a run -/

/-- A server without workers never gets a pool. -/
theorem taskPool_of_workers (hworkers : cfg.workers = none) (h : (machine cfg).Reachable s) :
    s.taskPool_ = none := by
  refine h.invariant (P := fun s => s.taskPool_ = none) ?_ fun s a s' _ hold hs => ?_
  · show cfg.workers.map _ = none
    rw [hworkers, Option.map_none]
  · have hnone : s.work.taskPool_ = none := hold
    have hcomplete : ∀ w : Work, w.complete.taskPool_ = w.taskPool_ := fun w => by
      unfold Work.complete
      split_ifs <;> rfl
    have hrelease : ∀ (w : Work) (k : ℕ) (t : Thread), w.taskPool_ = none →
        (w.release k t).taskPool_ = none := fun w k t hw => by
      cases t with
      | worker n => exact Option.map_eq_none_iff.mpr hw
      | loop | user => exact hw
    show s'.work.taskPool_ = none
    have hstep := workStep_of_step hs
    generalize s'.work = w' at hstep
    cases hstep with
    | idle | arrive | userReply | next | runReply => exact hnone
    | leave | queueReply => exact hrelease _ _ _ hnone
    | onTaskPoolStopped | stopAlone | tcpServerStopped => exact (hcomplete _).trans hnone
    | start => exact Option.map_eq_none_iff.mpr hnone
    | stop _ hpool | accept _ hpool | poolBeginStop hpool | poolFinishStop hpool
    | workerTake hpool | workerExit hpool => cases hnone.symm.trans hpool

/-- A server that has a pool controls it. -/
theorem controlled_of_pool (h : (machine cfg).Reachable s) {pool : TaskThreadPool Invocation}
    (hpool : s.taskPool_ = some pool) : Controlled s pool := by
  cases hworkers : cfg.workers with
  | none => cases (taskPool_of_workers hworkers h).symm.trans hpool
  | some workers =>
    obtain ⟨pool', hcontrolled⟩ := controlled_of_reachable hworkers h
    obtain rfl := Option.some.inj (hcontrolled.taskPool.symm.trans hpool)
    exact hcontrolled

theorem staged_of_reachable (h : (machine cfg).Reachable s) : Staged s.work := fun _ hpool =>
  have hcontrolled := controlled_of_pool h hpool
  ⟨hcontrolled.stage, hcontrolled.queued⟩

theorem orderly_of_reachable (h : (machine cfg).Reachable s) : Orderly s.work :=
  h.invariant (P := fun s => Orderly s.work) orderly_init fun _ _ _ hr hold hs =>
    hold.step (staged_of_reachable hr) (workStep_of_step hs)

/-- `stop` is not taken back. -/
theorem stopping_of_step (h : Stopping s) (hs : step cfg s a = some s') : Stopping s' := by
  have hne : ¬ (s.work.status_ = .kNotStarted ∨ s.work.status_ = .kRunning) := by
    rintro (heq | heq) <;> rcases h with h | h <;> cases h.symm.trans heq
  have hcomplete : ∀ w : Work, w.status_ = .kStopping ∨ w.status_ = .kStopped →
      w.complete.status_ = .kStopping ∨ w.complete.status_ = .kStopped := fun w hw => by
    unfold Work.complete
    split_ifs
    · exact .inr rfl
    · exact hw
  have hrelease : ∀ (w : Work) (k : ℕ) (t : Thread),
      w.status_ = .kStopping ∨ w.status_ = .kStopped →
      (w.release k t).status_ = .kStopping ∨ (w.release k t).status_ = .kStopped :=
    fun w k t hw => by
      rw [(release_frame w k t).1]
      exact hw
  show s'.work.status_ = .kStopping ∨ s'.work.status_ = .kStopped
  have hstep := workStep_of_step hs
  generalize s'.work = w' at hstep
  cases hstep with
  | start heq => exact absurd (.inl heq) hne
  | stop heq => exact .inl rfl
  | onTaskPoolStopped | tcpServerStopped => exact hcomplete _ h
  | stopAlone => exact hcomplete _ (.inl rfl)
  | leave | accept | queueReply => exact hrelease _ _ _ h
  | _ => exact h

/-! ### At rest -/

/-- What has been done when no thread of the server can go on. -/
structure Finished (s : State) : Prop where
  /-- No operation is in progress and no task is queued, in a loop or in the pool. -/
  running : s.running = []
  tasks : s.tasks = []
  queue : poolTasks s.taskPool_ = []
  /-- A pool that was to be stopped has stopped, and every worker has left. -/
  pool : Stopping s → ∀ pool ∈ s.taskPool_, pool.status_ = .STOPPED ∧ pool.threads_ = []
  /-- A server that was told to stop has stopped, or waits for its TCP server only. -/
  stopped : Stopping s → s.tcpServerStopped_ = true → s.status_ = .kStopped

section Rest

variable (hrest : (machine cfg).Rest internal s)

include hrest

theorem Rest.running_eq : s.running = [] := by
  cases hrunning : s.running with
  | nil => rfl
  | cons r rest =>
    obtain ⟨t, activity⟩ := r
    cases activity with
    | submit inv =>
      have hnone : step cfg s (.submit 0) = none := hrest (.submit 0) rfl
      simp [step, hrunning, proceed] at hnone
    | handler inv =>
      have hnone : step cfg s (.handlerReturns 0) = none := hrest (.handlerReturns 0) rfl
      simp [step, hrunning, proceed] at hnone
    | reply inv r =>
      have hnone : step cfg s (.queueReply 0) = none := hrest (.queueReply 0) rfl
      simp [step, hrunning, proceed] at hnone

/-- No loop is busy, so none has a task. -/
theorem Rest.tasks_eq : s.tasks = [] := by
  have hrunning := Rest.running_eq hrest
  cases htasks : s.tasks with
  | nil => rfl
  | cons f rest =>
    obtain ⟨l, task⟩ := f
    have hnone : step cfg s (.runTask l) = none := hrest (.runTask l) rfl
    simp [step, stepConnection, State.busy, hrunning, htasks, Channel.first] at hnone

/-- A worker that has not left waits for a task, and there is none. -/
theorem Rest.waiting {pool : TaskThreadPool Invocation} (hpool : s.taskPool_ = some pool)
    (hstaffed : Staffed s.work) {x : Worker Invocation} (hx : x ∈ pool.threads_) :
    x = .exited ∨ x = .waiting ∧ pool.tasks_ = [] ∧ pool.status_ = .RUNNING := by
  obtain ⟨n, hn⟩ := List.getElem?_of_mem hx
  cases x with
  | exited => exact .inl rfl
  | running inv =>
    have hmem := hstaffed pool hpool n inv hn
    rw [show s.work.running = [] from Rest.running_eq hrest] at hmem
    cases hmem
  | waiting =>
    right
    cases htasks : pool.tasks_ with
    | cons inv tasks =>
      have hnone : step cfg s (.workerTake n) = none := hrest (.workerTake n) rfl
      simp [step, hpool, stepPool, TaskThreadPool.take, hn, htasks] at hnone
    | nil =>
      refine ⟨rfl, rfl, ?_⟩
      by_contra hstatus
      have hnone : step cfg s (.workerExit n) = none := hrest (.workerExit n) rfl
      simp [step, hpool, stepPool, TaskThreadPool.exit, hn, htasks, hstatus] at hnone

/-- The thread that stops the pool is not on its way. -/
theorem Rest.thread {pool : TaskThreadPool Invocation} (hcontrolled : Controlled s pool)
    (hstaffed : Staffed s.work) :
    s.taskPoolStopThread_ = .none ∨ s.taskPoolStopThread_ = .finished := by
  have hpool := hcontrolled.taskPool
  cases hthread : s.taskPoolStopThread_ with
  | none => exact .inl rfl
  | finished => exact .inr rfl
  | spawned =>
    have hnone : step cfg s .poolBeginStop = none := hrest .poolBeginStop rfl
    simp [step, hpool, stepPool, hthread] at hnone
  | joining =>
    -- the pool is stopping, so its workers have left
    have hstatus := (hthread ▸ hcontrolled.stage).of_joining.2
    have hexited : ∀ x ∈ pool.threads_, x = .exited := fun x hx =>
      (Rest.waiting hrest hpool hstaffed hx).resolve_right fun h => by
        cases hstatus.symm.trans h.2.2
    have hfinish : pool.finishStop = some { pool with threads_ := [], status_ := .STOPPED } := by
      unfold TaskThreadPool.finishStop
      exact if_pos (List.all_eq_true.mpr fun x hx => by rw [hexited x hx])
    have hnone : step cfg s .poolFinishStop = none := hrest .poolFinishStop rfl
    simp [step, hpool, stepPool, hthread, hfinish] at hnone

/-- Nothing is queued in the pool. -/
theorem Rest.queue_eq {pool : TaskThreadPool Invocation} (hcontrolled : Controlled s pool)
    (hstaffed : Staffed s.work) : pool.tasks_ = [] := by
  have hsound := hcontrolled.sound
  by_contra hne
  have hactive : pool.status_ = .RUNNING ∨ pool.status_ = .STOPPING := by
    cases hstatus : pool.status_ with
    | NOT_START => exact absurd (hsound.idle hstatus).2 hne
    | RUNNING => exact .inl rfl
    | STOPPING => exact .inr rfl
    | STOPPED => exact absurd (hsound.stopped hstatus).2 hne
  have hpos : 0 < pool.threads_.length :=
    hsound.workers hactive ▸ UInt8.lt_iff_toNat_lt.mp hcontrolled.threadCnt
  have hmem := List.getElem_mem hpos
  rcases Rest.waiting hrest hcontrolled.taskPool hstaffed hmem with hexited | ⟨-, htasks, -⟩
  · exact hne (hsound.exited (hexited ▸ hmem)).2
  · exact hne htasks

theorem Rest.finished (hreach : (machine cfg).Reachable s) : Finished s := by
  have horderly := orderly_of_reachable hreach
  have htasks := Rest.tasks_eq hrest
  -- where there is a pool, the thread that stops it has not begun or has ended
  have hthread : ∀ pool, s.taskPool_ = some pool → Stopping s →
      s.taskPoolStopThread_ = .finished ∧ pool.status_ = .STOPPED := by
    intro pool hpool hstopping
    have hcontrolled := controlled_of_pool hreach hpool
    have hstage := hcontrolled.stage
    have hfinished : s.taskPoolStopThread_ = .finished := by
      rcases Rest.thread hrest hcontrolled horderly.staffed with heq | heq
      · rw [heq] at hstage
        rcases hstopping with hstatus | hstatus <;> rw [hstatus] at hstage <;> cases hstage
      · exact heq
    exact ⟨hfinished, (hfinished ▸ hstage).of_finished⟩
  refine ⟨Rest.running_eq hrest, htasks, ?_, fun hstopping pool hpool => ?_,
    fun hstopping htcp => ?_⟩
  · cases hpool : s.taskPool_ with
    | none => rfl
    | some pool => exact Rest.queue_eq hrest (controlled_of_pool hreach hpool) horderly.staffed
  · have hstopped := (hthread pool hpool hstopping).2
    exact ⟨hstopped, ((controlled_of_pool hreach hpool).sound.stopped hstopped).1⟩
  · -- the pool has reported, so the stopping does not wait any more
    refine hstopping.resolve_left fun hstatus => horderly.pending hstatus ⟨htcp, ?_⟩
    cases hpool : s.taskPool_ with
    | none => exact (horderly.alone hpool).2.2 hstopping
    | some pool =>
      rcases horderly.reported (hthread pool hpool hstopping).1 with ⟨l, hmem⟩ | hstopped
      · rw [show s.work.tasks = [] from htasks] at hmem
        cases hmem
      · exact hstopped

end Rest

/-! ### The law -/

/-- A server does what it has to do and comes to rest, and its `stop` completes. -/
structure Completes (cfg : Config) (s : State) : Prop where
  /-- Whatever the order of the actions, only so many of them are the server's own. -/
  bounded : ∀ as s', (machine cfg).Run s as s' →
    as.countP internal ≤ s.work.rank + Machine.costs internal Work.cost as
  /-- The server can always come to rest without help from outside. -/
  rests : ∃ as s', (∀ a ∈ as, internal a = true) ∧ (machine cfg).Run s as s' ∧
    (machine cfg).Rest internal s'
  /-- Once it does, nothing is left to do. -/
  settles : ∀ as s', (machine cfg).Run s as s' → (machine cfg).Rest internal s' → Finished s'
  /-- A `stop` has completed by then if the TCP server has stopped. -/
  stops : ∀ as s', (machine cfg).Run s as s' → (machine cfg).Rest internal s' → Stopping s →
    s'.tcpServerStopped_ = true → s'.status_ = .kStopped

/-- **The server completes its work**, and a graceful `stop` completes. -/
theorem completes_of_reachable (h : (machine cfg).Reachable s) : Completes cfg s := by
  have hranks := ranks cfg
  refine ⟨fun as s' hrun => hranks.internal_le trivial hrun, hranks.exists_rest trivial,
    fun as s' hrun hrest => Rest.finished hrest (hrun.reachable h), ?_⟩
  intro as s' hrun hrest hstopping
  have hstopping' : Stopping s' := by
    refine hrun.relates (R := fun s s' : State => Stopping s → Stopping s') ?_ ?_ ?_ h hstopping
    · exact fun _ => id
    · exact fun _ _ _ hst hts hs => hts (hst hs)
    · exact fun _ _ _ _ hs hold => stopping_of_step hold hs
  exact (Rest.finished hrest (hrun.reachable h)).stopped hstopping'

/-- The server is stopped while a handler is running and another task is queued. -/
def stoppingBusy : List Action :=
  let request : RpcRequest := ⟨5, text "s", text "m", text "p"⟩
  [.start, .connectionUp 3, .deliver 3 request.fields.flatten none, .submit 0, .workerTake 0,
    .deliver 3 (RpcRequest.mk 6 (text "s") (text "m") (text "p")).fields.flatten none, .submit 0,
    .stop, .tcpServerStopped]

theorem completes_stoppingBusy :
    Completes workerServer ((machine workerServer).after stoppingBusy) ∧
      ((machine workerServer).after stoppingBusy).status_ = .kStopping ∧
      ((machine workerServer).after stoppingBusy).work.rank = 13 :=
  ⟨completes_of_reachable (Machine.reachable_after stoppingBusy), by decide +kernel,
    by decide +kernel⟩

end MiniRpc.RpcServer
