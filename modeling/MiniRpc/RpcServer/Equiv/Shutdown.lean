import MiniRpc.Machine.History
import MiniRpc.RpcServer.Equiv.Control

/-!
# Stopping the server

`stop` starts two things that end independently: the TCP server stops, and the worker pool drains
its queue.  `Stage` are the combinations of states they go through, `Controlled` says that the
server is in one of them and that its workers run the tasks the pool thinks they run, and
`Accounted` that every accepted task is queued, running or has returned.
-/

namespace MiniRpc.RpcServer

variable {cfg : Config} {s s' : State} {pool : TaskThreadPool Invocation}

/-! ### The stages -/

/-- The states of the server, of the thread that stops the pool and of the pool. -/
inductive Stage : Status → TaskPoolStopThread → TaskThreadPoolStatus → Prop
  | notStarted : Stage .kNotStarted .none .NOT_START
  | running : Stage .kRunning .none .RUNNING
  | spawned : Stage .kStopping .spawned .RUNNING
  | joining : Stage .kStopping .joining .STOPPING
  | finished : Stage .kStopping .finished .STOPPED
  | stopped : Stage .kStopped .finished .STOPPED

section

variable {status : Status} {thread : TaskPoolStopThread} {poolStatus : TaskThreadPoolStatus}

theorem Stage.of_notStarted (h : Stage .kNotStarted thread poolStatus) :
    thread = .none ∧ poolStatus = .NOT_START := by
  cases h
  exact ⟨rfl, rfl⟩

theorem Stage.of_running (h : Stage .kRunning thread poolStatus) :
    thread = .none ∧ poolStatus = .RUNNING := by
  cases h
  exact ⟨rfl, rfl⟩

theorem Stage.of_spawned (h : Stage status .spawned poolStatus) :
    status = .kStopping ∧ poolStatus = .RUNNING := by
  cases h
  exact ⟨rfl, rfl⟩

theorem Stage.of_joining (h : Stage status .joining poolStatus) :
    status = .kStopping ∧ poolStatus = .STOPPING := by
  cases h
  exact ⟨rfl, rfl⟩

theorem Stage.of_finished (h : Stage status .finished poolStatus) : poolStatus = .STOPPED := by
  cases h with
  | finished | stopped => rfl

theorem Stage.of_stopped (h : Stage .kStopped thread poolStatus) : poolStatus = .STOPPED := by
  cases h
  rfl

end

/-- What holds of a server with a worker pool between its steps. -/
structure Controlled (s : State) (pool : TaskThreadPool Invocation) : Prop where
  taskPool : s.taskPool_ = some pool
  threadCnt : 0 < pool.threadCnt_
  sound : pool.Sound
  stage : Stage s.status_ s.taskPoolStopThread_ pool.status_
  /-- The end of the pool is reported after it has stopped. -/
  queued : (∃ l, (l, .onTaskPoolStopped) ∈ s.tasks) ∨ s.taskPoolStopped_ = true →
    s.taskPoolStopThread_ = .finished
  completed : stopsCompleted s.trace = if s.status_ = .kStopped then 1 else 0
  submits : ∀ t inv, (t, .submit inv) ∈ s.running → ∃ l, t = .loop l
  working : ∀ w inv, (w, inv) ∈ workerTasks s.running → pool.threads_[w]? = some (.running inv)
  distinct : ((workerTasks s.running).map Prod.fst).Nodup

theorem controlled_init {workers : UInt8 × Option ℕ} (h : cfg.workers = some workers) :
    Controlled (.init cfg) (.init workers.1 workers.2) where
  taskPool := by
    show cfg.workers.map _ = _
    rw [h]
    rfl
  threadCnt := (cfg.workers_pos workers h).1
  sound := TaskThreadPool.sound_init _ _
  stage := .notStarted
  queued hmem := by
    rcases hmem with ⟨_, hmem⟩ | hstopped
    · cases hmem
    · cases hstopped
  completed := rfl
  submits _ _ hmem := by cases hmem
  working _ _ hmem := by cases hmem
  distinct := List.nodup_nil

/-- A pool without workers runs no task. -/
theorem Controlled.workerTasks_eq_nil (h : Controlled s pool) (hthreads : pool.threads_ = []) :
    workerTasks s.running = [] := by
  refine List.eq_nil_iff_forall_not_mem.mpr fun ⟨w, inv⟩ hmem => ?_
  have hw := h.working w inv hmem
  rw [hthreads] at hw
  cases hw

/-! ### Serving requests -/

/-- The pool goes on, the control of the server is the same. -/
theorem Controlled.of_same (h : Controlled s pool) (hsame : SameControl s s')
    {pool' : TaskThreadPool Invocation} (hpool : s'.taskPool_ = some pool')
    (hcnt : pool'.threadCnt_ = pool.threadCnt_) (hsound : pool'.Sound)
    (hstatus : pool'.status_ = pool.status_)
    (hworking : ∀ w inv, (w, inv) ∈ workerTasks s'.running →
      pool'.threads_[w]? = some (.running inv))
    (hdistinct : ((workerTasks s'.running).map Prod.fst).Nodup) : Controlled s' pool' where
  taskPool := hpool
  threadCnt := hcnt ▸ h.threadCnt
  sound := hsound
  stage := by
    rw [hsame.status, hsame.stopThread, hstatus]
    exact h.stage
  queued hmem := by
    rw [hsame.stopThread]
    refine h.queued (hmem.imp (fun ⟨l, hl⟩ => ⟨l, hsame.queued l hl⟩) fun hstopped => ?_)
    rwa [← hsame.taskPoolStopped]
  completed := by
    rw [hsame.completed, hsame.status]
    exact h.completed
  submits t inv hmem := (hsame.submits t inv hmem).elim (h.submits t inv) id
  working := hworking
  distinct := hdistinct

/-- The workers that run a task are not the one that does something else. -/
theorem Controlled.working_set (h : Controlled s pool) {w : ℕ} {x : Worker Invocation}
    {tasks : List (ℕ × Invocation)} (htasks : tasks ⊆ workerTasks s.running)
    (hw : ∀ inv, (w, inv) ∉ tasks) (w' : ℕ) (inv : Invocation) (hmem : (w', inv) ∈ tasks) :
    (pool.threads_.set w x)[w']? = some (.running inv) := by
  have hne : w ≠ w' := by
    rintro rfl
    exact hw inv hmem
  rw [List.getElem?_set_ne hne]
  exact h.working w' inv (htasks hmem)

/-- A task is accepted. -/
theorem Controlled.accept (h : Controlled s pool) (hsame : SameControl s s')
    {pool' : TaskThreadPool Invocation} {inv : Invocation}
    (hadd : pool.addTask (some inv) = (.kAccepted, pool')) (hpool' : s'.taskPool_ = some pool')
    (hworking : (workerTasks s'.running).Perm (workerTasks s.running)) : Controlled s' pool' := by
  have hsound : pool'.Sound := by
    have hsound := h.sound.addTask (t := some inv)
    rwa [hadd] at hsound
  obtain ⟨task, -, -, -, rfl⟩ := TaskThreadPool.addTask_inv hadd
  exact h.of_same hsame hpool' rfl hsound rfl
    (fun w inv hmem => h.working w inv (hworking.mem_iff.mp hmem))
    ((hworking.map Prod.fst).nodup_iff.mpr h.distinct)

/-- A worker has run its task. -/
theorem Controlled.finish (h : Controlled s pool) (hsame : SameControl s s') {w : ℕ}
    {inv : Invocation} (hpool' : s'.taskPool_ = s.taskPool_.map fun pool => pool.finish w)
    (hworking : (workerTasks s.running).Perm ((w, inv) :: workerTasks s'.running)) :
    Controlled s' (pool.finish w) := by
  have hw : pool.threads_[w]? = some (.running inv) :=
    h.working w inv (hworking.mem_iff.mpr List.mem_cons_self)
  have hdistinct := (hworking.map Prod.fst).nodup_iff.mp h.distinct
  rw [List.map_cons, List.nodup_cons] at hdistinct
  rw [h.taskPool] at hpool'
  refine h.of_same hsame hpool' rfl (h.sound.finish hw) rfl (h.working_set ?_ ?_) hdistinct.2
  · exact fun item hmem => hworking.mem_iff.mpr (.tail _ hmem)
  · intro inv' hmem
    have hw' := List.mem_map_of_mem (f := Prod.fst) hmem
    exact hdistinct.1 hw'

/-- A worker takes a task. -/
theorem Controlled.take (h : Controlled s pool) (hsame : SameControl s s')
    {pool' : TaskThreadPool Invocation} {w : ℕ} {inv : Invocation}
    (htake : pool.take w = some (inv, pool')) (hpool' : s'.taskPool_ = some pool')
    (hworking : workerTasks s'.running = (w, inv) :: workerTasks s.running) :
    Controlled s' pool' := by
  have hsound := h.sound.take htake
  obtain ⟨tasks, hw, -, rfl⟩ := TaskThreadPool.take_inv htake
  have hidle : ∀ inv', (w, inv') ∉ workerTasks s.running := by
    intro inv' hmem
    cases hw.symm.trans (h.working w inv' hmem)
  refine h.of_same hsame hpool' rfl hsound rfl (fun w' inv' hmem => ?_) ?_
  · rw [hworking] at hmem
    rcases List.mem_cons.mp hmem with heq | hold
    · obtain ⟨rfl, rfl⟩ := Prod.mk.inj heq
      exact List.getElem?_set_self (List.getElem?_eq_some_iff.mp hw).1
    · exact h.working_set (List.Subset.refl _) hidle w' inv' hold
  · rw [hworking, List.map_cons, List.nodup_cons]
    refine ⟨fun hmem => ?_, h.distinct⟩
    obtain ⟨⟨w', inv'⟩, hitem, rfl⟩ := List.mem_map.mp hmem
    exact hidle inv' hitem

theorem Controlled.exit (h : Controlled s pool) {pool' : TaskThreadPool Invocation} {w : ℕ}
    (hexit : pool.exit w = some pool') : Controlled { s with taskPool_ := some pool' } pool' := by
  have hsound := h.sound.exit hexit
  obtain ⟨hw, -, -, rfl⟩ := TaskThreadPool.exit_inv hexit
  refine h.of_same ?_ rfl rfl hsound rfl (h.working_set (List.Subset.refl _) fun inv hmem => ?_)
    h.distinct
  · exact ⟨rfl, rfl, rfl, rfl, fun _ hmem => hmem, rfl, fun _ _ => .inl⟩
  · cases hw.symm.trans (h.working w inv hmem)

/-! ### Starting and stopping -/

theorem Controlled.start (h : Controlled s pool) : ∃ pool', Controlled (start s) pool' := by
  unfold RpcServer.start
  split_ifs with hstatus
  · exact ⟨pool, h⟩
  · have hnot : s.status_ = .kNotStarted := not_not.mp hstatus
    obtain ⟨hthread, hpool⟩ := (hnot ▸ h.stage).of_notStarted
    have hstart := TaskThreadPool.start_of_eq hpool
    have hcompleted := h.completed
    rw [hnot] at hcompleted
    -- the workers are new, and before `start` nothing was running in them
    refine ⟨pool.start, ?_, hstart ▸ h.threadCnt, h.sound.start, ?_, fun hmem => ?_, hcompleted,
      h.submits, fun w inv hmem => ?_, h.distinct⟩
    · show s.taskPool_.map _ = _
      rw [h.taskPool]
      rfl
    · show Stage .kRunning s.taskPoolStopThread_ pool.start.status_
      rw [hthread, hstart]
      exact .running
    · cases hthread.symm.trans (h.queued hmem)
    · rw [show workerTasks _ = [] from h.workerTasks_eq_nil (h.sound.idle hpool).1] at hmem
      cases hmem

theorem Controlled.stop (h : Controlled s pool) : Controlled (stop s) pool := by
  unfold RpcServer.stop
  split_ifs with hstatus
  · exact h
  · have hrunning : s.status_ = .kRunning := not_not.mp hstatus
    obtain ⟨hthread, hpool⟩ := (hrunning ▸ h.stage).of_running
    have hcompleted := h.completed
    rw [hrunning] at hcompleted
    simp only [h.taskPool]
    refine ⟨rfl, h.threadCnt, h.sound, ?_, fun hmem => ?_, hcompleted, h.submits, h.working,
      h.distinct⟩
    · rw [hpool]
      exact .spawned
    · cases hthread.symm.trans (h.queued hmem)

/-- The server stops when both ends have been reported. -/
theorem Controlled.tryCompleteStop (h : Controlled s pool) :
    Controlled (tryCompleteStop s) pool := by
  unfold RpcServer.tryCompleteStop
  split_ifs with hstatus hboth
  · exact h
  · have hstopping : s.status_ = .kStopping := not_not.mp hstatus
    -- the report of the pool was queued by the thread that had joined its workers
    have hthread := h.queued (.inr hboth.2)
    have hpool := (hthread ▸ h.stage).of_finished
    have hcompleted := h.completed
    rw [hstopping] at hcompleted
    refine ⟨h.taskPool, h.threadCnt, h.sound, ?_, h.queued, ?_, h.submits, h.working, h.distinct⟩
    · show Stage .kStopped s.taskPoolStopThread_ pool.status_
      rw [hthread, hpool]
      exact .stopped
    · show stopsCompleted (.stopCompleted :: s.trace) = 1
      rw [stopsCompleted, List.countP_cons_of_pos rfl]
      exact congrArg (· + 1) hcompleted
  · exact h

theorem Controlled.onTcpServerStopped (h : Controlled s pool) :
    Controlled (onTcpServerStopped s) pool := by
  have hreported : Controlled { s with tcpServerStopped_ := true } pool :=
    ⟨h.taskPool, h.threadCnt, h.sound, h.stage, h.queued, h.completed, h.submits, h.working,
      h.distinct⟩
  exact hreported.tryCompleteStop

theorem Controlled.onTaskPoolStopped (h : Controlled s pool) {l : LoopId}
    (htask : (l, .onTaskPoolStopped) ∈ s.tasks) :
    Controlled (onTaskPoolStopped { s with tasks := s.tasks.dropFirst l }) pool := by
  have hreported : Controlled
      { s with tasks := s.tasks.dropFirst l, taskPoolStopped_ := true } pool :=
    ⟨h.taskPool, h.threadCnt, h.sound, h.stage, fun _ => h.queued (.inl ⟨l, htask⟩), h.completed,
      h.submits, h.working, h.distinct⟩
  exact hreported.tryCompleteStop

/-- The thread that stops the pool begins. -/
theorem Controlled.beginStop (h : Controlled s pool) (hthread : s.taskPoolStopThread_ = .spawned) :
    ∃ pool', pool.beginStop = some pool' ∧
      Controlled { s with taskPool_ := some pool', taskPoolStopThread_ := .joining } pool' := by
  obtain ⟨hstatus, hpool⟩ := (hthread ▸ h.stage).of_spawned
  -- only this thread stops the pool, so it finds the pool running
  have hbegin : pool.beginStop = some { pool with status_ := .STOPPING } :=
    if_neg (not_not.mpr hpool)
  refine ⟨_, hbegin, rfl, h.threadCnt, h.sound.beginStop hbegin, ?_, fun hmem => ?_, h.completed,
    h.submits, h.working, h.distinct⟩
  · show Stage s.status_ .joining .STOPPING
    rw [hstatus]
    exact .joining
  · cases hthread.symm.trans (h.queued hmem)

/-- It has joined the workers and queues its report. -/
theorem Controlled.finishStop (h : Controlled s pool) {pool' : TaskThreadPool Invocation}
    (hthread : s.taskPoolStopThread_ = .joining) (hfinish : pool.finishStop = some pool') :
    Controlled ({ s with taskPool_ := some pool', taskPoolStopThread_ := .finished }.queueInLoop 0
      .onTaskPoolStopped) pool' := by
  obtain ⟨hstatus, hpool⟩ := (hthread ▸ h.stage).of_joining
  have hsound := h.sound.finishStop h.threadCnt hpool hfinish
  obtain ⟨hexited, rfl⟩ := TaskThreadPool.finishStop_inv hfinish
  refine ⟨rfl, h.threadCnt, hsound, ?_, fun _ => rfl, h.completed, h.submits, fun w inv hmem => ?_,
    h.distinct⟩
  · show Stage s.status_ .finished .STOPPED
    rw [hstatus]
    exact .finished
  · cases hexited _ (List.mem_of_getElem? (h.working w inv hmem))

/-- **Every step keeps the control of the server.** -/
theorem Controlled.step {a : Action} (h : Controlled s pool) (hstep : step cfg s a = some s') :
    ∃ pool', Controlled s' pool' := by
  have heq : ∀ {pool' : TaskThreadPool Invocation}, s.taskPool_ = some pool' → pool = pool' :=
    fun hpool => Option.some.inj (h.taskPool.symm.trans hpool)
  cases controlStep_of_step h.submits hstep with
  | same _ _ hsame =>
    exact ⟨pool, h.of_same hsame.toSameControl (hsame.taskPool.trans h.taskPool) rfl h.sound rfl
      (fun w inv hmem => h.working w inv (hsame.working.mem_iff.mp hmem))
      ((hsame.working.map Prod.fst).nodup_iff.mpr h.distinct)⟩
  | accept _ _ hsame hpool hadd hpool' hworking =>
    obtain rfl := heq hpool
    exact ⟨_, h.accept hsame hadd hpool' hworking⟩
  | finish _ _ hsame hpool' hworking => exact ⟨_, h.finish hsame hpool' hworking⟩
  | take hsame hpool htake hpool' hworking =>
    obtain rfl := heq hpool
    exact ⟨_, h.take hsame htake hpool' hworking⟩
  | exit hpool hexit hs =>
    obtain rfl := heq hpool
    exact ⟨_, hs ▸ h.exit hexit⟩
  | start hs => exact hs ▸ h.start
  | stop hs => exact ⟨pool, hs ▸ h.stop⟩
  | tcpServerStopped _ hs => exact ⟨pool, hs ▸ h.onTcpServerStopped⟩
  | taskPoolStopped htask hs => exact ⟨pool, hs ▸ h.onTaskPoolStopped htask⟩
  | beginStop hpool hthread hs =>
    obtain rfl := heq hpool
    obtain ⟨pool', hbegin, hcontrolled⟩ := h.beginStop hthread
    rw [hbegin] at hs
    exact ⟨pool', hs ▸ hcontrolled⟩
  | finishStop hpool hthread hfinish hs =>
    obtain rfl := heq hpool
    exact ⟨_, hs ▸ h.finishStop hthread hfinish⟩

/-! ### The tasks the pool accepted -/

/-- The steps of a run of the server, the latest first. -/
abbrev Run := List (Machine.Step State Action)

/-- The tasks the pool accepted. -/
def acceptedTasks (steps : Run) : List Invocation :=
  steps.filterMap fun st => accepted? st.before st.action

/-- The tasks of the pool that have returned. -/
def returnedTasks (steps : Run) : List Invocation :=
  steps.filterMap fun st => returned? st.before st.action

/-- The workers run a task. -/
def atWork (s : State) (inv : Invocation) : ℕ := ((workerTasks s.running).map Prod.snd).count inv

/-- Every accepted task is queued, is run by a worker or has returned. -/
def Accounted (steps : Run) (s : State) (pool : TaskThreadPool Invocation) : Prop :=
  ∀ inv, (acceptedTasks steps).count inv =
    (returnedTasks steps).count inv + atWork s inv + pool.tasks_.count inv

theorem acceptedTasks_cons (st : Machine.Step State Action) (steps : Run) :
    acceptedTasks (st :: steps) =
      (accepted? st.before st.action).toList ++ acceptedTasks steps := by
  unfold acceptedTasks
  rw [List.filterMap_cons]
  cases accepted? st.before st.action <;> rfl

theorem returnedTasks_cons (st : Machine.Step State Action) (steps : Run) :
    returnedTasks (st :: steps) =
      (returned? st.before st.action).toList ++ returnedTasks steps := by
  unfold returnedTasks
  rw [List.filterMap_cons]
  cases returned? st.before st.action <;> rfl

theorem atWork_of_perm {s s' : State}
    (h : (workerTasks s'.running).Perm (workerTasks s.running)) (inv : Invocation) :
    atWork s' inv = atWork s inv :=
  (h.map Prod.snd).count_eq inv

/-- A worker begins or ends a task. -/
theorem atWork_of_cons {s s' : State} {w : ℕ} {inv : Invocation}
    (h : (workerTasks s.running).Perm ((w, inv) :: workerTasks s'.running)) (inv' : Invocation) :
    atWork s inv' = atWork s' inv' + if inv = inv' then 1 else 0 := by
  have hcount := (h.map Prod.snd).count_eq inv'
  rw [List.map_cons, List.count_cons] at hcount
  simp only [beq_iff_eq] at hcount
  exact hcount

/-- What a step accepts and what it ends is what the queue and the workers gain and lose. -/
theorem Accounted.cons {steps : Run} (h : Accounted steps s pool) {a : Action}
    {pool' : TaskThreadPool Invocation} {accepted returned : Option Invocation}
    (haccepted : accepted? s a = accepted) (hreturned : returned? s a = returned)
    (hmoved : ∀ inv, accepted.toList.count inv + atWork s inv + pool.tasks_.count inv =
      returned.toList.count inv + atWork s' inv + pool'.tasks_.count inv) :
    Accounted (⟨s, a, s'⟩ :: steps) s' pool' := by
  intro inv
  have hold := h inv
  have hmoved := hmoved inv
  rw [acceptedTasks_cons, returnedTasks_cons, List.count_append, List.count_append, haccepted,
    hreturned]
  omega

/-- Nothing is accepted and nothing returns, and the tasks stay where they are. -/
theorem Accounted.same {steps : Run} (h : Accounted steps s pool) {a : Action}
    (haccepted : accepted? s a = none) (hreturned : returned? s a = none)
    {pool' : TaskThreadPool Invocation} (htasks : pool'.tasks_ = pool.tasks_)
    (hworking : (workerTasks s'.running).Perm (workerTasks s.running)) :
    Accounted (⟨s, a, s'⟩ :: steps) s' pool' := by
  refine h.cons haccepted hreturned fun inv => ?_
  rw [htasks, atWork_of_perm hworking]

/-- The tasks stay where they are. -/
structure SameTasks (s s' : State) : Prop where
  running : s'.running = s.running
  tasks : poolTasks s'.taskPool_ = poolTasks s.taskPool_

theorem sameTasks_tryCompleteStop (s : State) : SameTasks s (tryCompleteStop s) := by
  unfold tryCompleteStop
  split_ifs
  · exact ⟨rfl, rfl⟩
  · exact ⟨rfl, rfl⟩
  · exact ⟨rfl, rfl⟩

theorem sameTasks_start (s : State) : SameTasks s (start s) := by
  unfold start
  split_ifs
  · exact ⟨rfl, rfl⟩
  · refine ⟨rfl, ?_⟩
    show poolTasks (s.taskPool_.map _) = _
    cases s.taskPool_ with
    | none => rfl
    | some pool => exact pool.tasks_start

theorem sameTasks_stop (s : State) : SameTasks s (stop s) := by
  unfold stop
  split_ifs
  · exact ⟨rfl, rfl⟩
  · dsimp only
    split
    · rename_i hpool
      exact ⟨rfl, rfl⟩
    · have hframe := sameTasks_tryCompleteStop
        { s with status_ := .kStopping, taskPoolStopped_ := true }
      exact ⟨hframe.running, hframe.tasks⟩

theorem Accounted.still {steps : Run} {a : Action} (h : Accounted steps s pool)
    (hpool : s.taskPool_ = some pool) (haccepted : accepted? s a = none)
    (hreturned : returned? s a = none) (hsame : SameTasks s s')
    {pool' : TaskThreadPool Invocation} (hpool' : s'.taskPool_ = some pool') :
    Accounted (⟨s, a, s'⟩ :: steps) s' pool' := by
  have htasks := hsame.tasks
  rw [hpool, hpool'] at htasks
  exact h.same haccepted hreturned htasks (hsame.running ▸ .refl _)

/-- **Every step keeps the account of the tasks.** -/
theorem Accounted.step {steps : Run} {a : Action} (h : Accounted steps s pool)
    (hcontrolled : Controlled s pool) (hstep : step cfg s a = some s')
    {pool' : TaskThreadPool Invocation} (hpool' : s'.taskPool_ = some pool') :
    Accounted (⟨s, a, s'⟩ :: steps) s' pool' := by
  have hbefore := hcontrolled.taskPool
  have heq : ∀ {pool' : TaskThreadPool Invocation}, s.taskPool_ = some pool' → pool = pool' :=
    fun hpool => Option.some.inj (hbefore.symm.trans hpool)
  have heq' : ∀ {pool'' : TaskThreadPool Invocation}, s'.taskPool_ = some pool'' →
      pool' = pool'' := fun hpool => Option.some.inj (hpool'.symm.trans hpool)
  cases controlStep_of_step hcontrolled.submits hstep with
  | same haccepted hreturned hsame =>
    obtain rfl := heq (hsame.taskPool.symm.trans hpool')
    exact h.same haccepted hreturned rfl hsame.working
  | accept haccepted hreturned _ hpool hadd hpoolAfter hworking =>
    obtain rfl := heq hpool
    obtain rfl := heq' hpoolAfter
    obtain ⟨task, htask, -, -, rfl⟩ := TaskThreadPool.addTask_inv hadd
    obtain rfl := Option.some.inj htask
    refine h.cons haccepted hreturned fun inv => ?_
    rw [atWork_of_perm hworking, List.count_append]
    simp only [Option.toList_some, Option.toList_none, List.count_nil]
    omega
  | finish haccepted hreturned _ hpoolAfter hworking =>
    rw [hbefore] at hpoolAfter
    obtain rfl := heq' hpoolAfter
    refine h.cons haccepted hreturned fun inv' => ?_
    rw [atWork_of_cons hworking, TaskThreadPool.tasks_finish]
    simp only [Option.toList_some, Option.toList_none, List.count_nil, List.count_singleton,
      beq_iff_eq]
    omega
  | @take w _ _ _ _ hpool htake hpoolAfter hworking =>
    obtain rfl := heq hpool
    obtain rfl := heq' hpoolAfter
    have haccepted : accepted? s (.workerTake w) = none := rfl
    have hreturned : returned? s (.workerTake w) = none := rfl
    refine h.cons haccepted hreturned fun inv' => ?_
    have hgained := atWork_of_cons (.of_eq hworking) inv'
    rw [TaskThreadPool.take_eq_some htake, List.count_cons, hgained]
    simp only [beq_iff_eq]
    omega
  | exit hpool hexit hs =>
    obtain rfl := heq hpool
    obtain rfl := heq' (congrArg State.taskPool_ hs)
    exact h.same rfl rfl (TaskThreadPool.tasks_of_exit hexit) (hs ▸ .refl _)
  | start hs => exact h.still hbefore rfl rfl (hs ▸ sameTasks_start s) hpool'
  | stop hs => exact h.still hbefore rfl rfl (hs ▸ sameTasks_stop s) hpool'
  | tcpServerStopped _ hs =>
    have hsame := sameTasks_tryCompleteStop { s with tcpServerStopped_ := true }
    exact h.still hbefore rfl rfl (hs ▸ ⟨hsame.running, hsame.tasks⟩) hpool'
  | @taskPoolStopped l htask hs =>
    have hsame := sameTasks_tryCompleteStop
      { s with tasks := s.tasks.dropFirst l, taskPoolStopped_ := true }
    exact h.still hbefore rfl rfl (hs ▸ ⟨hsame.running, hsame.tasks⟩) hpool'
  | beginStop hpool hthread hs =>
    obtain ⟨poolAfter, hbegin, -⟩ := hcontrolled.beginStop hthread
    obtain rfl := heq hpool
    rw [hbegin] at hs
    obtain rfl := heq' (congrArg State.taskPool_ hs)
    exact h.same rfl rfl (TaskThreadPool.tasks_of_beginStop hbegin) (hs ▸ .refl _)
  | finishStop hpool hthread hfinish hs =>
    obtain rfl := heq hpool
    obtain rfl := heq' (congrArg State.taskPool_ hs)
    exact h.same rfl rfl (TaskThreadPool.tasks_of_finishStop hfinish) (hs ▸ .refl _)

/-! ### Which steps do it -/

section

variable {a : Action}

theorem tryCompleteStop_cases (s : State) :
    tryCompleteStop s = s ∨ s.status_ = .kStopping ∧ s.tcpServerStopped_ = true ∧
      s.taskPoolStopped_ = true ∧
      tryCompleteStop s = { s with status_ := .kStopped, trace := .stopCompleted :: s.trace } := by
  unfold tryCompleteStop
  split_ifs with hstatus hboth
  · exact .inl rfl
  · exact .inr ⟨not_not.mp hstatus, hboth.1, hboth.2, rfl⟩
  · exact .inl rfl

theorem start_cases (s : State) :
    start s = s ∨ s.status_ = .kNotStarted ∧ start s =
      { s with taskPool_ := s.taskPool_.map TaskThreadPool.start, status_ := .kRunning } := by
  unfold start
  split_ifs with hstatus
  · exact .inl rfl
  · exact .inr ⟨not_not.mp hstatus, rfl⟩

/-- `stop` of a server with a pool. -/
theorem stop_cases (hpool : s.taskPool_ = some pool) :
    stop s = s ∨ s.status_ = .kRunning ∧ stop s =
      { s with status_ := .kStopping, taskPoolStopThread_ := .spawned } := by
  unfold stop
  split_ifs with hstatus
  · exact .inl rfl
  · simp only [hpool]
    exact .inr ⟨not_not.mp hstatus, trivial⟩

/-- What a step does to the status of the server: nothing, or it is one of these. -/
inductive StatusStep (s s' : State) : Action → Prop
  | same {a : Action} (h : s'.status_ = s.status_) : StatusStep s s' a
  | start (hbefore : s.status_ = .kNotStarted) (hafter : s'.status_ = .kRunning) :
      StatusStep s s' .start
  | stop (hbefore : s.status_ = .kRunning) (hafter : s'.status_ = .kStopping) :
      StatusStep s s' .stop
  | complete {a : Action} (hbefore : s.status_ = .kStopping) (hafter : s'.status_ = .kStopped)
      (htcp : s'.tcpServerStopped_ = true) (hthread : s.taskPoolStopThread_ = .finished) :
      StatusStep s s' a

/-- What a step does to the status, and which steps end the pool and the TCP server. -/
structure Progress (s s' : State) (a : Action) : Prop where
  status : StatusStep s s' a
  thread : s'.taskPoolStopThread_ = .finished →
    s.taskPoolStopThread_ = .finished ∨ a = .poolFinishStop
  tcp : s'.tcpServerStopped_ = true → s.tcpServerStopped_ = true ∨ a = .tcpServerStopped

theorem Progress.of_eq (hstatus : s'.status_ = s.status_)
    (hthread : s'.taskPoolStopThread_ = s.taskPoolStopThread_)
    (htcp : s'.tcpServerStopped_ = s.tcpServerStopped_) : Progress s s' a :=
  ⟨.same hstatus, fun h => .inl (hthread ▸ h), fun h => .inl (htcp ▸ h)⟩

theorem Controlled.progress (h : Controlled s pool) (hstep : RpcServer.step cfg s a = some s') :
    Progress s s' a := by
  have hqueued := h.queued
  cases controlStep_of_step h.submits hstep with
  | same _ _ hsame => exact .of_eq hsame.status hsame.stopThread hsame.tcpServerStopped
  | accept _ _ hsame | finish _ _ hsame | take hsame =>
    exact .of_eq hsame.status hsame.stopThread hsame.tcpServerStopped
  | exit _ _ hs =>
    subst hs
    exact .of_eq rfl rfl rfl
  | start hs =>
    rcases start_cases s with heq | ⟨hbefore, heq⟩
    · exact .of_eq (by rw [hs, heq]) (by rw [hs, heq]) (by rw [hs, heq])
    · rw [heq] at hs
      subst hs
      exact ⟨.start hbefore rfl, .inl, .inl⟩
  | stop hs =>
    rcases stop_cases h.taskPool with heq | ⟨hbefore, heq⟩
    · exact .of_eq (by rw [hs, heq]) (by rw [hs, heq]) (by rw [hs, heq])
    · rw [heq] at hs
      subst hs
      exact ⟨.stop hbefore rfl, fun hthread => (by cases hthread), .inl⟩
  | tcpServerStopped _ hs =>
    rw [RpcServer.onTcpServerStopped] at hs
    rcases tryCompleteStop_cases { s with tcpServerStopped_ := true } with
      heq | ⟨hbefore, -, hpool, heq⟩
    · rw [heq] at hs
      subst hs
      exact ⟨.same rfl, .inl, fun _ => .inr rfl⟩
    · rw [heq] at hs
      subst hs
      exact ⟨.complete hbefore rfl rfl (hqueued (.inr hpool)), .inl, fun _ => .inr rfl⟩
  | @taskPoolStopped l htask hs =>
    rw [RpcServer.onTaskPoolStopped] at hs
    rcases tryCompleteStop_cases { s with tasks := s.tasks.dropFirst l, taskPoolStopped_ := true }
      with heq | ⟨hbefore, htcp, -, heq⟩
    · rw [heq] at hs
      subst hs
      exact .of_eq rfl rfl rfl
    · rw [heq] at hs
      subst hs
      exact ⟨.complete hbefore rfl htcp (hqueued (.inl ⟨l, htask⟩)), .inl, .inl⟩
  | beginStop _ _ hs =>
    subst hs
    exact ⟨.same rfl, fun hthread => (by cases hthread), .inl⟩
  | finishStop _ _ _ hs =>
    subst hs
    exact ⟨.same rfl, fun _ => .inr rfl, .inl⟩

/-- `stop` has been called while the server was running. -/
def Stopping (s : State) : Prop := s.status_ = .kStopping ∨ s.status_ = .kStopped

theorem Progress.stop_of_stopping (h : Progress s s' a) (hbefore : ¬ Stopping s)
    (hafter : Stopping s') : a = .stop ∧ s.status_ = .kRunning := by
  cases h.status with
  | same heq => exact absurd (hafter.imp heq.symm.trans heq.symm.trans) hbefore
  | start _ heq => rcases hafter with hafter | hafter <;> cases heq.symm.trans hafter
  | stop hrunning => exact ⟨rfl, hrunning⟩
  | complete hstopping => exact absurd (.inl hstopping) hbefore

/-- A server that has stopped does not leave its status. -/
theorem Progress.stopped (h : Progress s s' a) (hstopped : s.status_ = .kStopped) :
    s'.status_ = .kStopped := by
  cases h.status with
  | same heq => exact heq.trans hstopped
  | start hbefore | stop hbefore | complete hbefore => cases hstopped.symm.trans hbefore

/-- No worker takes a task after the server has stopped. -/
theorem Controlled.not_take (h : Controlled s pool) (hstopped : s.status_ = .kStopped) {w : ℕ}
    (hstep : RpcServer.step cfg s (.workerTake w) = some s') : False := by
  -- a pool that has stopped has no worker
  have hpool := (hstopped ▸ h.stage).of_stopped
  simp only [RpcServer.step, h.taskPool] at hstep
  obtain ⟨⟨inv, pool'⟩, htake, -⟩ := Option.map_eq_some_iff.mp hstep
  obtain ⟨tasks, hw, -⟩ := TaskThreadPool.take_inv htake
  rw [(h.sound.stopped hpool).1] at hw
  cases hw

end

/-! ### Graceful stop -/

/-- The step calls `stopCompleteCallback_`. -/
def completes (st : Machine.Step State Action) : Prop :=
  stopsCompleted st.before.trace < stopsCompleted st.after.trace

/-- What holds where `stopCompleteCallback_` is called, with the steps after it and before it. -/
structure CompletesGracefully (later : Run) (st : Machine.Step State Action) (earlier : Run) :
    Prop where
  /-- `stop` was called while the server was running. -/
  called : ∃ call ∈ earlier, call.action = .stop ∧ call.before.status_ = .kRunning
  /-- The TCP server has reported that it has stopped. -/
  tcpServerStopped : ∃ report ∈ st :: earlier, report.action = .tcpServerStopped
  /-- The worker pool has stopped. -/
  taskPoolStopped : ∃ finish ∈ earlier, finish.action = .poolFinishStop
  /-- Every task the pool has accepted has returned. -/
  returned : (acceptedTasks earlier).Perm (returnedTasks earlier)
  stopped : st.after.status_ = .kStopped
  /-- From then on the server stays stopped and no worker takes a task. -/
  after : ∀ st' ∈ later, st'.after.status_ = .kStopped ∧ ∀ w, st'.action ≠ .workerTake w

/-- `stopCompleteCallback_` is called at most once, and only when everything has ended. -/
structure GracefulStop (steps : Run) (s : State) : Prop where
  once : stopsCompleted s.trace ≤ 1
  gracefully : ∀ later st earlier, steps = later ++ st :: earlier → completes st →
    CompletesGracefully later st earlier

variable {workers : UInt8 × Option ℕ} {steps : Run}

theorem controlled_of_reachable (hworkers : cfg.workers = some workers)
    (h : (machine cfg).Reachable s) : ∃ pool, Controlled s pool :=
  Machine.Reachable.invariant (P := fun s => ∃ pool, Controlled s pool)
    ⟨_, controlled_init hworkers⟩ (fun _ _ _ _ ⟨_, hcontrolled⟩ hs => hcontrolled.step hs) h

theorem accounted_of_history (hworkers : cfg.workers = some workers)
    (h : (machine cfg).History steps s) : ∃ pool, Controlled s pool ∧ Accounted steps s pool := by
  refine Machine.History.invariant
    (P := fun steps s => ∃ pool, Controlled s pool ∧ Accounted steps s pool)
    ⟨_, controlled_init hworkers, fun _ => rfl⟩ ?_ h
  rintro steps s a s' ⟨pool, hcontrolled, haccounted⟩ hs
  obtain ⟨pool', hcontrolled'⟩ := hcontrolled.step hs
  exact ⟨pool', hcontrolled', haccounted.step hcontrolled hs hcontrolled'.taskPool⟩

/-- The step with which something about the control of the server began to hold. -/
theorem exists_progress (hworkers : cfg.workers = some workers)
    (h : (machine cfg).History steps s) {Q : State → Prop} (h0 : ¬ Q (.init cfg)) (hs : Q s) :
    ∃ st ∈ steps, Progress st.before st.after st.action ∧ ¬ Q st.before ∧ Q st.after := by
  obtain ⟨st, hst, hreach, hstep, hbefore, hafter⟩ := h.exists_flip h0 hs
  obtain ⟨pool, hcontrolled⟩ := controlled_of_reachable hworkers hreach
  exact ⟨st, hst, hcontrolled.progress hstep, hbefore, hafter⟩

/-- The callback is called in a step that ends the stopping of the server, after its pool has
stopped. -/
theorem Controlled.of_completes {a : Action} (h : Controlled s pool)
    (hstep : RpcServer.step cfg s a = some s') (hcompletes : completes ⟨s, a, s'⟩) :
    s.status_ = .kStopping ∧ s'.status_ = .kStopped ∧ s'.tcpServerStopped_ = true ∧
      s.taskPoolStopThread_ = .finished := by
  obtain ⟨pool', h'⟩ := h.step hstep
  have hlt : stopsCompleted s.trace < stopsCompleted s'.trace := hcompletes
  rw [h.completed, h'.completed] at hlt
  cases (h.progress hstep).status with
  | same heq =>
    rw [heq] at hlt
    exact absurd hlt (lt_irrefl _)
  | start _ heq | stop _ heq =>
    rw [heq] at hlt
    exact absurd hlt (Nat.not_lt_zero _)
  | complete hbefore hafter htcp hthread => exact ⟨hbefore, hafter, htcp, hthread⟩

/-- When the pool has stopped, every accepted task has returned. -/
theorem Accounted.returned (h : Accounted steps s pool) (hcontrolled : Controlled s pool)
    (hstopped : pool.status_ = .STOPPED) : (acceptedTasks steps).Perm (returnedTasks steps) := by
  obtain ⟨hthreads, htasks⟩ := hcontrolled.sound.stopped hstopped
  refine List.perm_iff_count.mpr fun inv => ?_
  have hcount := h inv
  rw [atWork, hcontrolled.workerTasks_eq_nil hthreads, htasks] at hcount
  exact hcount

/-- **The server stops gracefully**, in every run with a worker pool. -/
theorem gracefulStop_of_history (hworkers : cfg.workers = some workers)
    (h : (machine cfg).History steps s) : GracefulStop steps s := by
  constructor
  · obtain ⟨pool, hcontrolled, -⟩ := accounted_of_history hworkers h
    rw [hcontrolled.completed]
    split_ifs <;> omega
  · rintro later ⟨s₀, a, s₁⟩ earlier rfl hcompletes
    -- the step that calls the callback ends the stopping of the server
    obtain ⟨hearlier, hstep⟩ := h.split
    obtain ⟨pool, hcontrolled, haccounted⟩ := accounted_of_history hworkers hearlier
    obtain ⟨hstopping, hstopped, htcp, hthread⟩ := hcontrolled.of_completes hstep hcompletes
    have hpool := (hthread ▸ hcontrolled.stage).of_finished
    refine ⟨?_, ?_, ?_, haccounted.returned hcontrolled hpool, hstopped, fun st' hst' => ?_⟩
    -- each of the three conditions began to hold with a step before it
    · obtain ⟨call, hcall, hprogress, hbefore, hafter⟩ := exists_progress (Q := Stopping) hworkers
        hearlier (fun h => by rcases h with h | h <;> cases h) (.inl hstopping)
      exact ⟨call, hcall, hprogress.stop_of_stopping hbefore hafter⟩
    · obtain ⟨report, hreport, hprogress, hbefore, hafter⟩ := exists_progress
        (Q := fun s => s.tcpServerStopped_ = true) hworkers (hearlier.cons hstep)
        (fun h => by cases h) htcp
      exact ⟨report, hreport, (hprogress.tcp hafter).resolve_left hbefore⟩
    · obtain ⟨finish, hfinish, hprogress, hbefore, hafter⟩ := exists_progress
        (Q := fun s => s.taskPoolStopThread_ = .finished) hworkers hearlier
        (fun h => by cases h) hthread
      exact ⟨finish, hfinish, (hprogress.thread hafter).resolve_left hbefore⟩
    · -- `kStopped` is kept by every later step
      have hkept : ∀ s a s', (machine cfg).Reachable s → s.status_ = .kStopped →
          (machine cfg).step s a = some s' → s'.status_ = .kStopped := by
        intro s a s' hreach hs hstep
        obtain ⟨pool, hcontrolled⟩ := controlled_of_reachable hworkers hreach
        exact (hcontrolled.progress hstep).stopped hs
      obtain ⟨hreach, hstep', hbefore, hafter⟩ := (h.persists hkept hstopped).2 st' hst'
      obtain ⟨pool', hcontrolled'⟩ := controlled_of_reachable hworkers hreach
      refine ⟨hafter, fun w hw => ?_⟩
      have htake : step cfg st'.before (.workerTake w) = some st'.after := hw ▸ hstep'
      exact hcontrolled'.not_take hbefore htake

/-! ### A run -/

/-- A server with one asynchronous handler and one worker. -/
def workerServer : Config :=
  { Config.ofHandlers ∅ (Finmap.singleton (text "s") (Finmap.singleton (text "m") ⟨1⟩)) with
    workers := some (1, none)
    workers_pos := by simp }

/-- Its handler is running when the server is stopped, and a second request comes too late. -/
def stopping : List Action :=
  let request : RpcRequest := ⟨5, text "s", text "m", text "p"⟩
  [.start, .connectionUp 3, .deliver 3 request.fields.flatten none, .submit 0, .workerTake 0, .stop,
    .poolBeginStop,
    .deliver 3 (RpcRequest.mk 6 (text "s") (text "m") (text "p")).fields.flatten none, .submit 0,
    .tcpServerStopped, .handlerReturns 1, .workerExit 0, .poolFinishStop, .queueReply 0, .runTask 0,
    .runTask 0, .stop, .start]

theorem gracefulStop_stopping :
    .stopCompleted ∈ ((machine workerServer).after stopping).trace ∧
      ∃ steps, (machine workerServer).History steps ((machine workerServer).after stopping) ∧
        steps.map Machine.Step.action = stopping.reverse ∧
        GracefulStop steps ((machine workerServer).after stopping) := by
  have hrun : (machine workerServer).Run (machine workerServer).init stopping
      ((machine workerServer).after stopping) :=
    @Machine.run_afterBy _ _ (machine workerServer) (fun _ _ => True) _ [] _ (by decide +kernel)
  obtain ⟨steps, hsteps, hactions⟩ := Machine.History.nil.append_run hrun
  refine ⟨by decide +kernel, steps, hsteps, ?_, gracefulStop_of_history rfl hsteps⟩
  rw [hactions, List.map_nil, List.append_nil]

end MiniRpc.RpcServer
