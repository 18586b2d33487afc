import Mathlib.Data.Finmap

/-!
# An event loop with one-shot timers and a task queue

`EventLoop τ κ` is a single-threaded loop with a clock, one-shot timers carrying a task of type
`τ`, and a first-in first-out queue of tasks of type `κ`.  `runAfter d` arms a timer that may fire
once the clock has advanced by `d`; `cancel` removes it; `fire` removes a due timer and hands over
its task.  The identifier of a new timer was never used before: that every live timer is older than
the next identifier is a field of the structure.

The lookup lemmas say what each operation does to the live timers.
-/

namespace MiniRpc

/-- The identity of a timer. -/
abbrev TimerId := ℕ

/-- A one-shot timer: the earliest time it may fire and what it then runs. -/
structure Timer (τ : Type*) where
  /-- The earliest time the timer may fire. -/
  deadline : ℕ
  /-- What the timer runs. -/
  task : τ
  deriving DecidableEq

/-- A loop: its clock, its live timers and its queued tasks. -/
structure EventLoop (τ κ : Type*) where
  /-- The clock. -/
  now : ℕ
  /-- The identifier of the next timer. -/
  nextTimerId : TimerId
  /-- The live timers. -/
  timers : Finmap fun _ : TimerId => Timer τ
  /-- The queued tasks, the oldest first. -/
  tasks : List κ
  /-- Live timers are older than the next identifier. -/
  fresh : ∀ t ∈ timers, t < nextTimerId

namespace EventLoop

variable {τ κ : Type*}

/-- A loop that has not started. -/
def init : EventLoop τ κ where
  now := 0
  nextTimerId := 0
  timers := ∅
  tasks := []
  fresh _ h := absurd h Finmap.notMem_empty

/-- Let time pass. -/
def tick (l : EventLoop τ κ) (d : ℕ) : EventLoop τ κ := { l with now := l.now + d }

/-- Append a task to the queue. -/
def queueInLoop (l : EventLoop τ κ) (k : κ) : EventLoop τ κ := { l with tasks := l.tasks ++ [k] }

/-- Replace the queue, as after taking its first task. -/
def setTasks (l : EventLoop τ κ) (ks : List κ) : EventLoop τ κ := { l with tasks := ks }

/-- Arm a timer that fires after `d` at the earliest. -/
def runAfter (l : EventLoop τ κ) (d : ℕ) (task : τ) : EventLoop τ κ where
  now := l.now
  nextTimerId := l.nextTimerId + 1
  timers := l.timers.insert l.nextTimerId ⟨l.now + d, task⟩
  tasks := l.tasks
  fresh t h := by
    rcases Finmap.mem_insert.mp h with rfl | h
    · exact Nat.lt_succ_self _
    · exact Nat.lt_succ_of_lt (l.fresh t h)

/-- Arm a timer for a positive delay; the identifier tells whether one was armed. -/
def runAfterIfPos (l : EventLoop τ κ) (d : ℕ) (task : τ) : EventLoop τ κ × Option TimerId :=
  if 0 < d then (l.runAfter d task, some l.nextTimerId) else (l, none)

/-- Remove a timer. -/
def cancel (l : EventLoop τ κ) (t : TimerId) : EventLoop τ κ where
  now := l.now
  nextTimerId := l.nextTimerId
  timers := l.timers.erase t
  tasks := l.tasks
  fresh u h := l.fresh u (Finmap.mem_erase.mp h).2

/-- Remove a timer if there is one to remove. -/
def cancelIfSet (l : EventLoop τ κ) : Option TimerId → EventLoop τ κ
  | none => l
  | some t => l.cancel t

/-- The task of a due timer, and the loop without the timer. -/
def fire (l : EventLoop τ κ) (t : TimerId) : Option (τ × EventLoop τ κ) :=
  match l.timers.lookup t with
  | none => none
  | some timer => if timer.deadline ≤ l.now then some (timer.task, l.cancel t) else none

/-! ### The live timers after an operation -/

@[simp] theorem now_runAfter (l : EventLoop τ κ) (d : ℕ) (task : τ) :
    (l.runAfter d task).now = l.now := rfl

@[simp] theorem tasks_runAfter (l : EventLoop τ κ) (d : ℕ) (task : τ) :
    (l.runAfter d task).tasks = l.tasks := rfl

@[simp] theorem now_runAfterIfPos (l : EventLoop τ κ) (d : ℕ) (task : τ) :
    (l.runAfterIfPos d task).1.now = l.now := by
  unfold runAfterIfPos
  split_ifs <;> rfl

@[simp] theorem tasks_runAfterIfPos (l : EventLoop τ κ) (d : ℕ) (task : τ) :
    (l.runAfterIfPos d task).1.tasks = l.tasks := by
  unfold runAfterIfPos
  split_ifs <;> rfl

@[simp] theorem now_cancelIfSet (l : EventLoop τ κ) (o : Option TimerId) :
    (l.cancelIfSet o).now = l.now := by
  cases o <;> rfl

@[simp] theorem tasks_cancelIfSet (l : EventLoop τ κ) (o : Option TimerId) :
    (l.cancelIfSet o).tasks = l.tasks := by
  cases o <;> rfl

@[simp] theorem nextTimerId_cancelIfSet (l : EventLoop τ κ) (o : Option TimerId) :
    (l.cancelIfSet o).nextTimerId = l.nextTimerId := by
  cases o <;> rfl

theorem lookup_runAfter_self (l : EventLoop τ κ) (d : ℕ) (task : τ) :
    (l.runAfter d task).timers.lookup l.nextTimerId = some ⟨l.now + d, task⟩ :=
  Finmap.lookup_insert _

theorem lookup_runAfter_of_ne (l : EventLoop τ κ) (d : ℕ) (task : τ) {t : TimerId}
    (h : t ≠ l.nextTimerId) : (l.runAfter d task).timers.lookup t = l.timers.lookup t :=
  Finmap.lookup_insert_of_ne _ h

theorem lookup_cancelIfSet_self (l : EventLoop τ κ) (t : TimerId) :
    (l.cancelIfSet (some t)).timers.lookup t = none :=
  Finmap.lookup_erase _ _

theorem lookup_cancelIfSet_of_ne (l : EventLoop τ κ) {o : Option TimerId} {t : TimerId}
    (h : o ≠ some t) : (l.cancelIfSet o).timers.lookup t = l.timers.lookup t := by
  cases o with
  | none => rfl
  | some u => exact Finmap.lookup_erase_ne fun hut => h (congrArg some hut.symm)

/-- What a cancelled loop still has, the loop had. -/
theorem lookup_of_cancelIfSet (l : EventLoop τ κ) {o : Option TimerId} {t : TimerId}
    {timer : Timer τ} (h : (l.cancelIfSet o).timers.lookup t = some timer) :
    o ≠ some t ∧ l.timers.lookup t = some timer := by
  have hne : o ≠ some t := by
    rintro rfl
    rw [lookup_cancelIfSet_self] at h
    cases h
  exact ⟨hne, by rwa [lookup_cancelIfSet_of_ne l hne] at h⟩

/-- A live timer is not the next one. -/
theorem ne_nextTimerId (l : EventLoop τ κ) {t : TimerId} {timer : Timer τ}
    (h : l.timers.lookup t = some timer) : t ≠ l.nextTimerId :=
  (l.fresh t (Finmap.mem_of_lookup_eq_some h)).ne

/-- Arming a timer keeps the live ones. -/
theorem lookup_runAfter_of_live (l : EventLoop τ κ) (d : ℕ) (task : τ) {t : TimerId}
    {timer : Timer τ} (h : l.timers.lookup t = some timer) :
    (l.runAfter d task).timers.lookup t = some timer := by
  rw [lookup_runAfter_of_ne _ _ _ (l.ne_nextTimerId h), h]

theorem lookup_of_runAfter (l : EventLoop τ κ) {d : ℕ} {task : τ} {t : TimerId} {timer : Timer τ}
    (h : (l.runAfter d task).timers.lookup t = some timer) :
    (t = l.nextTimerId ∧ timer = ⟨l.now + d, task⟩) ∨ l.timers.lookup t = some timer := by
  by_cases ht : t = l.nextTimerId
  · subst ht
    rw [lookup_runAfter_self] at h
    exact .inl ⟨rfl, (Option.some.inj h).symm⟩
  · rw [lookup_runAfter_of_ne _ _ _ ht] at h
    exact .inr h

theorem lookup_runAfterIfPos_of_live (l : EventLoop τ κ) (d : ℕ) (task : τ) {t : TimerId}
    {timer : Timer τ} (h : l.timers.lookup t = some timer) :
    (l.runAfterIfPos d task).1.timers.lookup t = some timer := by
  unfold runAfterIfPos
  split_ifs
  · exact l.lookup_runAfter_of_live d task h
  · exact h

theorem lookup_of_runAfterIfPos (l : EventLoop τ κ) {d : ℕ} {task : τ} {t : TimerId}
    {timer : Timer τ} (h : (l.runAfterIfPos d task).1.timers.lookup t = some timer) :
    ((l.runAfterIfPos d task).2 = some t ∧ timer = ⟨l.now + d, task⟩) ∨
      l.timers.lookup t = some timer := by
  unfold runAfterIfPos at h ⊢
  split_ifs at h ⊢
  · exact (l.lookup_of_runAfter h).imp_left fun ⟨ht, htimer⟩ => ⟨by rw [ht], htimer⟩
  · exact .inr h

/-- For a positive delay a timer is armed. -/
theorem runAfterIfPos_of_pos (l : EventLoop τ κ) {d : ℕ} (hd : 0 < d) (task : τ) :
    ∃ t, (l.runAfterIfPos d task).2 = some t ∧
      (l.runAfterIfPos d task).1.timers.lookup t = some ⟨l.now + d, task⟩ := by
  unfold runAfterIfPos
  rw [if_pos hd]
  exact ⟨l.nextTimerId, rfl, l.lookup_runAfter_self d task⟩

theorem fire_eq_some {l l' : EventLoop τ κ} {t : TimerId} {task : τ}
    (h : l.fire t = some (task, l')) :
    ∃ deadline, l.timers.lookup t = some ⟨deadline, task⟩ ∧ deadline ≤ l.now ∧ l' = l.cancel t := by
  unfold fire at h
  split at h
  · cases h
  · rename_i timer ht
    split_ifs at h with hdue
    obtain ⟨rfl, rfl⟩ := Prod.mk.inj (Option.some.inj h)
    exact ⟨timer.deadline, ht, hdue, rfl⟩

/-! ### Late timers -/

/-- No live timer is more than `δ` late. -/
def OnTime (l : EventLoop τ κ) (δ : ℕ) : Prop :=
  ∀ t ∈ l.timers.keys, ∀ timer ∈ l.timers.lookup t, l.now ≤ timer.deadline + δ

instance (l : EventLoop τ κ) (δ : ℕ) : Decidable (l.OnTime δ) :=
  inferInstanceAs (Decidable (∀ _ ∈ l.timers.keys, ∀ _ ∈ _, _))

theorem onTime_iff {l : EventLoop τ κ} {δ : ℕ} : l.OnTime δ ↔
    ∀ t timer, l.timers.lookup t = some timer → l.now ≤ timer.deadline + δ := by
  constructor
  · intro h t timer ht
    exact h t (Finmap.mem_keys.mpr (Finmap.mem_of_lookup_eq_some ht)) timer ht
  · intro h t _ timer ht
    exact h t timer ht

theorem onTime_init (δ : ℕ) : (init : EventLoop τ κ).OnTime δ :=
  onTime_iff.mpr fun t _ h => by cases (Finmap.lookup_empty t).symm.trans h

theorem OnTime.cancelIfSet {l : EventLoop τ κ} {δ : ℕ} (h : l.OnTime δ) (o : Option TimerId) :
    (l.cancelIfSet o).OnTime δ := by
  refine onTime_iff.mpr fun t timer ht => ?_
  rw [now_cancelIfSet]
  exact onTime_iff.mp h t timer (l.lookup_of_cancelIfSet ht).2

theorem OnTime.runAfter {l : EventLoop τ κ} {δ : ℕ} (h : l.OnTime δ) (d : ℕ) (task : τ) :
    (l.runAfter d task).OnTime δ := by
  refine onTime_iff.mpr fun t timer ht => ?_
  rw [now_runAfter]
  rcases l.lookup_of_runAfter ht with ⟨_, rfl⟩ | hold
  · exact (Nat.le_add_right _ d).trans (Nat.le_add_right _ δ)
  · exact onTime_iff.mp h t timer hold

theorem OnTime.runAfterIfPos {l : EventLoop τ κ} {δ : ℕ} (h : l.OnTime δ) (d : ℕ) (task : τ) :
    (l.runAfterIfPos d task).1.OnTime δ := by
  unfold EventLoop.runAfterIfPos
  split_ifs
  · exact h.runAfter d task
  · exact h

end EventLoop

end MiniRpc
