import Mathlib.Logic.Relation

/-!
# Machines with a partial step function

A `Machine` has an initial state and a step function that is undefined where an action is not
enabled.  `ReachableBy C` are the states of the runs all of whose steps satisfy the condition `C`
on the state before the step and the action; `Reachable` puts no condition on the steps.

Two rules carry every run theorem: `ReachableBy.invariant` is the induction over a run, and
`Reachable.chain` is the same induction for a machine whose steps are sequences of smaller
transitions of a relation `R`, so that an invariant has only to be checked on `R`.  A concrete run
is given by a list of actions (`execBy`, `reachableBy_afterBy`).
-/

namespace MiniRpc

/-- An initial state and a partial step function. -/
structure Machine (σ α : Type*) where
  /-- The state every run starts in. -/
  init : σ
  /-- The state after an action, `none` where the action is not enabled. -/
  step : σ → α → Option σ

namespace Machine

variable {σ α : Type*} (M : Machine σ α)

/-- The states reached by the runs all of whose steps satisfy `C`. -/
inductive ReachableBy (C : σ → α → Prop) : σ → Prop
  | init : ReachableBy C M.init
  | step {s s' : σ} {a : α} : ReachableBy C s → C s a → M.step s a = some s' → ReachableBy C s'

/-- The states reached by any run. -/
def Reachable : σ → Prop := M.ReachableBy fun _ _ => True

variable {M} {C C' : σ → α → Prop} {s s' : σ} {a : α}

theorem Reachable.init : M.Reachable M.init := ReachableBy.init

theorem Reachable.step (h : M.Reachable s) (hs : M.step s a = some s') : M.Reachable s' :=
  ReachableBy.step h trivial hs

/-- A weaker condition on the steps reaches more. -/
theorem ReachableBy.mono (hC : ∀ s a, C s a → C' s a) (h : M.ReachableBy C s) :
    M.ReachableBy C' s := by
  induction h with
  | init => exact .init
  | step _ hc hs ih => exact .step ih (hC _ _ hc) hs

theorem ReachableBy.reachable (h : M.ReachableBy C s) : M.Reachable s :=
  h.mono fun _ _ _ => trivial

/-- **Invariant rule.** What holds initially and is kept by every allowed step of a reachable
state holds in every state reached. -/
theorem ReachableBy.invariant {P : σ → Prop} (h0 : P M.init)
    (hstep : ∀ s a s', M.ReachableBy C s → C s a → P s → M.step s a = some s' → P s')
    (h : M.ReachableBy C s) : P s := by
  induction h with
  | init => exact h0
  | step hr hc hs ih => exact hstep _ _ _ hr hc ih hs

theorem Reachable.invariant {P : σ → Prop} (h0 : P M.init)
    (hstep : ∀ s a s', M.Reachable s → P s → M.step s a = some s' → P s')
    (h : M.Reachable s) : P s :=
  ReachableBy.invariant h0 (fun s a s' hr _ hp hs => hstep s a s' hr hp hs) h

/-- A property kept by every transition of `R` is kept by a sequence of them. -/
theorem preserved_of_chain {R : σ → σ → Prop} {P : σ → Prop} (hR : ∀ s s', P s → R s s' → P s')
    (h : Relation.ReflTransGen R s s') (hp : P s) : P s' := by
  induction h with
  | refl => exact hp
  | tail _ hr ih => exact hR _ _ ih hr

/-- **Invariant rule for decomposed steps.** If every step is a sequence of transitions of `R`,
an invariant of `R` is an invariant of the machine. -/
theorem Reachable.chain {R : σ → σ → Prop} {P : σ → Prop} (h0 : P M.init)
    (hdec : ∀ s a s', M.step s a = some s' → Relation.ReflTransGen R s s')
    (hR : ∀ s s', P s → R s s' → P s') (h : M.Reachable s) : P s :=
  h.invariant h0 fun s a s' _ hp hs => preserved_of_chain hR (hdec s a s' hs) hp

/-! ### Runs from a state -/

/-- The actions lead from the one state to the other. -/
inductive Run (M : Machine σ α) : σ → List α → σ → Prop
  | nil {s : σ} : Run M s [] s
  | cons {s t s' : σ} {a : α} {as : List α} :
      M.step s a = some t → Run M t as s' → Run M s (a :: as) s'

theorem Run.reachable {as : List α} (hrun : M.Run s as s') (h : M.Reachable s) :
    M.Reachable s' := by
  induction hrun with
  | nil => exact h
  | cons hs _ ih => exact ih (h.step hs)

/-- What every step of a reachable state does to the state, a run does. -/
theorem Run.relates {R : σ → σ → Prop} (hrefl : ∀ s, R s s)
    (htrans : ∀ s t s', R s t → R t s' → R s s')
    (hstep : ∀ s a s', M.Reachable s → M.step s a = some s' → R s s') {as : List α}
    (hrun : M.Run s as s') (h : M.Reachable s) : R s s' := by
  induction hrun with
  | nil => exact hrefl _
  | cons hs _ ih => exact htrans _ _ _ (hstep _ _ _ h hs) (ih (h.step hs))

/-! ### Concrete runs -/

section Exec

variable (M) (C) [∀ s a, Decidable (C s a)]

/-- Run a list of actions, each of which has to satisfy `C`. -/
def execBy : σ → List α → Option σ
  | s, [] => some s
  | s, a :: as => if C s a then (M.step s a).bind fun s' => execBy s' as else none

/-- The state after a list of actions that satisfy `C`, the initial one if some action is not
enabled. -/
def afterBy (as : List α) : σ := (M.execBy C M.init as).getD M.init

variable {M C}

theorem reachableBy_of_execBy : ∀ {as : List α} {s s' : σ}, M.ReachableBy C s →
    M.execBy C s as = some s' → M.ReachableBy C s'
  | [], s, s', hs, h => by
    obtain rfl := Option.some.inj h
    exact hs
  | a :: as, s, s', hs, h => by
    rw [execBy] at h
    by_cases hc : C s a
    · rw [if_pos hc] at h
      obtain ⟨t, ht, h⟩ := Option.bind_eq_some_iff.mp h
      exact reachableBy_of_execBy (hs.step hc ht) h
    · rw [if_neg hc] at h
      cases h

theorem run_of_execBy : ∀ {as : List α} {s s' : σ}, M.execBy C s as = some s' → M.Run s as s'
  | [], s, s', h => by
    obtain rfl := Option.some.inj h
    exact .nil
  | a :: as, s, s', h => by
    rw [execBy] at h
    split at h
    · obtain ⟨t, ht, h⟩ := Option.bind_eq_some_iff.mp h
      exact .cons ht (run_of_execBy h)
    · cases h

theorem execBy_append (as bs : List α) (s : σ) :
    M.execBy C s (as ++ bs) = (M.execBy C s as).bind fun t => M.execBy C t bs := by
  induction as generalizing s with
  | nil => rfl
  | cons a as ih =>
    rw [List.cons_append, execBy, execBy]
    split
    · cases M.step s a with
      | none => rfl
      | some t => exact ih t
    · rfl

/-- A concrete run goes on. -/
theorem run_afterBy {as bs : List α} (h : (M.execBy C M.init (as ++ bs)).isSome = true) :
    M.Run (M.afterBy C as) bs (M.afterBy C (as ++ bs)) := by
  obtain ⟨s', hs'⟩ := Option.isSome_iff_exists.mp h
  have hrun := hs'
  rw [execBy_append] at hrun
  obtain ⟨s, hs, hrun⟩ := Option.bind_eq_some_iff.mp hrun
  rw [afterBy, hs, afterBy, hs']
  exact run_of_execBy hrun

theorem reachableBy_afterBy (as : List α) : M.ReachableBy C (M.afterBy C as) := by
  unfold afterBy
  cases h : M.execBy C M.init as with
  | none => exact .init
  | some s => exact reachableBy_of_execBy .init h

end Exec

variable (M) in
/-- The state after a list of actions, the initial one if some action is not enabled. -/
def after (as : List α) : σ := M.afterBy (fun _ _ => True) as

theorem reachable_after (as : List α) : M.Reachable (M.after as) := reachableBy_afterBy as

end Machine

end MiniRpc
