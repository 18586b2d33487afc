import MiniRpc.Machine.Basic

/-!
# The steps of a run

`History` lists the steps of a run, the latest first, so that what happened can be read from the run
instead of the state.  `History.invariant` is the induction over a run with its steps; what a run
does after one of its steps follows from `History.split` and `History.persists`, and
`History.exists_flip` finds the step with which a property began to hold.  `History.view_eq` is for
a part of the state that only some of the steps change: two runs in which these steps are the same
leave it the same.
-/

namespace MiniRpc.Machine

/-- One step of a run. -/
structure Step (σ α : Type*) where
  before : σ
  action : α
  after : σ

variable {σ α : Type*} {M : Machine σ α} {s s' : σ} {a : α} {steps later earlier : List (Step σ α)}
  {st : Step σ α}

/-- The steps of a run that ends in a state, the latest first. -/
inductive History (M : Machine σ α) : List (Step σ α) → σ → Prop
  | nil : History M [] M.init
  | cons {steps : List (Step σ α)} {s s' : σ} {a : α} :
      History M steps s → M.step s a = some s' → History M (⟨s, a, s'⟩ :: steps) s'

theorem History.reachable (h : M.History steps s) : M.Reachable s := by
  induction h with
  | nil => exact Reachable.init
  | cons _ hs ih => exact ih.step hs

/-- **Invariant rule** for the states of a run together with its steps. -/
theorem History.invariant {P : List (Step σ α) → σ → Prop} (h0 : P [] M.init)
    (hstep : ∀ steps s a s', P steps s → M.step s a = some s' → P (⟨s, a, s'⟩ :: steps) s')
    (h : M.History steps s) : P steps s := by
  induction h with
  | nil => exact h0
  | cons _ hs ih => exact hstep _ _ _ _ ih hs

/-- A run up to one of its steps. -/
theorem History.split (h : M.History (later ++ st :: earlier) s) :
    M.History earlier st.before ∧ M.step st.before st.action = some st.after := by
  generalize hsteps : later ++ st :: earlier = steps at h
  induction h generalizing later with
  | nil => exact absurd hsteps (by simp)
  | cons hrun hs ih =>
    cases later with
    | nil =>
      obtain ⟨rfl, rfl⟩ := List.cons.inj hsteps
      exact ⟨hrun, hs⟩
    | cons other later => exact ih (List.cons.inj hsteps).2

/-- What holds after a step of a run and is kept by the steps holds at the later steps. -/
theorem History.persists {Q : σ → Prop}
    (hQ : ∀ s a s', M.Reachable s → Q s → M.step s a = some s' → Q s')
    (h : M.History (later ++ st :: earlier) s) (hst : Q st.after) :
    Q s ∧ ∀ st' ∈ later, M.Reachable st'.before ∧
      M.step st'.before st'.action = some st'.after ∧ Q st'.before ∧ Q st'.after := by
  generalize hsteps : later ++ st :: earlier = steps at h
  induction h generalizing later with
  | nil => exact absurd hsteps (by simp)
  | cons hrun hs ih =>
    cases later with
    | nil =>
      -- the step is the last one of the run
      obtain ⟨rfl, -⟩ := List.cons.inj hsteps
      exact ⟨hst, fun _ hmem => (by cases hmem)⟩
    | cons other later =>
      obtain ⟨rfl, hrest⟩ := List.cons.inj hsteps
      obtain ⟨hold, hlater⟩ := ih hrest
      have hnow := hQ _ _ _ hrun.reachable hold hs
      refine ⟨hnow, fun st' hmem => ?_⟩
      rcases List.mem_cons.mp hmem with rfl | hmem
      · exact ⟨hrun.reachable, hs, hold, hnow⟩
      · exact hlater st' hmem

/-- What does not hold at the start and holds now began to hold with a step. -/
theorem History.exists_flip {Q : σ → Prop} (h : M.History steps s) (h0 : ¬ Q M.init) (hs : Q s) :
    ∃ st ∈ steps, M.Reachable st.before ∧ M.step st.before st.action = some st.after ∧
      ¬ Q st.before ∧ Q st.after := by
  induction h with
  | nil => exact absurd hs h0
  | @cons steps s s' a hrun hstep ih =>
    by_cases hold : Q s
    -- it held before the last step, so it began earlier
    · obtain ⟨st, hst, hflip⟩ := ih hold
      exact ⟨st, .tail _ hst, hflip⟩
    · exact ⟨_, List.mem_cons_self, hrun.reachable, hstep, hold, hs⟩

/-- The steps of a run that a label is given to, the latest first. -/
def labels {E : Type*} (label : σ → α → Option E) (steps : List (Step σ α)) : List E :=
  steps.filterMap fun st => label st.before st.action

/-- **Projection rule.** A view that changes with the labelled steps only, and then as a function of
the view and the label, is a function of the labels of the run. -/
theorem History.view_eq {V E : Type*} {view : σ → V} {label : σ → α → Option E} {next : E → V → V}
    {C : Step σ α → Prop}
    (hstep : ∀ s a s', M.Reachable s → C ⟨s, a, s'⟩ → M.step s a = some s' →
      view s' = (label s a).elim (view s) fun e => next e (view s))
    (h : M.History steps s) (hC : ∀ st ∈ steps, C st) :
    view s = (labels label steps).foldr next (view M.init) := by
  induction h with
  | nil => rfl
  | @cons steps s s' a hrun hs ih =>
    have hview := hstep s a s' hrun.reachable (hC _ List.mem_cons_self) hs
    have hold := ih fun st hst => hC st (List.mem_cons_of_mem _ hst)
    unfold labels at hold ⊢
    cases hlabel : label s a with
    | none =>
      rw [hlabel] at hview
      rw [List.filterMap_cons_none (f := fun st : Step σ α => label st.before st.action) hlabel]
      exact hview.trans hold
    | some e =>
      rw [hlabel] at hview
      rw [List.filterMap_cons_some (f := fun st : Step σ α => label st.before st.action) hlabel,
        List.foldr_cons, ← hold]
      exact hview

/-- A run goes on. -/
theorem History.append_run {as : List α} (h : M.History steps s) (hrun : M.Run s as s') :
    ∃ steps', M.History steps' s' ∧
      steps'.map Step.action = as.reverse ++ steps.map Step.action := by
  induction hrun generalizing steps with
  | nil => exact ⟨steps, h, rfl⟩
  | cons hs _ ih =>
    obtain ⟨steps', hsteps', hactions⟩ := ih (.cons h hs)
    refine ⟨steps', hsteps', ?_⟩
    rw [hactions, List.reverse_cons, List.append_assoc]
    rfl

/-- The steps a list of actions takes from a state, the latest first. -/
def stepsFrom (M : Machine σ α) (s : σ) : List α → List (Step σ α)
  | [] => []
  | a :: as =>
    match M.step s a with
    | none => []
    | some s' => stepsFrom M s' as ++ [⟨s, a, s'⟩]

theorem History.append_stepsFrom {C : σ → α → Prop} [∀ s a, Decidable (C s a)] {as : List α}
    (h : M.History steps s) (hexec : M.execBy C s as = some s') :
    M.History (M.stepsFrom s as ++ steps) s' := by
  induction as generalizing s steps with
  | nil =>
    obtain rfl := Option.some.inj hexec
    exact h
  | cons a as ih =>
    rw [execBy] at hexec
    split at hexec
    · obtain ⟨t, ht, hexec⟩ := Option.bind_eq_some_iff.mp hexec
      rw [stepsFrom, ht, List.append_assoc]
      exact ih (h.cons ht) hexec
    · cases hexec

/-- A concrete run with its steps. -/
theorem history_after {as : List α}
    (h : (M.execBy (fun _ _ => True) M.init as).isSome = true) :
    M.History (M.stepsFrom M.init as) (M.after as) := by
  obtain ⟨s, hs⟩ := Option.isSome_iff_exists.mp h
  have hrun := History.nil.append_stepsFrom hs
  rw [List.append_nil] at hrun
  rw [after, afterBy, hs]
  exact hrun

end MiniRpc.Machine
