import Mathlib.Data.List.Count
import MiniRpc.Machine.Basic

/-!
# Machines that come to rest

Some of the actions of a machine are internal: nobody outside has to do anything for them.
`Descends` says that each internal action lowers a rank.  Then a machine that is left alone takes no
more steps than the rank (`Descends.length_le`), and every state can be brought to rest by internal
actions alone (`Descends.exists_rest`).

`Ranks` adds that an external action raises the rank by at most its cost.  Then a run has no more
internal actions than the rank of its first state and the costs of its external ones pay for
(`Ranks.internal_le`), whatever the order of the actions.

No fairness is assumed: a scheduler that goes on while some internal action is enabled reaches a
state at rest.
-/

namespace MiniRpc.Machine

variable {σ α : Type*} {M : Machine σ α} {P : σ → Prop} {internal : α → Bool} {rank : σ → ℕ}
  {cost : α → ℕ} {s s' : σ} {as : List α}

/-- No internal action is enabled. -/
def Rest (M : Machine σ α) (internal : α → Bool) (s : σ) : Prop :=
  ∀ a, internal a → M.step s a = none

/-- Internal actions lower the rank. -/
structure Descends (M : Machine σ α) (P : σ → Prop) (internal : α → Bool) (rank : σ → ℕ) :
    Prop where
  kept : ∀ s a s', P s → M.step s a = some s' → P s'
  lowers : ∀ s a s', P s → internal a = true → M.step s a = some s' → rank s' < rank s

/-- Internal actions lower the rank, the others raise it by at most their cost. -/
structure Ranks (M : Machine σ α) (P : σ → Prop) (internal : α → Bool) (rank : σ → ℕ)
    (cost : α → ℕ) : Prop extends Descends M P internal rank where
  raises : ∀ s a s', P s → internal a = false → M.step s a = some s' →
    rank s' ≤ rank s + cost a

/-! ### Left alone -/

/-- How many steps a machine takes that is left alone. -/
theorem Descends.length_le (h : Descends M P internal rank) (hP : P s) (hrun : M.Run s as s')
    (has : ∀ a ∈ as, internal a = true) : as.length + rank s' ≤ rank s := by
  induction hrun with
  | nil => simp
  | @cons s t s' a as hs _ ih =>
    have hlower := h.lowers _ _ _ hP (has a List.mem_cons_self) hs
    have hrest := ih (h.kept _ _ _ hP hs) fun b hb => has b (List.mem_cons_of_mem _ hb)
    rw [List.length_cons]
    omega

/-- Nothing is left to do at rank zero. -/
theorem Descends.rest_of_eq_zero (h : Descends M P internal rank) (hP : P s)
    (hzero : rank s = 0) : M.Rest internal s := by
  intro a ha
  cases hs : M.step s a with
  | none => rfl
  | some s' =>
    have hlower := h.lowers _ _ _ hP ha hs
    omega

/-- Internal actions alone bring every state to rest. -/
theorem Descends.exists_rest (h : Descends M P internal rank) (hP : P s) :
    ∃ as s', (∀ a ∈ as, internal a = true) ∧ M.Run s as s' ∧ M.Rest internal s' := by
  induction hn : rank s using Nat.strongRecOn generalizing s with
  | ind n ih =>
    by_cases hrest : M.Rest internal s
    · exact ⟨[], s, fun _ hmem => (by cases hmem), .nil, hrest⟩
    · -- some internal action is enabled, and its rank is lower
      unfold Rest at hrest
      push Not at hrest
      obtain ⟨a, ha, hstep⟩ := hrest
      obtain ⟨t, ht⟩ := Option.ne_none_iff_exists'.mp hstep
      have hlower := h.lowers _ _ _ hP ha ht
      obtain ⟨as, s', has, hrun, hrest⟩ := ih _ (hn ▸ hlower) (h.kept _ _ _ hP ht) rfl
      refine ⟨a :: as, s', fun b hb => ?_, .cons ht hrun, hrest⟩
      rcases List.mem_cons.mp hb with rfl | hb
      · exact ha
      · exact has b hb

/-! ### With external actions -/

/-- What the external actions of a run cost. -/
def costs (internal : α → Bool) (cost : α → ℕ) : List α → ℕ
  | [] => 0
  | a :: as => (if internal a then 0 else cost a) + costs internal cost as

/-- **Ranking rule.** -/
theorem Ranks.run (h : Ranks M P internal rank cost) (hP : P s) (hrun : M.Run s as s') :
    rank s' + as.countP internal ≤ rank s + costs internal cost as := by
  induction hrun with
  | nil => exact Nat.le_refl _
  | @cons s t s' a as hs _ ih =>
    have hrest := ih (h.kept _ _ _ hP hs)
    cases ha : internal a with
    | true =>
      have hlower := h.lowers _ _ _ hP ha hs
      rw [List.countP_cons_of_pos ha, costs, if_pos ha]
      omega
    | false =>
      have hraise := h.raises _ _ _ hP ha hs
      have hnot : ¬ internal a = true := by simp [ha]
      rw [List.countP_cons_of_neg hnot, costs, if_neg hnot]
      omega

/-- How many internal actions a run can have. -/
theorem Ranks.internal_le (h : Ranks M P internal rank cost) (hP : P s) (hrun : M.Run s as s') :
    as.countP internal ≤ rank s + costs internal cost as :=
  Nat.le_trans (Nat.le_add_left _ _) (h.run hP hrun)

end MiniRpc.Machine
