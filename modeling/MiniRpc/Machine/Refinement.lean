import MiniRpc.Machine.Basic

/-!
# Refinement between machines

`M` refines `N` along `abs` when `abs` takes the initial state to the initial state and every step
of a reachable state of `M` to a step of `N`, or to no step at all.  What holds of every reachable
state of `N` then holds of the image of every reachable state of `M`.
-/

namespace MiniRpc.Machine

variable {σ α τ β : Type*} {M : Machine σ α} {N : Machine τ β} {s s' : σ}

/-- Every step of `M` is a step of `N`, or invisible to it. -/
structure Refines (M : Machine σ α) (N : Machine τ β) (abs : σ → τ) : Prop where
  init : abs M.init = N.init
  step : ∀ s a s', M.Reachable s → M.step s a = some s' →
    abs s' = abs s ∨ ∃ b, N.step (abs s) b = some (abs s')

theorem Refines.reachable {abs : σ → τ} (h : Refines M N abs) (hs : M.Reachable s) :
    N.Reachable (abs s) := by
  induction hs with
  | init => exact h.init ▸ Reachable.init
  | step hr _ hstep ih =>
    rcases h.step _ _ _ hr hstep with heq | ⟨b, hb⟩
    · rwa [heq]
    · exact ih.step hb

end MiniRpc.Machine
