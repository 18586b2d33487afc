import Mathlib.Data.List.Basic

/-!
# First-in first-out channels in one list

A `Channel κ μ` holds the messages in flight on several channels, each tagged with its channel: the
messages with one tag, in their order in the list, are the contents of that channel.  Messages are
sent at the end of the list; `first` is the oldest message of a channel and `dropFirst` takes it
out.

`count` counts the messages of one channel that satisfy a test: what is sent adds to it, what is
taken out is subtracted.
-/

namespace MiniRpc

/-- Messages in flight, the oldest first, each with the channel it is on. -/
abbrev Channel (κ μ : Type*) := List (κ × μ)

namespace Channel

variable {κ μ : Type*} [DecidableEq κ]

/-- The oldest message on a channel. -/
def first (ch : Channel κ μ) (k : κ) : Option μ := (ch.find? fun f => f.1 = k).map Prod.snd

/-- The channel without its oldest message. -/
def dropFirst (ch : Channel κ μ) (k : κ) : Channel κ μ := ch.eraseP fun f => f.1 = k

/-- How many messages on a channel satisfy the test. -/
def count (ch : Channel κ μ) (k : κ) (p : μ → Bool) : ℕ := ch.countP fun f => f.1 = k && p f.2

theorem count_nil (k : κ) (p : μ → Bool) : count [] k p = 0 := rfl

theorem count_cons (f : κ × μ) (ch : Channel κ μ) (k : κ) (p : μ → Bool) :
    count (f :: ch) k p = (if f.1 = k ∧ p f.2 = true then 1 else 0) + count ch k p := by
  rw [count, List.countP_cons, Nat.add_comm]
  simp only [Bool.and_eq_true, decide_eq_true_eq]
  rfl

/-- What is sent adds to the count of its channel. -/
theorem count_send (ch : Channel κ μ) (k' : κ) (m : μ) (k : κ) (p : μ → Bool) :
    count (ch ++ [(k', m)]) k p = count ch k p + if k' = k ∧ p m = true then 1 else 0 := by
  rw [count, List.countP_append, List.countP_singleton]
  simp only [Bool.and_eq_true, decide_eq_true_eq]
  rfl

/-- Nothing counts in an empty channel. -/
theorem count_eq_zero {ch : Channel κ μ} {k : κ} (h : ∀ m, (k, m) ∉ ch) (p : μ → Bool) :
    count ch k p = 0 := by
  refine List.countP_eq_zero.mpr fun f hf hp => ?_
  simp only [Bool.and_eq_true, decide_eq_true_eq] at hp
  obtain ⟨k', m⟩ := f
  obtain rfl := hp.1
  exact h m hf

theorem count_pos_of_mem {ch : Channel κ μ} {k : κ} {m : μ} (h : (k, m) ∈ ch) {p : μ → Bool}
    (hp : p m = true) : 0 < count ch k p :=
  List.countP_pos_iff.mpr ⟨(k, m), h, by simp [hp]⟩

theorem mem_of_first {ch : Channel κ μ} {k : κ} {m : μ} (h : ch.first k = some m) :
    (k, m) ∈ ch := by
  obtain ⟨f, hf, rfl⟩ := Option.map_eq_some_iff.mp h
  have hk : f.1 = k := by simpa using List.find?_some hf
  exact hk ▸ List.mem_of_find?_eq_some hf

/-- A channel with a message has an oldest one. -/
theorem exists_first {ch : Channel κ μ} {k : κ} {m : μ} (h : (k, m) ∈ ch) :
    ∃ m', ch.first k = some m' := by
  refine Option.isSome_iff_exists.mp ?_
  unfold first
  rw [Option.isSome_map, List.find?_isSome]
  exact ⟨(k, m), h, decide_eq_true rfl⟩

theorem mem_of_mem_dropFirst {ch : Channel κ μ} {k : κ} {f : κ × μ} (h : f ∈ ch.dropFirst k) :
    f ∈ ch := List.mem_of_mem_eraseP h

/-- Taking out the oldest message leaves the others. -/
theorem perm_of_first {ch : Channel κ μ} {k : κ} {m : μ} (h : ch.first k = some m) :
    ch.Perm ((k, m) :: ch.dropFirst k) := by
  induction ch with
  | nil => cases h
  | cons f ch ih =>
    unfold first dropFirst at *
    by_cases hk : f.1 = k
    · rw [List.find?_cons_of_pos (by simp [hk])] at h
      obtain rfl := Option.some.inj h
      rw [List.eraseP_cons_of_pos (by simp [hk]), ← hk]
    · rw [List.find?_cons_of_neg (by simp [hk])] at h
      rw [List.eraseP_cons_of_neg (by simp [hk])]
      exact ((ih h).cons f).trans (.swap _ _ _)

/-- The oldest message counts in its channel. -/
theorem count_of_first {ch : Channel κ μ} {k : κ} {m : μ} (h : ch.first k = some m)
    (p : μ → Bool) :
    count ch k p = (if p m = true then 1 else 0) + count (ch.dropFirst k) k p := by
  rw [count, (perm_of_first h).countP_eq]
  exact (count_cons _ _ _ _).trans (by simp only [true_and])

/-- The other channels keep their messages. -/
theorem count_dropFirst_of_ne (ch : Channel κ μ) {k k' : κ} (hne : k' ≠ k) (p : μ → Bool) :
    count (ch.dropFirst k') k p = count ch k p := by
  induction ch with
  | nil => rfl
  | cons f ch ih =>
    unfold dropFirst at *
    by_cases hk : f.1 = k'
    · have hk' : ¬ (f.1 = k ∧ p f.2 = true) := fun hmatch => hne (hk.symm.trans hmatch.1)
      rw [List.eraseP_cons_of_pos (by simp [hk]), count_cons, if_neg hk', Nat.zero_add]
    · rw [List.eraseP_cons_of_neg (by simp [hk]), count_cons, count_cons, ih]

/-- Taking out the oldest message of a channel subtracts it from the count of that channel. -/
theorem count_dropFirst {ch : Channel κ μ} {k' : κ} {m : μ} (h : ch.first k' = some m) (k : κ)
    (p : μ → Bool) :
    count ch k p = (if k' = k ∧ p m = true then 1 else 0) + count (ch.dropFirst k') k p := by
  by_cases hk : k' = k
  · subst hk
    rw [count_of_first h]
    simp only [true_and]
  · rw [count_dropFirst_of_ne ch hk, if_neg fun hmatch => hk hmatch.1, Nat.zero_add]

theorem count_dropFirst_le (ch : Channel κ μ) (k' k : κ) (p : μ → Bool) :
    count (ch.dropFirst k') k p ≤ count ch k p :=
  List.eraseP_sublist.countP_le

end Channel

end MiniRpc
