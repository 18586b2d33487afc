import Mathlib.Algebra.BigOperators.Group.Finset.Basic
import Mathlib.Data.Finmap

/-!
# Finite maps

What an insertion and an erasure leave to be looked up, `Finmap.filter p m`, which keeps the entries
of `m` that satisfy `p`, and maps of maps: `Finmap.lookup₂` reads one at two keys, `insertInner` and
`eraseInner` change one entry of an inner map and leave no empty inner map behind (`Trim`), and
`Finmap.uncurry m` is the map as one map on pairs.
-/

namespace Finmap

variable {α β : Type*} [DecidableEq α]

theorem lookup_insert_eq_some {m : Finmap fun _ : α => β} {a a' : α} {b b' : β} :
    (m.insert a b).lookup a' = some b' ↔
      (a' = a ∧ b' = b) ∨ (a' ≠ a ∧ m.lookup a' = some b') := by
  by_cases h : a' = a
  · subst h
    rw [lookup_insert]
    simp [eq_comm]
  · rw [lookup_insert_of_ne _ h]
    simp [h]

theorem lookup_erase_eq_some {m : Finmap fun _ : α => β} {a a' : α} {b' : β} :
    (m.erase a).lookup a' = some b' ↔ a' ≠ a ∧ m.lookup a' = some b' := by
  by_cases h : a' = a
  · subst h
    simp [lookup_erase]
  · rw [lookup_erase_ne h]
    simp [h]

theorem erase_insert (m : Finmap fun _ : α => β) (a : α) (b : β) :
    (m.insert a b).erase a = m.erase a := by
  refine ext_lookup fun a' => ?_
  by_cases h : a' = a
  · subst h
    rw [lookup_erase, lookup_erase]
  · rw [lookup_erase_ne h, lookup_insert_of_ne _ h, lookup_erase_ne h]

/-- The entries of `m` that satisfy `p`. -/
def filter (p : α → β → Bool) (m : Finmap fun _ : α => β) : Finmap fun _ : α => β where
  entries := m.entries.filter fun e => p e.1 e.2
  nodupKeys := by
    rw [← Multiset.nodup_keys]
    exact Multiset.nodup_of_le (Multiset.map_le_map (Multiset.filter_le _ _))
      (Multiset.nodup_keys.mpr m.nodupKeys)

theorem lookup_filter_eq_some {p : α → β → Bool} {m : Finmap fun _ : α => β} {a : α} {b : β} :
    (m.filter p).lookup a = some b ↔ m.lookup a = some b ∧ p a b = true := by
  rw [lookup_eq_some_iff, lookup_eq_some_iff]
  exact Multiset.mem_filter

theorem mem_of_mem_filter {p : α → β → Bool} {m : Finmap fun _ : α => β} {a : α}
    (h : a ∈ m.filter p) : a ∈ m := by
  obtain ⟨b, hb⟩ := mem_iff.mp h
  exact mem_of_lookup_eq_some (lookup_filter_eq_some.mp hb).1

omit [DecidableEq α] in
theorem filter_true_add_false (p : α → β → Bool) (m : Finmap fun _ : α => β) :
    (m.filter p).entries + (m.filter fun a b => ! p a b).entries = m.entries := by
  have h := Multiset.filter_add_not (fun e : Σ _ : α, β => p e.1 e.2 = true) m.entries
  simpa [filter] using h

/-- The entries without the one that is erased. -/
theorem entries_erase {m : Finmap fun _ : α => β} {a : α} {b : β} (h : m.lookup a = some b) :
    m.entries = ⟨a, b⟩ ::ₘ (m.erase a).entries := by
  have hback : (m.erase a).insert a b = m := by
    refine ext_lookup fun a' => ?_
    by_cases ha : a' = a
    · rw [ha, lookup_insert, h]
    · rw [lookup_insert_of_ne _ ha, lookup_erase_ne ha]
  rw [← entries_insert_of_notMem notMem_erase_self, hback]

theorem card_keys_insert {m : Finmap fun _ : α => β} {a : α} (h : a ∉ m) (b : β) :
    (m.insert a b).keys.card = m.keys.card + 1 := by
  have hkeys : (m.insert a b).keys = Insert.insert a m.keys := by
    ext a'
    rw [Finset.mem_insert, mem_keys, mem_keys, mem_insert]
  rw [hkeys, Finset.card_insert_of_notMem (mem_keys.not.mpr h)]

theorem card_keys_insert_le (m : Finmap fun _ : α => β) (a : α) (b : β) :
    (m.insert a b).keys.card ≤ m.keys.card + 1 := by
  by_cases h : a ∈ m
  · have hkeys : (m.insert a b).keys = m.keys := by
      ext a'
      rw [mem_keys, mem_keys, mem_insert, or_iff_right_of_imp]
      rintro rfl
      exact h
    rw [hkeys]
    exact Nat.le_succ _
  · exact (card_keys_insert h b).le

/-! ### Maps of maps -/

section Uncurry

variable {γ : Type*} [DecidableEq β]

/-- What a map of maps holds for two keys. -/
def lookup₂ (m : Finmap fun _ : α => Finmap fun _ : β => γ) (a : α) (b : β) : Option γ :=
  (m.lookup a).bind fun inner => inner.lookup b

theorem lookup₂_of_lookup {m : Finmap fun _ : α => Finmap fun _ : β => γ} {a : α}
    {inner : Finmap fun _ : β => γ} (h : m.lookup a = some inner) (b : β) :
    m.lookup₂ a b = inner.lookup b := by
  rw [lookup₂, h, Option.bind_some]

theorem lookup₂_insert (m : Finmap fun _ : α => Finmap fun _ : β => γ) (a : α)
    (inner : Finmap fun _ : β => γ) (a' : α) (b' : β) :
    (m.insert a inner).lookup₂ a' b' = if a' = a then inner.lookup b' else m.lookup₂ a' b' := by
  by_cases h : a' = a
  · rw [h, if_pos rfl, lookup₂, lookup_insert, Option.bind_some]
  · rw [if_neg h, lookup₂, lookup_insert_of_ne _ h, lookup₂]

theorem lookup₂_erase (m : Finmap fun _ : α => Finmap fun _ : β => γ) (a : α) (a' : α) (b' : β) :
    (m.erase a).lookup₂ a' b' = if a' = a then none else m.lookup₂ a' b' := by
  by_cases h : a' = a
  · rw [h, if_pos rfl, lookup₂, lookup_erase, Option.bind_none]
  · rw [if_neg h, lookup₂, lookup_erase_ne h, lookup₂]

/-- No inner map is empty. -/
def Trim (m : Finmap fun _ : α => Finmap fun _ : β => γ) : Prop :=
  ∀ a inner, m.lookup a = some inner → ∃ b, b ∈ inner

/-- Insert an entry into the inner map of a key, which is `found` if there is one. -/
def insertInner (m : Finmap fun _ : α => Finmap fun _ : β => γ) (a : α)
    (found : Option (Finmap fun _ : β => γ)) (b : β) (c : γ) :
    Finmap fun _ : α => Finmap fun _ : β => γ :=
  m.insert a ((found.getD ∅).insert b c)

theorem lookup₂_insertInner (m : Finmap fun _ : α => Finmap fun _ : β => γ) (a : α) (b : β)
    (c : γ) (a' : α) (b' : β) : (m.insertInner a (m.lookup a) b c).lookup₂ a' b' =
      if a' = a ∧ b' = b then some c else m.lookup₂ a' b' := by
  rw [insertInner, lookup₂_insert]
  by_cases ha : a' = a
  · rw [if_pos ha, ha]
    by_cases hb : b' = b
    · rw [hb, lookup_insert, if_pos ⟨rfl, rfl⟩]
    · rw [lookup_insert_of_ne _ hb, if_neg fun h => hb h.2]
      cases h : m.lookup a with
      | none =>
        rw [Option.getD_none, lookup_empty, lookup₂, h, Option.bind_none]
      | some inner => rw [Option.getD_some, lookup₂_of_lookup h]
  · rw [if_neg ha, if_neg fun h => ha h.1]

theorem Trim.insertInner {m : Finmap fun _ : α => Finmap fun _ : β => γ} (h : m.Trim) (a : α)
    (found : Option (Finmap fun _ : β => γ)) (b : β) (c : γ) :
    (m.insertInner a found b c).Trim := by
  intro a' inner hinner
  rcases lookup_insert_eq_some.mp hinner with ⟨-, rfl⟩ | ⟨-, hold⟩
  · exact ⟨b, mem_insert.mpr (.inl rfl)⟩
  · exact h a' inner hold

/-- Erase an entry from the inner map of a key, and the key with its last entry. -/
def eraseInner (m : Finmap fun _ : α => Finmap fun _ : β => γ) (a : α)
    (inner : Finmap fun _ : β => γ) (b : β) : Finmap fun _ : α => Finmap fun _ : β => γ :=
  let inner := inner.erase b
  if inner.keys.card = 0 then m.erase a else m.insert a inner

theorem lookup₂_eraseInner {m : Finmap fun _ : α => Finmap fun _ : β => γ} {a : α}
    {inner : Finmap fun _ : β => γ} (h : m.lookup a = some inner) (b : β) (a' : α) (b' : β) :
    (m.eraseInner a inner b).lookup₂ a' b' =
      if a' = a ∧ b' = b then none else m.lookup₂ a' b' := by
  have herase : (inner.erase b).lookup b' = if b' = b then none else inner.lookup b' := by
    by_cases hb : b' = b
    · rw [hb, if_pos rfl, lookup_erase]
    · rw [if_neg hb, lookup_erase_ne hb]
  unfold eraseInner
  dsimp only
  split_ifs with hcard hkeys hkeys
  · rw [lookup₂_erase, if_pos hkeys.1]
  · rw [lookup₂_erase]
    by_cases ha : a' = a
    · -- the inner map is empty, so nothing else was in it
      have hnone : b' ∉ inner.erase b := fun hmem => by
        have hkey := mem_keys.mpr hmem
        rw [Finset.card_eq_zero.mp hcard] at hkey
        exact absurd hkey (Finset.notMem_empty b')
      have hb : b' ≠ b := fun hb => hkeys ⟨ha, hb⟩
      rw [if_pos ha, ha, lookup₂_of_lookup h, ← lookup_erase_ne hb, lookup_eq_none.mpr hnone]
    · rw [if_neg ha]
  · rw [lookup₂_insert, if_pos hkeys.1, herase, if_pos hkeys.2]
  · rw [lookup₂_insert]
    by_cases ha : a' = a
    · have hb : b' ≠ b := fun hb => hkeys ⟨ha, hb⟩
      rw [if_pos ha, herase, if_neg hb, ha, lookup₂_of_lookup h]
    · rw [if_neg ha]

theorem Trim.eraseInner {m : Finmap fun _ : α => Finmap fun _ : β => γ} (h : m.Trim) (a : α)
    (inner : Finmap fun _ : β => γ) (b : β) : (m.eraseInner a inner b).Trim := by
  intro a' inner' hinner
  unfold Finmap.eraseInner at hinner
  dsimp only at hinner
  split_ifs at hinner with hcard
  · exact h a' inner' (lookup_erase_eq_some.mp hinner).2
  · rcases lookup_insert_eq_some.mp hinner with ⟨-, rfl⟩ | ⟨-, hold⟩
    · obtain ⟨b', hb'⟩ := Finset.card_pos.mp (Nat.pos_of_ne_zero hcard)
      exact ⟨b', mem_keys.mp hb'⟩
    · exact h a' inner' hold

/-- The keys of an inner map. -/
def innerKeys (m : Finmap fun _ : α => Finmap fun _ : β => γ) (a : α) : Finset β :=
  (m.lookup a).elim ∅ keys

/-- A map of maps as a map on pairs. -/
def uncurry (m : Finmap fun _ : α => Finmap fun _ : β => γ) : Finmap fun _ : α × β => γ :=
  keysLookupEquiv.symm
    ⟨(m.keys.biUnion fun a => (m.innerKeys a).image (Prod.mk a),
      fun ab => (m.lookup ab.1).bind fun inner => inner.lookup ab.2), by
      rintro ⟨a, b⟩
      dsimp only
      rw [Finset.mem_biUnion]
      cases h : m.lookup a with
      | none =>
        refine ⟨fun hsome => (by cases hsome), ?_⟩
        rintro ⟨a', ha', hmem⟩
        obtain ⟨b', -, heq⟩ := Finset.mem_image.mp hmem
        obtain ⟨rfl, rfl⟩ := Prod.mk.inj heq
        exact absurd (mem_keys.mp ha') (lookup_eq_none.mp h)
      | some inner =>
        rw [Option.bind_some, lookup_isSome]
        constructor
        · intro hb
          refine ⟨a, mem_keys.mpr (mem_of_lookup_eq_some h), Finset.mem_image.mpr ⟨b, ?_, rfl⟩⟩
          rw [innerKeys, h]
          exact mem_keys.mpr hb
        · rintro ⟨a', -, hmem⟩
          obtain ⟨b', hb', heq⟩ := Finset.mem_image.mp hmem
          obtain ⟨rfl, rfl⟩ := Prod.mk.inj heq
          rw [innerKeys, h] at hb'
          exact mem_keys.mp hb'⟩

theorem lookup_uncurry (m : Finmap fun _ : α => Finmap fun _ : β => γ) (a : α) (b : β) :
    m.uncurry.lookup (a, b) = (m.lookup a).bind fun inner => inner.lookup b :=
  keysLookupEquiv_symm_apply_lookup _ _

theorem keys_uncurry (m : Finmap fun _ : α => Finmap fun _ : β => γ) :
    m.uncurry.keys = m.keys.biUnion fun a => (m.innerKeys a).image (Prod.mk a) :=
  keysLookupEquiv_symm_apply_keys _

/-- The entries of the inner maps add up to those of the map on pairs. -/
theorem card_uncurry (m : Finmap fun _ : α => Finmap fun _ : β => γ) :
    m.uncurry.keys.card = (m.entries.map fun e => e.2.keys.card).sum := by
  have hinner : ∀ e ∈ m.entries, (m.innerKeys e.1).card = e.2.keys.card := by
    rintro ⟨a, inner⟩ he
    rw [innerKeys, lookup_eq_some_iff.mpr he]
    rfl
  have hdisjoint : m.uncurry.keys.card =
      ∑ a ∈ m.keys, ((m.innerKeys a).image (Prod.mk a)).card := by
    rw [keys_uncurry]
    refine Finset.card_biUnion fun a _ a' _ hne => Finset.disjoint_left.mpr fun ab hab hab' => ?_
    obtain ⟨b, -, rfl⟩ := Finset.mem_image.mp hab
    obtain ⟨b', -, heq⟩ := Finset.mem_image.mp hab'
    exact hne (Prod.mk.inj heq).1.symm
  calc m.uncurry.keys.card
      = ∑ a ∈ m.keys, ((m.innerKeys a).image (Prod.mk a)).card := hdisjoint
    _ = ∑ a ∈ m.keys, (m.innerKeys a).card :=
        Finset.sum_congr rfl fun a _ => Finset.card_image_of_injective _ (Prod.mk_right_injective a)
    _ = (m.entries.map fun e => (m.innerKeys e.1).card).sum := by
        show ((m.entries.map Sigma.fst).map fun a => (m.innerKeys a).card).sum = _
        rw [Multiset.map_map]
        rfl
    _ = (m.entries.map fun e => e.2.keys.card).sum := by
        rw [Multiset.map_congr rfl hinner]

end Uncurry

end Finmap
