import MiniRpc.Finmap.Basic

/-!
# Bounded maps of one-shot tokens

A `TokenMap` holds tokens under pairs of a group and an id.  The number of its entries and the
number of entries of a group may be bounded.  A token leaves the map when it is taken, which hands
it over, or when it is revoked, by itself or with its whole group; revoking marks it.

* `Bounded`: the bounds hold, and every operation keeps them.
* `OneShot`: if every token is registered once, each is in the map, or was taken, or was revoked,
  and is only one of these; a token is marked exactly if it was revoked.  Every operation keeps
  this.
-/

namespace MiniRpc

structure TokenMap (γ ι τ : Type) [DecidableEq γ] [DecidableEq ι] where
  maxEntries : Option ℕ
  maxPerGroup : Option ℕ
  entries : Finmap fun _ : γ × ι => τ
  /-- The tokens that are marked. -/
  revoked : Finset τ

namespace TokenMap

/-- What a registration reports. -/
inductive Registration
  | registered
  | duplicate
  | full
  | groupFull
  deriving DecidableEq, Repr

variable {γ ι τ : Type} [DecidableEq γ] [DecidableEq ι] [DecidableEq τ]

/-- An empty map with its bounds. -/
def init (maxEntries maxPerGroup : Option ℕ) : TokenMap γ ι τ :=
  ⟨maxEntries, maxPerGroup, ∅, ∅⟩

/-- The keys of a group. -/
def groupKeys (m : TokenMap γ ι τ) (g : γ) : Finset (γ × ι) :=
  m.entries.keys.filter fun k => k.1 = g

/-- The tokens of a group. -/
def groupTokens (m : TokenMap γ ι τ) (g : γ) : Multiset τ :=
  (m.entries.filter fun k _ => k.1 = g).entries.map Sigma.snd

def register (m : TokenMap γ ι τ) (g : γ) (i : ι) (t : τ) : Registration × TokenMap γ ι τ :=
  if (g, i) ∈ m.entries then (.duplicate, m)
  else if m.maxEntries.any fun n => decide (m.entries.keys.card ≥ n) then (.full, m)
  else if m.maxPerGroup.any fun n => decide ((m.groupKeys g).card ≥ n) then (.groupFull, m)
  else (.registered, { m with entries := m.entries.insert (g, i) t })

def take (m : TokenMap γ ι τ) (g : γ) (i : ι) : Option τ × TokenMap γ ι τ :=
  (m.entries.lookup (g, i), { m with entries := m.entries.erase (g, i) })

def revoke (m : TokenMap γ ι τ) (g : γ) (i : ι) : TokenMap γ ι τ :=
  { m with
    entries := m.entries.erase (g, i)
    revoked := (m.entries.lookup (g, i)).elim m.revoked fun t => insert t m.revoked }

def clear (m : TokenMap γ ι τ) (g : γ) : TokenMap γ ι τ :=
  { m with
    entries := m.entries.filter fun k _ => ! decide (k.1 = g)
    revoked := (m.groupTokens g).toFinset ∪ m.revoked }

/-! ### The bounds -/

structure Bounded (m : TokenMap γ ι τ) : Prop where
  entries : ∀ n ∈ m.maxEntries, m.entries.keys.card ≤ n
  group : ∀ n ∈ m.maxPerGroup, ∀ g, (m.groupKeys g).card ≤ n

omit [DecidableEq τ]

theorem bounded_init (maxEntries maxPerGroup : Option ℕ) :
    Bounded (init maxEntries maxPerGroup : TokenMap γ ι τ) where
  entries n _ := by simp [init]
  group n _ g := by simp [init, groupKeys]

/-- Entries are taken out. -/
theorem Bounded.shrink {m : TokenMap γ ι τ} (h : m.Bounded) {entries : Finmap fun _ : γ × ι => τ}
    (hkeys : entries.keys ⊆ m.entries.keys) (revoked : Finset τ) :
    Bounded { m with entries := entries, revoked := revoked } where
  entries n hn := (Finset.card_le_card hkeys).trans (h.entries n hn)
  group n hn g :=
    (Finset.card_le_card (Finset.filter_subset_filter _ hkeys)).trans (h.group n hn g)

theorem keys_erase_subset (m : TokenMap γ ι τ) (k : γ × ι) :
    (m.entries.erase k).keys ⊆ m.entries.keys := by
  rw [Finmap.keys_erase]
  exact Finset.erase_subset _ _

theorem Bounded.take {m : TokenMap γ ι τ} (h : m.Bounded) (g : γ) (i : ι) :
    (m.take g i).2.Bounded :=
  h.shrink (m.keys_erase_subset _) _

theorem Bounded.revoke [DecidableEq τ] {m : TokenMap γ ι τ} (h : m.Bounded) (g : γ) (i : ι) :
    (m.revoke g i).Bounded :=
  h.shrink (m.keys_erase_subset _) _

theorem Bounded.clear [DecidableEq τ] {m : TokenMap γ ι τ} (h : m.Bounded) (g : γ) :
    (m.clear g).Bounded := by
  refine h.shrink (fun k hk => ?_) _
  exact Finmap.mem_keys.mpr (Finmap.mem_of_mem_filter (Finmap.mem_keys.mp hk))

/-- A registration that succeeds finds room. -/
theorem register_inv {m m' : TokenMap γ ι τ} {g : γ} {i : ι} {t : τ}
    (h : m.register g i t = (.registered, m')) :
    (g, i) ∉ m.entries ∧ (∀ n ∈ m.maxEntries, m.entries.keys.card < n) ∧
      (∀ n ∈ m.maxPerGroup, (m.groupKeys g).card < n) ∧
      m' = { m with entries := m.entries.insert (g, i) t } := by
  unfold register at h
  split_ifs at h with hmem hfull hgroup
  · cases h
  · cases h
  · cases h
  · have hroom : ∀ {bound : Option ℕ} {c : ℕ}, ¬ (bound.any fun n => decide (c ≥ n)) = true →
        ∀ n ∈ bound, c < n := by
      intro bound c hnot n hn
      rw [Option.mem_def] at hn
      rw [hn] at hnot
      exact not_le.mp fun hle => hnot (decide_eq_true hle)
    exact ⟨hmem, hroom hfull, hroom hgroup, (Prod.mk.inj h).2.symm⟩

/-- A registration that is refused changes nothing. -/
theorem register_of_refused {m m' : TokenMap γ ι τ} {g : γ} {i : ι} {t : τ} {res : Registration}
    (h : m.register g i t = (res, m')) (hres : res ≠ .registered) : m' = m := by
  unfold register at h
  split_ifs at h
  · exact (Prod.mk.inj h).2.symm
  · exact (Prod.mk.inj h).2.symm
  · exact (Prod.mk.inj h).2.symm
  · exact absurd (Prod.mk.inj h).1.symm hres

theorem Bounded.register {m : TokenMap γ ι τ} (h : m.Bounded) (g : γ) (i : ι) (t : τ) :
    (m.register g i t).2.Bounded := by
  rcases hregister : m.register g i t with ⟨res, m'⟩
  by_cases hres : res = .registered
  · subst hres
    obtain ⟨hmem, hfull, hgroup, rfl⟩ := register_inv hregister
    refine ⟨fun n hn => ?_, fun n hn g' => ?_⟩
    -- the test was made before the entry, so one more still fits
    · rw [Finmap.card_keys_insert hmem]
      exact hfull n hn
    · have hkeys : (m.entries.insert (g, i) t).keys = insert (g, i) m.entries.keys := by
        ext k
        rw [Finset.mem_insert, Finmap.mem_keys, Finmap.mem_keys, Finmap.mem_insert]
      show ((m.entries.insert (g, i) t).keys.filter fun k => k.1 = g').card ≤ n
      rw [hkeys, Finset.filter_insert]
      split_ifs with hg
      · obtain rfl := hg
        exact (Finset.card_insert_le _ _).trans (hgroup n hn)
      · exact h.group n hn g'
  · rw [register_of_refused hregister hres]
    exact h

/-! ### One-shot tokens -/

/-- What became of the tokens. -/
structure Ledger (τ : Type) where
  registered : Multiset τ
  taken : Multiset τ
  dropped : Multiset τ

/-- The tokens in the map. -/
def tokens (m : TokenMap γ ι τ) : Multiset τ := m.entries.entries.map Sigma.snd

/-- Every token that was registered is in the map, was taken or was revoked, and only once. -/
structure OneShot (m : TokenMap γ ι τ) (ledger : Ledger τ) : Prop where
  nodup : ledger.registered.Nodup
  balance : ledger.registered = m.tokens + ledger.taken + ledger.dropped
  revoked : ∀ t, t ∈ m.revoked ↔ t ∈ ledger.dropped

theorem oneShot_init (maxEntries maxPerGroup : Option ℕ) :
    OneShot (init maxEntries maxPerGroup : TokenMap γ ι τ) ⟨0, 0, 0⟩ where
  nodup := Multiset.nodup_zero
  balance := rfl
  revoked t := by simp [init]

namespace OneShot

variable {m m' : TokenMap γ ι τ} {ledger : Ledger τ} {g : γ} {i : ι} {t : τ}

theorem register (h : OneShot m ledger) (hfresh : t ∉ ledger.registered)
    (hregister : m.register g i t = (.registered, m')) :
    OneShot m' { ledger with registered := t ::ₘ ledger.registered } := by
  obtain ⟨hmem, -, -, rfl⟩ := register_inv hregister
  refine ⟨Multiset.nodup_cons.mpr ⟨hfresh, h.nodup⟩, ?_, h.revoked⟩
  show t ::ₘ ledger.registered =
    (m.entries.insert (g, i) t).entries.map Sigma.snd + ledger.taken + ledger.dropped
  rw [Finmap.entries_insert_of_notMem hmem, Multiset.map_cons, Multiset.cons_add,
    Multiset.cons_add, h.balance]
  rfl

/-- The token of an entry and the others. -/
theorem tokens_erase (hfound : m.entries.lookup (g, i) = some t) :
    m.tokens = t ::ₘ (m.entries.erase (g, i)).entries.map Sigma.snd := by
  rw [tokens, Finmap.entries_erase hfound, Multiset.map_cons]

theorem take (h : OneShot m ledger) (hfound : m.entries.lookup (g, i) = some t) :
    OneShot (m.take g i).2 { ledger with taken := t ::ₘ ledger.taken } := by
  refine ⟨h.nodup, ?_, h.revoked⟩
  show ledger.registered = (m.entries.erase (g, i)).entries.map Sigma.snd +
    t ::ₘ ledger.taken + ledger.dropped
  rw [h.balance, tokens_erase hfound, Multiset.cons_add, Multiset.add_cons]

theorem revoke [DecidableEq τ] (h : OneShot m ledger)
    (hfound : m.entries.lookup (g, i) = some t) :
    OneShot (m.revoke g i) { ledger with dropped := t ::ₘ ledger.dropped } := by
  refine ⟨h.nodup, ?_, fun t' => ?_⟩
  · show ledger.registered = (m.entries.erase (g, i)).entries.map Sigma.snd +
      ledger.taken + t ::ₘ ledger.dropped
    rw [h.balance, tokens_erase hfound, Multiset.cons_add, Multiset.cons_add, Multiset.add_cons]
  · show t' ∈ (m.entries.lookup (g, i)).elim m.revoked (fun t => insert t m.revoked) ↔ _
    rw [hfound, Option.elim_some, Finset.mem_insert, Multiset.mem_cons, h.revoked]

theorem clear [DecidableEq τ] (h : OneShot m ledger) (g : γ) :
    OneShot (m.clear g) { ledger with dropped := m.groupTokens g + ledger.dropped } := by
  refine ⟨h.nodup, ?_, fun t => ?_⟩
  · -- the entries are those of the group and the others
    have hsplit := congrArg (Multiset.map Sigma.snd)
      (Finmap.filter_true_add_false (fun k _ => decide (k.1 = g)) m.entries)
    rw [Multiset.map_add] at hsplit
    show ledger.registered = (m.clear g).tokens + ledger.taken + (m.groupTokens g + ledger.dropped)
    rw [h.balance, tokens, ← hsplit]
    show m.groupTokens g + (m.clear g).tokens + _ + _ = _
    rw [add_comm (m.groupTokens g), add_assoc, add_assoc, add_assoc,
      add_left_comm (m.groupTokens g)]
  · show t ∈ (m.groupTokens g).toFinset ∪ m.revoked ↔ _
    rw [Finset.mem_union, Multiset.mem_toFinset, Multiset.mem_add, h.revoked]

/-- Nothing was registered under the key. -/
theorem revoke_of_none [DecidableEq τ] (hnone : m.entries.lookup (g, i) = none) :
    m.revoke g i = m := by
  have herase : m.entries.erase (g, i) = m.entries := by
    refine Finmap.ext_lookup fun k => ?_
    by_cases hk : k = (g, i)
    · rw [hk, Finmap.lookup_erase, hnone]
    · rw [Finmap.lookup_erase_ne hk]
  unfold TokenMap.revoke
  rw [hnone, herase]
  rfl

/-- A token in the map was neither taken nor revoked. -/
theorem not_mem (h : OneShot m ledger) {k : γ × ι} (hfound : m.entries.lookup k = some t) :
    t ∉ ledger.taken ∧ t ∉ ledger.dropped := by
  -- the three places together hold no token twice
  have hnodup := h.balance ▸ h.nodup
  have hmem : t ∈ m.tokens :=
    Multiset.mem_map.mpr ⟨⟨k, t⟩, Finmap.lookup_eq_some_iff.mp hfound, rfl⟩
  obtain ⟨hleft, -, hdropped⟩ := Multiset.nodup_add.mp hnodup
  obtain ⟨-, -, htaken⟩ := Multiset.nodup_add.mp hleft
  exact ⟨Multiset.disjoint_left.mp htaken hmem,
    Multiset.disjoint_left.mp hdropped (Multiset.mem_add.mpr (.inl hmem))⟩

/-- A token that was taken was not revoked. -/
theorem not_mem_of_taken (h : OneShot m ledger) (htaken : t ∈ ledger.taken) :
    t ∉ ledger.dropped := by
  have hnodup := h.balance ▸ h.nodup
  obtain ⟨-, -, hdropped⟩ := Multiset.nodup_add.mp hnodup
  exact Multiset.disjoint_left.mp hdropped (Multiset.mem_add.mpr (.inr htaken))

end OneShot

end TokenMap

end MiniRpc
