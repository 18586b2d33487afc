import MiniRpc.Machine.Basic
import MiniRpc.RpcServer.CancellationRegistry
import MiniRpc.TokenMap.Basic

/-!
# The registry is a bounded map of one-shot tokens

The reference is a `TokenMap` with connections as groups.  The registry and the reference go through
the same operations; `Represents` says that the nested maps are the reference's map, that no inner
map is empty and that the same tokens are marked.  Every operation keeps this and reports the same.

`ledger` records what the operations of the registry report: the tokens that were registered, the
tokens that were taken, and those that were removed by `cancel` or by clearing their connection.
-/

namespace MiniRpc.CancellationRegistry

variable {maxActiveRequests maxActiveRequestsPerConnection : Option ℕ}
  {reg : CancellationRegistry} {ref : TokenMap ConnId UInt64 TokenId} {conn : ConnId}
  {requestId : UInt64} {token : TokenId}

/-! ### The two together -/

/-- What a registration reports, in the words of the reference. -/
def registration : RegisterTokenStatus → TokenMap.Registration
  | .kRegistered => .registered
  | .kDuplicateRequestId => .duplicate
  | .kGlobalLimitReached => .full
  | .kConnectionLimitReached => .groupFull

theorem registration_injective : Function.Injective registration := by
  intro status status' h
  cases status <;> cases status' <;> first | rfl | cases h

/-- The tokens of a connection. -/
def tokensOf (reg : CancellationRegistry) (conn : ConnId) : Multiset TokenId :=
  (reg.cancellations_.lookup conn).elim 0 fun requests => requests.entries.map Sigma.snd

/-- A registry, its reference, and what the operations of the registry have reported. -/
structure Session where
  registry : CancellationRegistry
  reference : TokenMap ConnId UInt64 TokenId
  ledger : TokenMap.Ledger TokenId

inductive Operation
  | registerToken (conn : ConnId) (requestId : UInt64) (token : TokenId)
  | take (conn : ConnId) (requestId : UInt64)
  | cancel (conn : ConnId) (requestId : UInt64)
  | clearConnectionCancellations (conn : ConnId)
  deriving DecidableEq, Repr

/-- An optional token as a multiset. -/
def bag (token : Option TokenId) : Multiset TokenId := token.elim 0 fun t => {t}

def Session.step (s : Session) : Operation → Option Session
  | .registerToken conn requestId token =>
    some ⟨(s.registry.registerToken conn requestId token).2,
      (s.reference.register conn requestId token).2,
      if (s.registry.registerToken conn requestId token).1 = .kRegistered then
        { s.ledger with registered := token ::ₘ s.ledger.registered }
      else s.ledger⟩
  | .take conn requestId =>
    some ⟨(s.registry.take conn requestId).2, (s.reference.take conn requestId).2,
      { s.ledger with taken := bag (s.registry.take conn requestId).1 + s.ledger.taken }⟩
  | .cancel conn requestId =>
    some ⟨s.registry.cancel conn requestId, s.reference.revoke conn requestId,
      { s.ledger with dropped := bag (s.registry.find? conn requestId) + s.ledger.dropped }⟩
  | .clearConnectionCancellations conn =>
    some ⟨s.registry.clearConnectionCancellations conn, s.reference.clear conn,
      { s.ledger with dropped := s.registry.tokensOf conn + s.ledger.dropped }⟩

/-- The registry and its reference as a machine. -/
def machine (maxActiveRequests maxActiveRequestsPerConnection : Option ℕ) :
    Machine Session Operation where
  init := ⟨.init maxActiveRequests maxActiveRequestsPerConnection,
    .init maxActiveRequests maxActiveRequestsPerConnection, ⟨0, 0, 0⟩⟩
  step := Session.step

/-- A token is registered once. -/
def Fresh (s : Session) : Operation → Prop
  | .registerToken _ _ token => token ∉ s.ledger.registered
  | _ => True

instance (s : Session) (op : Operation) : Decidable (Fresh s op) := by
  cases op <;> unfold Fresh <;> infer_instance

/-! ### Representation -/

/-- No connection has an empty map. -/
def NoEmpty (reg : CancellationRegistry) : Prop :=
  ∀ c requests, reg.cancellations_.lookup c = some requests → requests ≠ ∅

structure Represents (reg : CancellationRegistry) (ref : TokenMap ConnId UInt64 TokenId) :
    Prop where
  noEmpty : NoEmpty reg
  entries : reg.cancellations_.uncurry = ref.entries
  canceled : reg.canceled_ = ref.revoked
  maxEntries : reg.maxActiveRequests_ = ref.maxEntries
  maxPerGroup : reg.maxActiveRequestsPerConnection_ = ref.maxPerGroup

theorem find?_eq_lookup (reg : CancellationRegistry) (c : ConnId) (i : UInt64) :
    reg.find? c i = reg.cancellations_.uncurry.lookup (c, i) :=
  (Finmap.lookup_uncurry reg.cancellations_ c i).symm

theorem Represents.find? (h : Represents reg ref) (c : ConnId) (i : UInt64) :
    reg.find? c i = ref.entries.lookup (c, i) := by
  rw [find?_eq_lookup, h.entries]

/-- Two maps of maps that look up the same are the same map on pairs. -/
theorem uncurry_eq {entries : Finmap fun _ : ConnId × UInt64 => TokenId}
    (h : ∀ c i, reg.find? c i = entries.lookup (c, i)) : reg.cancellations_.uncurry = entries :=
  Finmap.ext_lookup fun k => (find?_eq_lookup reg k.1 k.2).symm.trans (h k.1 k.2)

/-! ### Counting -/

theorem Represents.activeRequests (h : Represents reg ref) :
    reg.activeRequests = ref.entries.keys.card := by
  rw [← h.entries, Finmap.card_uncurry]
  rfl

/-- The keys of a connection in the reference are those of its inner map. -/
theorem Represents.groupKeys (h : Represents reg ref) (c : ConnId) :
    ref.groupKeys c = (reg.cancellations_.innerKeys c).image (Prod.mk c) := by
  ext ⟨c', i⟩
  rw [TokenMap.groupKeys, ← h.entries, Finset.mem_filter, Finmap.keys_uncurry, Finset.mem_biUnion,
    Finset.mem_image]
  constructor
  · rintro ⟨⟨a, -, hmem⟩, hc⟩
    obtain ⟨i', hi', heq⟩ := Finset.mem_image.mp hmem
    obtain ⟨rfl, rfl⟩ := Prod.mk.inj heq
    obtain rfl : a = c := hc
    exact ⟨i', hi', rfl⟩
  · rintro ⟨i', hi', heq⟩
    obtain ⟨rfl, rfl⟩ := Prod.mk.inj heq
    refine ⟨⟨c, ?_, Finset.mem_image.mpr ⟨i', hi', rfl⟩⟩, rfl⟩
    rw [Finmap.mem_keys, ← Finmap.lookup_isSome]
    unfold Finmap.innerKeys at hi'
    cases hlookup : reg.cancellations_.lookup c with
    | none =>
      rw [hlookup] at hi'
      exact absurd hi' (Finset.notMem_empty i')
    | some requests => rfl

theorem Represents.card_group (h : Represents reg ref) (c : ConnId) :
    (ref.groupKeys c).card = (reg.cancellations_.innerKeys c).card := by
  rw [h.groupKeys, Finset.card_image_of_injective _ (Prod.mk_right_injective c)]

theorem card_innerKeys {requests : Finmap fun _ : UInt64 => TokenId}
    (h : reg.cancellations_.lookup conn = some requests) :
    reg.cancellations_.innerKeys conn = requests.keys := by
  rw [Finmap.innerKeys, h]
  rfl

/-- The tokens of a connection are those of its group. -/
theorem Represents.tokensOf (h : Represents reg ref) (c : ConnId) :
    reg.tokensOf c = ref.groupTokens c := by
  have hmem : ∀ (requests : Finmap fun _ : UInt64 => TokenId),
      reg.cancellations_.lookup c = some requests →
      requests.entries.map (fun e : Σ _ : UInt64, TokenId =>
        (⟨(c, e.1), e.2⟩ : Σ _ : ConnId × UInt64, TokenId)) =
      (ref.entries.filter fun k _ => decide (k.1 = c)).entries := by
    intro requests hlookup
    -- neither side lists an entry twice, so it is enough that they list the same ones
    refine (Multiset.Nodup.ext ?_ (Finmap.nodup_entries _)).mpr ?_
    · refine Multiset.Nodup.map ?_ requests.nodup_entries
      rintro ⟨i, t⟩ ⟨i', t'⟩ heq
      simp only [Sigma.mk.injEq, Prod.mk.injEq, true_and, heq_eq_eq] at heq
      rw [heq.1, heq.2]
    · rintro ⟨⟨c', i⟩, t⟩
      rw [Multiset.mem_map, ← Finmap.lookup_eq_some_iff, Finmap.lookup_filter_eq_some,
        decide_eq_true_iff, ← h.find?]
      constructor
      · rintro ⟨⟨i', t'⟩, hmem, heq⟩
        simp only [Sigma.mk.injEq, Prod.mk.injEq, heq_eq_eq] at heq
        obtain ⟨⟨rfl, rfl⟩, rfl⟩ := heq
        rw [find?_of_lookup hlookup]
        exact ⟨Finmap.lookup_eq_some_iff.mpr hmem, rfl⟩
      · rintro ⟨hfound, hc⟩
        obtain rfl : c' = c := hc
        rw [find?_of_lookup hlookup] at hfound
        exact ⟨⟨i, t⟩, Finmap.lookup_eq_some_iff.mp hfound, rfl⟩
  unfold CancellationRegistry.tokensOf TokenMap.groupTokens
  cases hlookup : reg.cancellations_.lookup c with
  | some requests =>
    rw [← hmem requests hlookup, Multiset.map_map]
    rfl
  | none =>
    -- no entry of the reference belongs to a connection that the registry does not know
    have hnone : (ref.entries.filter fun k _ => decide (k.1 = c)) = ∅ := by
      refine Finmap.ext_lookup fun k => ?_
      rw [Finmap.lookup_empty, Option.eq_none_iff_forall_not_mem]
      intro t hmem
      obtain ⟨hfound, hc⟩ := Finmap.lookup_filter_eq_some.mp hmem
      obtain rfl : k.1 = c := of_decide_eq_true hc
      have hfind := h.find? k.1 k.2
      rw [CancellationRegistry.find?, hlookup] at hfind
      cases hfind.trans hfound
    rw [hnone]
    rfl

/-! ### The operations keep the representation -/

theorem noEmpty_eraseRequest (h : NoEmpty reg) (conn : ConnId)
    (requests : Finmap fun _ : UInt64 => TokenId) (requestId : UInt64) :
    NoEmpty (reg.eraseRequest conn requests requestId) := by
  intro c inner hinner
  unfold eraseRequest at hinner
  dsimp only at hinner
  split_ifs at hinner with hcard
  · exact h c inner (Finmap.lookup_erase_eq_some.mp hinner).2
  · rcases Finmap.lookup_insert_eq_some.mp hinner with ⟨-, rfl⟩ | ⟨-, hold⟩
    · rintro heq
      rw [heq] at hcard
      exact hcard rfl
    · exact h c inner hold

theorem noEmpty_take (h : NoEmpty reg) (conn : ConnId) (requestId : UInt64) :
    NoEmpty (reg.take conn requestId).2 := by
  unfold take
  split
  · exact h
  · split
    · exact h
    · exact noEmpty_eraseRequest h _ _ _

theorem noEmpty_cancel (h : NoEmpty reg) (conn : ConnId) (requestId : UInt64) :
    NoEmpty (reg.cancel conn requestId) := by
  unfold cancel
  split
  · exact h
  · split
    · exact h
    · rename_i token htoken
      have hcanceled : NoEmpty { reg with canceled_ := insert token reg.canceled_ } := h
      exact noEmpty_eraseRequest hcanceled _ _ _

theorem noEmpty_clear (h : NoEmpty reg) (conn : ConnId) :
    NoEmpty (reg.clearConnectionCancellations conn) := by
  unfold clearConnectionCancellations
  split
  · exact h
  · intro c inner hinner
    exact h c inner (Finmap.lookup_erase_eq_some.mp hinner).2

theorem noEmpty_registerToken (h : NoEmpty reg) (conn : ConnId) (requestId : UInt64)
    (token : TokenId) : NoEmpty (reg.registerToken conn requestId token).2 := by
  unfold registerToken
  dsimp only
  split_ifs
  · exact h
  · exact h
  · exact h
  · intro c inner hinner
    rcases Finmap.lookup_insert_eq_some.mp hinner with ⟨-, rfl⟩ | ⟨-, hold⟩
    · -- the inner map holds at least the token registered now
      intro heq
      have hfound := Finmap.lookup_insert (b := token) (a := requestId)
        ((reg.cancellations_.lookup conn).getD ∅)
      rw [heq, Finmap.lookup_empty] at hfound
      cases hfound
    · exact h c inner hold

/-- The limits are set before the server starts. -/
theorem limits_take (reg : CancellationRegistry) (conn : ConnId) (requestId : UInt64) :
    (reg.take conn requestId).2.maxActiveRequests_ = reg.maxActiveRequests_ ∧
      (reg.take conn requestId).2.maxActiveRequestsPerConnection_ =
        reg.maxActiveRequestsPerConnection_ := by
  unfold take
  split
  · exact ⟨rfl, rfl⟩
  · split <;> exact ⟨rfl, rfl⟩

theorem limits_cancel (reg : CancellationRegistry) (conn : ConnId) (requestId : UInt64) :
    (reg.cancel conn requestId).maxActiveRequests_ = reg.maxActiveRequests_ ∧
      (reg.cancel conn requestId).maxActiveRequestsPerConnection_ =
        reg.maxActiveRequestsPerConnection_ := by
  unfold cancel
  split
  · exact ⟨rfl, rfl⟩
  · split <;> exact ⟨rfl, rfl⟩

theorem limits_clear (reg : CancellationRegistry) (conn : ConnId) :
    (reg.clearConnectionCancellations conn).maxActiveRequests_ = reg.maxActiveRequests_ ∧
      (reg.clearConnectionCancellations conn).maxActiveRequestsPerConnection_ =
        reg.maxActiveRequestsPerConnection_ := by
  unfold clearConnectionCancellations
  split <;> exact ⟨rfl, rfl⟩

theorem limits_registerToken {reg' : CancellationRegistry} {status : RegisterTokenStatus}
    (h : reg.registerToken conn requestId token = (status, reg')) :
    reg'.maxActiveRequests_ = reg.maxActiveRequests_ ∧
      reg'.maxActiveRequestsPerConnection_ = reg.maxActiveRequestsPerConnection_ := by
  unfold registerToken at h
  dsimp only at h
  split_ifs at h
  -- the three refusals and the registration
  · obtain ⟨-, rfl⟩ := Prod.mk.inj h
    exact ⟨rfl, rfl⟩
  · obtain ⟨-, rfl⟩ := Prod.mk.inj h
    exact ⟨rfl, rfl⟩
  · obtain ⟨-, rfl⟩ := Prod.mk.inj h
    exact ⟨rfl, rfl⟩
  · obtain ⟨-, rfl⟩ := Prod.mk.inj h
    exact ⟨rfl, rfl⟩

theorem represents_init : Represents (.init maxActiveRequests maxActiveRequestsPerConnection)
    (.init maxActiveRequests maxActiveRequestsPerConnection) where
  noEmpty c requests h := by cases (Finmap.lookup_empty c).symm.trans h
  entries := uncurry_eq fun c i => find?_init _ _ c i
  canceled := rfl
  maxEntries := rfl
  maxPerGroup := rfl

/-- What is looked up after an entry was erased. -/
theorem lookup_erase_pair (m : Finmap fun _ : ConnId × UInt64 => TokenId) (conn c : ConnId)
    (requestId i : UInt64) : (m.erase (conn, requestId)).lookup (c, i) =
      if c = conn ∧ i = requestId then none else m.lookup (c, i) := by
  split_ifs with hmatch
  · rw [hmatch.1, hmatch.2, Finmap.lookup_erase]
  · exact Finmap.lookup_erase_ne fun heq => hmatch (Prod.mk.inj heq)

theorem Represents.take (h : Represents reg ref) (conn : ConnId) (requestId : UInt64) :
    (reg.take conn requestId).1 = (ref.take conn requestId).1 ∧
      Represents (reg.take conn requestId).2 (ref.take conn requestId).2 := by
  obtain ⟨hmax, hper⟩ := reg.limits_take conn requestId
  refine ⟨(reg.take_fst conn requestId).trans (h.find? conn requestId),
    noEmpty_take h.noEmpty conn requestId, uncurry_eq fun c i => ?_,
    (reg.canceled_take conn requestId).trans h.canceled, hmax.trans h.maxEntries,
    hper.trans h.maxPerGroup⟩
  rw [find?_take, h.find?]
  exact (lookup_erase_pair ref.entries conn c requestId i).symm

theorem Represents.cancel (h : Represents reg ref) (conn : ConnId) (requestId : UInt64) :
    Represents (reg.cancel conn requestId) (ref.revoke conn requestId) := by
  obtain ⟨hmax, hper⟩ := reg.limits_cancel conn requestId
  rcases reg.cancel_cases conn requestId with ⟨token, hfound, hcanceled, hfind⟩ | ⟨hnone, hsame⟩
  · refine ⟨noEmpty_cancel h.noEmpty conn requestId, uncurry_eq fun c i => ?_, ?_,
      hmax.trans h.maxEntries, hper.trans h.maxPerGroup⟩
    · rw [hfind, h.find?]
      exact (lookup_erase_pair ref.entries conn c requestId i).symm
    · have hlookup := (h.find? conn requestId).symm.trans hfound
      unfold TokenMap.revoke
      rw [hcanceled, hlookup, h.canceled]
      rfl
  · rw [hsame, TokenMap.OneShot.revoke_of_none ((h.find? conn requestId).symm.trans hnone)]
    exact h

theorem Represents.clear (h : Represents reg ref) (conn : ConnId) :
    Represents (reg.clearConnectionCancellations conn) (ref.clear conn) := by
  obtain ⟨hmax, hper⟩ := reg.limits_clear conn
  refine ⟨noEmpty_clear h.noEmpty conn, uncurry_eq fun c i => ?_, ?_, hmax.trans h.maxEntries,
    hper.trans h.maxPerGroup⟩
  · rw [find?_clear, h.find?]
    refine Option.ext fun t => ?_
    show _ ↔ (ref.entries.filter fun k _ => ! decide (k.1 = conn)).lookup (c, i) = some t
    rw [Finmap.lookup_filter_eq_some]
    split_ifs with hc <;> simp [hc]
  · ext t
    show _ ↔ t ∈ (ref.groupTokens conn).toFinset ∪ ref.revoked
    rw [mem_canceled_clear, Finset.mem_union, Multiset.mem_toFinset, ← h.tokensOf, h.canceled,
      or_comm]
    refine or_congr_left ?_
    unfold CancellationRegistry.tokensOf CancellationRegistry.find?
    cases hlookup : reg.cancellations_.lookup conn with
    | none => simp
    | some requests =>
      simp only [Option.elim_some, Option.bind_some, Multiset.mem_map, Finmap.lookup_eq_some_iff]
      constructor
      · rintro ⟨i, hmem⟩
        exact ⟨⟨i, t⟩, hmem, rfl⟩
      · rintro ⟨⟨i, t'⟩, hmem, rfl⟩
        exact ⟨i, hmem⟩

/-- The test for a duplicate is the membership test of the reference. -/
theorem Represents.duplicate (h : Represents reg ref) (conn : ConnId) (requestId : UInt64) :
    ((reg.cancellations_.lookup conn).any fun requests =>
      (requests.lookup requestId).isSome) = true ↔ (conn, requestId) ∈ ref.entries := by
  rw [← Finmap.lookup_isSome, ← h.find?, CancellationRegistry.find?]
  cases reg.cancellations_.lookup conn <;> simp

/-- The test for the limit of a connection is that of its group: a new connection has none. -/
theorem Represents.connectionLimit (h : Represents reg ref) (conn : ConnId)
    (hpos : ∀ n ∈ ref.maxPerGroup, 0 < n) :
    ((reg.cancellations_.lookup conn).any fun requests =>
      reg.maxActiveRequestsPerConnection_.any fun n => decide (requests.keys.card ≥ n)) =
    ref.maxPerGroup.any fun n => decide ((ref.groupKeys conn).card ≥ n) := by
  rw [h.maxPerGroup, h.card_group]
  cases hlookup : reg.cancellations_.lookup conn with
  | some requests =>
    rw [card_innerKeys hlookup]
    rfl
  | none =>
    have hempty : reg.cancellations_.innerKeys conn = ∅ := by
      rw [Finmap.innerKeys, hlookup]
      rfl
    rw [hempty]
    cases hper : ref.maxPerGroup with
    | none => rfl
    | some n =>
      have hn : 0 < n := hpos n hper
      simp [hn.ne']

theorem Represents.registerToken (h : Represents reg ref) (conn : ConnId) (requestId : UInt64)
    (token : TokenId) (hpos : ∀ n ∈ ref.maxPerGroup, 0 < n) :
    registration (reg.registerToken conn requestId token).1 =
        (ref.register conn requestId token).1 ∧
      Represents (reg.registerToken conn requestId token).2
        (ref.register conn requestId token).2 := by
  have hduplicate := h.duplicate conn requestId
  have hlimit := h.connectionLimit conn hpos
  have hnoEmpty := noEmpty_registerToken h.noEmpty conn requestId token
  have hcases := reg.registerToken_cases conn requestId token
  have hstatus : registration (reg.registerToken conn requestId token).1 =
      (ref.register conn requestId token).1 := by
    unfold CancellationRegistry.registerToken TokenMap.register
    dsimp only
    simp only [hduplicate, hlimit, h.activeRequests, h.maxEntries]
    split_ifs <;> rfl
  refine ⟨hstatus, ?_⟩
  rcases hregister : ref.register conn requestId token with ⟨res, ref'⟩
  rcases hcases with ⟨reg', hreg, hnone, hcanceled, hfind⟩ | ⟨status, hne, hreg⟩
  · -- both registered the token
    rw [hreg, hregister] at hstatus
    obtain rfl : TokenMap.Registration.registered = res := hstatus
    obtain ⟨hmem, -, -, rfl⟩ := TokenMap.register_inv hregister
    have hlimits := limits_registerToken hreg
    rw [hreg] at hnoEmpty ⊢
    refine ⟨hnoEmpty, uncurry_eq fun c i => ?_, hcanceled.trans h.canceled,
      hlimits.1.trans h.maxEntries, hlimits.2.trans h.maxPerGroup⟩
    rw [hfind, h.find?]
    show _ = (ref.entries.insert (conn, requestId) token).lookup (c, i)
    split_ifs with hmatch
    · rw [hmatch.1, hmatch.2, Finmap.lookup_insert]
    · rw [Finmap.lookup_insert_of_ne _ fun heq => hmatch (Prod.mk.inj heq)]
  · -- both refused it
    rw [hreg, hregister] at hstatus
    have hne' : res ≠ .registered := by
      rintro rfl
      exact hne (registration_injective hstatus)
    rw [hreg, TokenMap.register_of_refused hregister hne']
    exact h

/-! ### Sessions -/

namespace Session

variable {s s' : Session} {op : Operation}

/-- The registry represents its reference, which is within its bounds. -/
structure Law (maxActiveRequests maxActiveRequestsPerConnection : Option ℕ) (s : Session) :
    Prop where
  represents : Represents s.registry s.reference
  bounded : s.reference.Bounded
  maxEntries : s.reference.maxEntries = maxActiveRequests
  maxPerGroup : s.reference.maxPerGroup = maxActiveRequestsPerConnection

theorem Law.pos (h : s.Law maxActiveRequests maxActiveRequestsPerConnection)
    (hpos : ∀ n ∈ maxActiveRequestsPerConnection, 0 < n) :
    ∀ n ∈ s.reference.maxPerGroup, 0 < n := by
  rw [h.maxPerGroup]
  exact hpos

theorem limits_register (m : TokenMap ConnId UInt64 TokenId) (c : ConnId) (i : UInt64)
    (t : TokenId) : (m.register c i t).2.maxEntries = m.maxEntries ∧
      (m.register c i t).2.maxPerGroup = m.maxPerGroup := by
  unfold TokenMap.register
  split_ifs <;> exact ⟨rfl, rfl⟩

theorem Law.step (hpos : ∀ n ∈ maxActiveRequestsPerConnection, 0 < n)
    (h : s.Law maxActiveRequests maxActiveRequestsPerConnection) (hs : s.step op = some s') :
    s'.Law maxActiveRequests maxActiveRequestsPerConnection := by
  have hr := h.represents
  cases op with
  | registerToken conn requestId token =>
    obtain rfl := Option.some.inj hs
    obtain ⟨hmax, hper⟩ := limits_register s.reference conn requestId token
    exact ⟨(hr.registerToken conn requestId token (h.pos hpos)).2,
      h.bounded.register conn requestId token,
      hmax.trans h.maxEntries, hper.trans h.maxPerGroup⟩
  | take conn requestId =>
    obtain rfl := Option.some.inj hs
    exact ⟨(hr.take conn requestId).2, h.bounded.take conn requestId, h.maxEntries, h.maxPerGroup⟩
  | cancel conn requestId =>
    obtain rfl := Option.some.inj hs
    exact ⟨hr.cancel conn requestId, h.bounded.revoke conn requestId, h.maxEntries,
      h.maxPerGroup⟩
  | clearConnectionCancellations conn =>
    obtain rfl := Option.some.inj hs
    exact ⟨hr.clear conn, h.bounded.clear conn, h.maxEntries, h.maxPerGroup⟩

theorem law_init : (machine maxActiveRequests maxActiveRequestsPerConnection).init.Law
    maxActiveRequests maxActiveRequestsPerConnection :=
  ⟨represents_init, TokenMap.bounded_init _ _, rfl, rfl⟩

theorem registered_iff (res : RegisterTokenStatus) :
    registration res = .registered ↔ res = .kRegistered :=
  registration_injective.eq_iff' rfl

/-- The ledger of the registry's reports is the ledger of the reference. -/
theorem Law.oneShot (hpos : ∀ n ∈ maxActiveRequestsPerConnection, 0 < n)
    (h : s.Law maxActiveRequests maxActiveRequestsPerConnection)
    (hone : s.reference.OneShot s.ledger) (hfresh : Fresh s op) (hs : s.step op = some s') :
    s'.reference.OneShot s'.ledger := by
  have hr := h.represents
  cases op with
  | registerToken conn requestId token =>
    obtain rfl := Option.some.inj hs
    -- the registry and the reference report the same, so both ledgers grow or neither does
    have hstatus := (hr.registerToken conn requestId token (h.pos hpos)).1
    rcases hregister : s.reference.register conn requestId token with ⟨res, ref'⟩
    rw [hregister] at hstatus
    dsimp only at hstatus ⊢
    split_ifs with hres
    · obtain rfl : res = .registered := hstatus.symm.trans ((registered_iff _).mpr hres)
      exact hone.register hfresh hregister
    · have hne : res ≠ .registered := fun heq =>
        hres ((registered_iff _).mp (hstatus.trans heq))
      rw [TokenMap.register_of_refused hregister hne]
      exact hone
  | take conn requestId =>
    obtain rfl := Option.some.inj hs
    have hfound := (hr.take conn requestId).1
    dsimp only
    rw [hfound]
    show (s.reference.take conn requestId).2.OneShot
      { s.ledger with taken := bag (s.reference.entries.lookup (conn, requestId)) + s.ledger.taken }
    cases hlookup : s.reference.entries.lookup (conn, requestId) with
    | some token => exact hone.take hlookup
    | none =>
      -- nothing is taken: the reference erases nothing and the ledger gets nothing
      have herase : s.reference.entries.erase (conn, requestId) = s.reference.entries := by
        have hsame := congrArg TokenMap.entries (TokenMap.OneShot.revoke_of_none hlookup)
        exact hsame
      unfold TokenMap.take
      rw [herase]
      simpa [bag] using hone
  | cancel conn requestId =>
    obtain rfl := Option.some.inj hs
    dsimp only
    rw [hr.find?]
    cases hlookup : s.reference.entries.lookup (conn, requestId) with
    | some token => exact hone.revoke hlookup
    | none =>
      rw [TokenMap.OneShot.revoke_of_none hlookup]
      simpa [bag] using hone
  | clearConnectionCancellations conn =>
    obtain rfl := Option.some.inj hs
    dsimp only
    rw [hr.tokensOf]
    exact hone.clear conn

end Session

/-! ### What the registry guarantees -/

/-- A limit is reached by a number of entries. -/
def Reached (limit : Option ℕ) (n : ℕ) : Prop := ∃ m ∈ limit, m ≤ n

/-- The number of entries over all connections, in the flat map. -/
def total (reg : CancellationRegistry) : ℕ := reg.cancellations_.uncurry.keys.card

/-- The number of entries of a connection. -/
def count (reg : CancellationRegistry) (conn : ConnId) : ℕ :=
  (reg.cancellations_.innerKeys conn).card

/-- The registry is the reference map, keeps the limits, and reports what the reference reports. -/
structure RefinesFlatMap (maxActiveRequests maxActiveRequestsPerConnection : Option ℕ)
    (s : Session) : Prop where
  /-- No connection has an empty inner map. -/
  noEmpty : ∀ c requests, s.registry.cancellations_.lookup c = some requests → requests ≠ ∅
  /-- The nested maps are the flat map of the reference. -/
  entries : s.registry.cancellations_.uncurry = s.reference.entries
  canceled : s.registry.canceled_ = s.reference.revoked
  totalLimit : ∀ n ∈ maxActiveRequests, s.registry.total ≤ n
  connectionLimit : ∀ n ∈ maxActiveRequestsPerConnection, ∀ c, s.registry.count c ≤ n
  take : ∀ conn requestId, (s.registry.take conn requestId).1 =
    (s.reference.take conn requestId).1
  duplicate : ∀ conn requestId token,
    (s.registry.registerToken conn requestId token).1 = .kDuplicateRequestId ↔
      s.registry.find? conn requestId ≠ none
  globalLimitReached : ∀ conn requestId token,
    (s.registry.registerToken conn requestId token).1 = .kGlobalLimitReached ↔
      s.registry.find? conn requestId = none ∧ Reached maxActiveRequests s.registry.total
  connectionLimitReached : ∀ conn requestId token,
    (s.registry.registerToken conn requestId token).1 = .kConnectionLimitReached ↔
      s.registry.find? conn requestId = none ∧ ¬ Reached maxActiveRequests s.registry.total ∧
        Reached maxActiveRequestsPerConnection (s.registry.count conn)
  registered : ∀ conn requestId token,
    (s.registry.registerToken conn requestId token).1 = .kRegistered ↔
      s.registry.find? conn requestId = none ∧ ¬ Reached maxActiveRequests s.registry.total ∧
        ¬ Reached maxActiveRequestsPerConnection (s.registry.count conn)
  /-- A refusal changes nothing. -/
  refused : ∀ conn requestId token,
    (s.registry.registerToken conn requestId token).1 ≠ .kRegistered →
      (s.registry.registerToken conn requestId token).2 = s.registry

/-- Every token is used once. -/
structure OneShotTokens (s : Session) : Prop where
  /-- A token in the registry is not cancelled. -/
  live : ∀ c i t, s.registry.find? c i = some t → t ∉ s.registry.canceled_
  /-- A token is cancelled if it was removed by `cancel` or by clearing its connection. -/
  canceled : ∀ t, t ∈ s.registry.canceled_ ↔ t ∈ s.ledger.dropped
  /-- A token that `take` has returned is not cancelled. -/
  taken : ∀ t ∈ s.ledger.taken, t ∉ s.registry.canceled_
  /-- Every token registered is in the registry, was taken, or was dropped, and only once. -/
  balance : s.ledger.registered =
    s.registry.cancellations_.uncurry.entries.map Sigma.snd + s.ledger.taken + s.ledger.dropped
  nodup : s.ledger.registered.Nodup

namespace Session

variable {s : Session}

theorem any_iff_reached (limit : Option ℕ) (n : ℕ) :
    (limit.any fun m => decide (n ≥ m)) = true ↔ Reached limit n := by
  unfold Reached
  cases limit <;> simp

/-- The order of the tests. -/
theorem Law.status (hpos : ∀ n ∈ maxActiveRequestsPerConnection, 0 < n)
    (h : s.Law maxActiveRequests maxActiveRequestsPerConnection) (conn : ConnId)
    (requestId : UInt64) (token : TokenId) :
    (s.registry.find? conn requestId ≠ none ∧
      (s.registry.registerToken conn requestId token).1 = .kDuplicateRequestId) ∨
    (s.registry.find? conn requestId = none ∧ Reached maxActiveRequests s.registry.total ∧
      (s.registry.registerToken conn requestId token).1 = .kGlobalLimitReached) ∨
    (s.registry.find? conn requestId = none ∧ ¬ Reached maxActiveRequests s.registry.total ∧
      Reached maxActiveRequestsPerConnection (s.registry.count conn) ∧
      (s.registry.registerToken conn requestId token).1 = .kConnectionLimitReached) ∨
    (s.registry.find? conn requestId = none ∧ ¬ Reached maxActiveRequests s.registry.total ∧
      ¬ Reached maxActiveRequestsPerConnection (s.registry.count conn) ∧
      (s.registry.registerToken conn requestId token).1 = .kRegistered) := by
  have hr := h.represents
  have htotal : s.registry.total = s.reference.entries.keys.card := by
    rw [total, hr.entries]
  have hcount : s.registry.count conn = (s.reference.groupKeys conn).card :=
    (hr.card_group conn).symm
  have hstatus := (hr.registerToken conn requestId token (h.pos hpos)).1
  have hmem : (conn, requestId) ∈ s.reference.entries ↔
      s.registry.find? conn requestId ≠ none := by
    rw [← Finmap.lookup_isSome, ← hr.find?, Option.isSome_iff_ne_none]
  have hglobal : (s.reference.maxEntries.any fun n =>
      decide (s.reference.entries.keys.card ≥ n)) = true ↔
      Reached maxActiveRequests s.reference.entries.keys.card := by
    rw [h.maxEntries]
    exact any_iff_reached _ _
  have hconnection : (s.reference.maxPerGroup.any fun n =>
      decide ((s.reference.groupKeys conn).card ≥ n)) = true ↔
      Reached maxActiveRequestsPerConnection (s.reference.groupKeys conn).card := by
    rw [h.maxPerGroup]
    exact any_iff_reached _ _
  rw [htotal, hcount]
  -- the reference makes the same tests in the same order
  unfold TokenMap.register at hstatus
  rw [← hglobal, ← hconnection]
  split_ifs at hstatus with hduplicate hfull hgroup
  · exact .inl ⟨hmem.mp hduplicate, registration_injective hstatus⟩
  · have hnone := not_not.mp (mt hmem.mpr hduplicate)
    exact .inr (.inl ⟨hnone, hfull, registration_injective hstatus⟩)
  · have hnone := not_not.mp (mt hmem.mpr hduplicate)
    exact .inr (.inr (.inl ⟨hnone, hfull, hgroup, registration_injective hstatus⟩))
  · have hnone := not_not.mp (mt hmem.mpr hduplicate)
    exact .inr (.inr (.inr ⟨hnone, hfull, hgroup, registration_injective hstatus⟩))

theorem Law.refines (hpos : ∀ n ∈ maxActiveRequestsPerConnection, 0 < n)
    (h : s.Law maxActiveRequests maxActiveRequestsPerConnection) :
    RefinesFlatMap maxActiveRequests maxActiveRequestsPerConnection s := by
  have hr := h.represents
  have hstatus := fun c i t => h.status hpos c i t
  refine ⟨hr.noEmpty, hr.entries, hr.canceled, fun n hn => ?_, fun n hn c => ?_,
    fun c i => (hr.take c i).1, fun c i t => ?_, fun c i t => ?_, fun c i t => ?_,
    fun c i t => ?_, fun c i t hne => ?_⟩
  · rw [total, hr.entries]
    exact h.bounded.entries n (h.maxEntries ▸ hn)
  · rw [count, ← hr.card_group]
    exact h.bounded.group n (h.maxPerGroup ▸ hn) c
  · rcases hstatus c i t with h | h | h | h <;> simp [h]
  · rcases hstatus c i t with h | h | h | h <;> simp [h]
  · rcases hstatus c i t with h | h | h | h <;> simp [h]
  · rcases hstatus c i t with h | h | h | h <;> simp [h]
  · rcases s.registry.registerToken_cases c i t with ⟨reg', hreg, -⟩ | ⟨status, -, hreg⟩
    · rw [hreg] at hne
      exact absurd rfl hne
    · rw [hreg]

theorem Law.tokens (h : s.Law maxActiveRequests maxActiveRequestsPerConnection)
    (hone : s.reference.OneShot s.ledger) : OneShotTokens s where
  live c i t hfound hmem := by
    have hr := h.represents
    rw [hr.find?] at hfound
    rw [hr.canceled] at hmem
    exact (hone.not_mem hfound).2 ((hone.revoked t).mp hmem)
  canceled t := by
    rw [h.represents.canceled]
    exact hone.revoked t
  taken t htaken hmem := by
    rw [h.represents.canceled] at hmem
    exact hone.not_mem_of_taken htaken ((hone.revoked t).mp hmem)
  balance := by
    rw [h.represents.entries]
    exact hone.balance
  nodup := hone.nodup

end Session

/-- **The registry refines a flat bounded map of one-shot tokens.** -/
theorem refines_flatMap (hpos : ∀ n ∈ maxActiveRequestsPerConnection, 1 ≤ n) :
    (∀ s, (machine maxActiveRequests maxActiveRequestsPerConnection).Reachable s →
      RefinesFlatMap maxActiveRequests maxActiveRequestsPerConnection s) ∧
    ∀ s, (machine maxActiveRequests maxActiveRequestsPerConnection).ReachableBy Fresh s →
      OneShotTokens s := by
  have hlaw : ∀ s, (machine maxActiveRequests maxActiveRequestsPerConnection).Reachable s →
      s.Law maxActiveRequests maxActiveRequestsPerConnection := fun s h =>
    h.invariant Session.law_init fun s op s' _ hold hs => hold.step hpos hs
  refine ⟨fun s h => (hlaw s h).refines hpos, fun s h => ?_⟩
  refine (hlaw s h.reachable).tokens ?_
  refine Machine.ReachableBy.invariant (P := fun s => s.reference.OneShot s.ledger)
    (TokenMap.oneShot_init _ _) (fun s op s' hreach hfresh hold hs => ?_) h
  exact (hlaw s hreach.reachable).oneShot hpos hold hfresh hs

/-- Two connections with the same id, a limit, a cancel, a take and a close. -/
def colliding : List Operation :=
  [.registerToken 0 1 0, .registerToken 1 1 1, .registerToken 0 1 2, .registerToken 0 2 3,
    .cancel 0 1, .registerToken 0 1 4, .take 1 1, .clearConnectionCancellations 0]

theorem refines_flatMap_colliding :
    let s := (machine (some 2) (some 1)).after colliding
    let t := (machine (some 2) (some 1)).afterBy Fresh colliding
    s.ledger.registered = {0, 1, 4} ∧ s.ledger.taken = {1} ∧
      RefinesFlatMap (some 2) (some 1) s ∧ t.registry.canceled_ = {0, 4} ∧ OneShotTokens t := by
  have hpos : ∀ n ∈ some 1, 1 ≤ n := by simp
  exact ⟨by decide, by decide, (refines_flatMap hpos).1 _ (Machine.reachable_after colliding),
    by decide, (refines_flatMap hpos).2 _ (Machine.reachableBy_afterBy colliding)⟩

end MiniRpc.CancellationRegistry
