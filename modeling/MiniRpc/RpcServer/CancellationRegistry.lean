import Mathlib.Data.UInt
import MiniRpc.Finmap.Basic
import MiniRpc.TcpConnection.Basic

/-!
# `CancellationRegistry`

The tokens of the active asynchronous requests, by connection and request id, in two levels of maps
as in the source.  Each operation holds the mutex and is one step.

A token is a shared pointer to a flag: `TokenId` is its identity, and `canceled_` holds the tokens
whose flag is set.  `find?` reads the two levels as one map; the lemmas say what each operation does
to it.
-/

namespace MiniRpc

/-- The identity of a cancellation token. -/
abbrev TokenId := ℕ

inductive RegisterTokenStatus
  | kRegistered
  | kDuplicateRequestId
  | kGlobalLimitReached
  | kConnectionLimitReached
  deriving DecidableEq, Repr

structure CancellationRegistry where
  maxActiveRequests_ : Option ℕ
  maxActiveRequestsPerConnection_ : Option ℕ
  cancellations_ : Finmap fun _ : ConnId => Finmap fun _ : UInt64 => TokenId
  /-- The tokens whose flag is set. -/
  canceled_ : Finset TokenId

namespace CancellationRegistry

/-- An empty registry with its limits set. -/
def init (maxActiveRequests maxActiveRequestsPerConnection : Option ℕ) : CancellationRegistry where
  maxActiveRequests_ := maxActiveRequests
  maxActiveRequestsPerConnection_ := maxActiveRequestsPerConnection
  cancellations_ := ∅
  canceled_ := ∅

/-- Erase a request of a connection, and the connection with its last request. -/
def eraseRequest (reg : CancellationRegistry) (conn : ConnId)
    (requests : Finmap fun _ : UInt64 => TokenId) (requestId : UInt64) : CancellationRegistry :=
  let requests := requests.erase requestId
  { reg with
    cancellations_ :=
      if requests.keys.card = 0 then reg.cancellations_.erase conn
      else reg.cancellations_.insert conn requests }

def take (reg : CancellationRegistry) (conn : ConnId) (requestId : UInt64) :
    Option TokenId × CancellationRegistry :=
  match reg.cancellations_.lookup conn with
  | none => (none, reg)
  | some requests =>
    match requests.lookup requestId with
    | none => (none, reg)
    | some token => (some token, reg.eraseRequest conn requests requestId)

/-- The number of entries over all connections. -/
def activeRequests (reg : CancellationRegistry) : ℕ :=
  (reg.cancellations_.entries.map fun item => item.2.keys.card).sum

def registerToken (reg : CancellationRegistry) (conn : ConnId) (requestId : UInt64)
    (token : TokenId) : RegisterTokenStatus × CancellationRegistry :=
  let found := reg.cancellations_.lookup conn
  if found.any fun requests => (requests.lookup requestId).isSome then (.kDuplicateRequestId, reg)
  else if reg.maxActiveRequests_.any fun n => decide (reg.activeRequests ≥ n) then
    (.kGlobalLimitReached, reg)
  else if found.any fun requests => reg.maxActiveRequestsPerConnection_.any fun n =>
      decide (requests.keys.card ≥ n) then
    (.kConnectionLimitReached, reg)
  else
    (.kRegistered, { reg with
      cancellations_ := reg.cancellations_.insert conn ((found.getD ∅).insert requestId token) })

def cancel (reg : CancellationRegistry) (conn : ConnId) (requestId : UInt64) :
    CancellationRegistry :=
  match reg.cancellations_.lookup conn with
  | none => reg
  | some requests =>
    match requests.lookup requestId with
    | none => reg
    | some token =>
      { reg with canceled_ := insert token reg.canceled_ }.eraseRequest conn requests requestId

def clearConnectionCancellations (reg : CancellationRegistry) (conn : ConnId) :
    CancellationRegistry :=
  match reg.cancellations_.lookup conn with
  | none => reg
  | some requests =>
    { reg with
      canceled_ := (requests.entries.map fun item => item.2).toFinset ∪ reg.canceled_
      cancellations_ := reg.cancellations_.erase conn }

/-! ### The registry as one map -/

/-- The token registered for a request of a connection. -/
def find? (reg : CancellationRegistry) (conn : ConnId) (requestId : UInt64) : Option TokenId :=
  (reg.cancellations_.lookup conn).bind fun requests => requests.lookup requestId

variable {reg : CancellationRegistry} {conn : ConnId} {requestId : UInt64} {token : TokenId}

theorem find?_init (maxActiveRequests maxActiveRequestsPerConnection : Option ℕ) (conn : ConnId)
    (requestId : UInt64) :
    (init maxActiveRequests maxActiveRequestsPerConnection).find? conn requestId = none := by
  unfold find? init
  rw [Finmap.lookup_empty]
  rfl

theorem find?_of_lookup {requests : Finmap fun _ : UInt64 => TokenId}
    (h : reg.cancellations_.lookup conn = some requests) :
    reg.find? conn requestId = requests.lookup requestId := by
  rw [find?, h, Option.bind_some]

/-- Erasing a request takes its entry out and no other. -/
theorem find?_eraseRequest {requests : Finmap fun _ : UInt64 => TokenId}
    (h : reg.cancellations_.lookup conn = some requests) (c : ConnId) (i : UInt64) :
    (reg.eraseRequest conn requests requestId).find? c i =
      if c = conn ∧ i = requestId then none else reg.find? c i := by
  exact Finmap.lookup₂_eraseInner h requestId c i

/-- `take` hands over the token it removes. -/
theorem take_fst (reg : CancellationRegistry) (conn : ConnId) (requestId : UInt64) :
    (reg.take conn requestId).1 = reg.find? conn requestId := by
  unfold take find?
  cases hconn : reg.cancellations_.lookup conn with
  | none => rfl
  | some requests =>
    cases htoken : requests.lookup requestId with
    | none => simp [htoken]
    | some token => simp [htoken]

theorem find?_take (reg : CancellationRegistry) (conn : ConnId) (requestId : UInt64) (c : ConnId)
    (i : UInt64) : (reg.take conn requestId).2.find? c i =
      if c = conn ∧ i = requestId then none else reg.find? c i := by
  have hnone : reg.find? conn requestId = none →
      reg.find? c i = if c = conn ∧ i = requestId then none else reg.find? c i := fun hnone => by
    split_ifs with hmatch
    · rw [hmatch.1, hmatch.2, hnone]
    · rfl
  unfold take
  cases hconn : reg.cancellations_.lookup conn with
  | none => exact hnone (by rw [find?, hconn]; rfl)
  | some requests =>
    cases htoken : requests.lookup requestId with
    | none =>
      simp only [htoken]
      exact hnone (by rw [find?_of_lookup hconn, htoken])
    | some token =>
      simp only [htoken]
      exact find?_eraseRequest hconn c i

theorem take_of_none (h : reg.find? conn requestId = none) :
    (reg.take conn requestId).2 = reg := by
  unfold take
  cases hconn : reg.cancellations_.lookup conn with
  | none => rfl
  | some requests =>
    rw [find?_of_lookup hconn] at h
    simp only [h]

@[simp] theorem canceled_take (reg : CancellationRegistry) (conn : ConnId) (requestId : UInt64) :
    (reg.take conn requestId).2.canceled_ = reg.canceled_ := by
  unfold take
  split
  · rfl
  · split <;> rfl

/-- A token is registered where none was, or the registry stays as it is. -/
theorem registerToken_cases (reg : CancellationRegistry) (conn : ConnId) (requestId : UInt64)
    (token : TokenId) :
    (∃ reg', reg.registerToken conn requestId token = (.kRegistered, reg') ∧
      reg.find? conn requestId = none ∧ reg'.canceled_ = reg.canceled_ ∧
      ∀ c i, reg'.find? c i = if c = conn ∧ i = requestId then some token else reg.find? c i) ∨
    (∃ status, status ≠ .kRegistered ∧
      reg.registerToken conn requestId token = (status, reg)) := by
  unfold registerToken
  dsimp only
  split
  · exact .inr ⟨_, by decide, rfl⟩
  · rename_i hfresh
    split
    · exact .inr ⟨_, by decide, rfl⟩
    · split
      · exact .inr ⟨_, by decide, rfl⟩
      · refine .inl ⟨_, rfl, ?_, rfl, fun c i => ?_⟩
        · unfold find?
          cases hconn : reg.cancellations_.lookup conn with
          | none => rfl
          | some requests =>
            rw [hconn, Option.any_some] at hfresh
            exact Option.not_isSome_iff_eq_none.mp hfresh
        · exact reg.cancellations_.lookup₂_insertInner conn requestId token c i

/-- An id is a duplicate if it is registered. -/
theorem find?_of_duplicate
    (h : (reg.registerToken conn requestId token).1 = .kDuplicateRequestId) :
    (reg.find? conn requestId).isSome = true := by
  unfold registerToken at h
  dsimp only at h
  split_ifs at h with hduplicate
  unfold find?
  cases hconn : reg.cancellations_.lookup conn with
  | none =>
    rw [hconn] at hduplicate
    cases hduplicate
  | some requests =>
    rw [hconn] at hduplicate
    exact hduplicate

theorem registerToken_of_isSome (h : (reg.find? conn requestId).isSome = true) :
    reg.registerToken conn requestId token = (.kDuplicateRequestId, reg) := by
  unfold registerToken
  dsimp only
  rw [if_pos]
  unfold find? at h
  cases hconn : reg.cancellations_.lookup conn with
  | none =>
    rw [hconn] at h
    cases h
  | some requests =>
    rw [hconn] at h
    exact h

/-- `cancel` sets the flag of the token it removes, or there is none and nothing changes. -/
theorem cancel_cases (reg : CancellationRegistry) (conn : ConnId) (requestId : UInt64) :
    (∃ token, reg.find? conn requestId = some token ∧
      (reg.cancel conn requestId).canceled_ = insert token reg.canceled_ ∧
      ∀ c i, (reg.cancel conn requestId).find? c i =
        if c = conn ∧ i = requestId then none else reg.find? c i) ∨
    (reg.find? conn requestId = none ∧ reg.cancel conn requestId = reg) := by
  unfold cancel
  cases hconn : reg.cancellations_.lookup conn with
  | none => exact .inr ⟨by rw [find?, hconn]; rfl, rfl⟩
  | some requests =>
    cases htoken : requests.lookup requestId with
    | none => exact .inr ⟨by rw [find?_of_lookup hconn, htoken], by simp [htoken]⟩
    | some token =>
      simp only [htoken]
      have hfind := @find?_eraseRequest { reg with canceled_ := insert token reg.canceled_ } conn
        requestId requests hconn
      exact .inl ⟨token, by rw [find?_of_lookup hconn, htoken], rfl, hfind⟩

theorem find?_clear (reg : CancellationRegistry) (conn : ConnId) (c : ConnId) (i : UInt64) :
    (reg.clearConnectionCancellations conn).find? c i =
      if c = conn then none else reg.find? c i := by
  unfold clearConnectionCancellations
  cases hconn : reg.cancellations_.lookup conn with
  | none =>
    split_ifs with hc
    · rw [hc]
      simp only [find?, hconn, Option.bind_none]
    · rfl
  | some requests =>
    simp only [find?]
    split_ifs with hc
    · rw [hc, Finmap.lookup_erase, Option.bind_none]
    · rw [Finmap.lookup_erase_ne hc]

/-- Clearing a connection sets the flags of its tokens. -/
theorem mem_canceled_clear (reg : CancellationRegistry) (conn : ConnId) (token : TokenId) :
    token ∈ (reg.clearConnectionCancellations conn).canceled_ ↔
      token ∈ reg.canceled_ ∨ ∃ i, reg.find? conn i = some token := by
  unfold clearConnectionCancellations
  cases hconn : reg.cancellations_.lookup conn with
  | none => simp [find?, hconn]
  | some requests =>
    simp only [Finset.mem_union, Multiset.mem_toFinset, Multiset.mem_map, find?, hconn,
      Option.bind_some, Finmap.lookup_eq_some_iff]
    rw [or_comm]
    refine or_congr_right ⟨?_, ?_⟩
    · rintro ⟨⟨i, t⟩, hmem, rfl⟩
      exact ⟨i, hmem⟩
    · rintro ⟨i, hmem⟩
      exact ⟨⟨i, token⟩, hmem, rfl⟩

end CancellationRegistry

end MiniRpc
