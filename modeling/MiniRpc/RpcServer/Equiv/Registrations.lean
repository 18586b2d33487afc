import MiniRpc.RpcServer.Equiv.Dispatch
import MiniRpc.RpcServer.Registrations

/-!
# The two method tables are one map

`Bindings` is one finite map from services and methods to handlers of either kind, with the three
calls as operations on it.  The tables represent it (`Represents`): they hold its entries by kind,
no name is empty and no service is without methods.  Every call returns what the call on the map
returns, and the tables represent the map that is left (`Represents.call`), so this holds after
every sequence of calls (`represents_after`).
-/

namespace MiniRpc.RpcServer

/-! ### One table -/

namespace MethodTable

variable {η : Type} {table : MethodTable η} {service method : Bytes}

theorem register?_spec (h : table.find? service method = none) (handler : η) :
    ∃ table', table.register? service method handler = some table' ∧
      (∀ s m, table'.find? s m =
        if s = service ∧ m = method then some handler else table.find? s m) ∧
      (table.Trim → table'.Trim) := by
  unfold register?
  cases hservice : table.lookup service with
  | none =>
    refine ⟨_, rfl, fun s m => ?_, fun htrim => htrim.insertInner _ _ _ _⟩
    rw [← hservice]
    exact table.lookup₂_insertInner service method handler s m
  | some methods =>
    have hmethod : methods.lookup method = none := by
      rw [find?, hservice] at h
      exact h
    simp only [hmethod]
    refine ⟨_, rfl, fun s m => ?_, fun htrim => htrim.insertInner _ _ _ _⟩
    rw [← hservice]
    exact table.lookup₂_insertInner service method handler s m

theorem unregister?_spec {handler : η} (h : table.find? service method = some handler) :
    ∃ table', table.unregister? service method = some table' ∧
      (∀ s m, table'.find? s m =
        if s = service ∧ m = method then none else table.find? s m) ∧
      (table.Trim → table'.Trim) := by
  obtain ⟨methods, hservice, hmethod⟩ := Option.bind_eq_some_iff.mp h
  refine ⟨table.eraseInner service methods method, ?_, fun s m => ?_, fun htrim => ?_⟩
  · rw [unregister?, hservice]
    simp only [hmethod]
  · exact Finmap.lookup₂_eraseInner hservice method s m
  · exact htrim.eraseInner _ _ _

end MethodTable

/-! ### The map -/

/-- Handlers by service and method. -/
abbrev Bindings := Finmap fun _ : Bytes × Bytes => Handler

namespace Bindings

/-- Bind a method that is free; neither name may be empty, nor the handler. -/
def bind (bindings : Bindings) (service method : Bytes) (handler : Option Handler) :
    Bool × Bindings :=
  match handler with
  | none => (false, bindings)
  | some handler =>
    if service ≠ [] ∧ method ≠ [] ∧ bindings.lookup (service, method) = none then
      (true, bindings.insert (service, method) handler)
    else (false, bindings)

/-- Unbind a method that is bound. -/
def unbind (bindings : Bindings) (service method : Bytes) : Bool × Bindings :=
  if bindings.lookup (service, method) ≠ none then (true, bindings.erase (service, method))
  else (false, bindings)

open Registrations in
/-- What a call returns, and the map it leaves. -/
def call (bindings : Bindings) : Call → Bool × Bindings
  | .registerMethod service method handler => bindings.bind service method (handler.map .sync)
  | .registerAsyncMethod service method asyncHandler =>
    bindings.bind service method (asyncHandler.map .async)
  | .unregisterMethod service method => bindings.unbind service method

/-- The map after a sequence of calls. -/
def after (calls : List Registrations.Call) : Bindings :=
  calls.foldl (fun bindings c => (bindings.call c).2) ∅

theorem bind_some {bindings : Bindings} {service method : Bytes}
    (h : service ≠ [] ∧ method ≠ [] ∧ bindings.lookup (service, method) = none)
    (handler : Handler) : bindings.bind service method (some handler) =
      (true, bindings.insert (service, method) handler) := if_pos h

theorem bind_refused {bindings : Bindings} {service method : Bytes} {handler : Option Handler}
    (h : handler = none ∨
      ¬ (service ≠ [] ∧ method ≠ [] ∧ bindings.lookup (service, method) = none)) :
    bindings.bind service method handler = (false, bindings) := by
  cases handler with
  | none => rfl
  | some handler => exact if_neg (h.resolve_left (by simp))

end Bindings

/-! ### Tables and map -/

/-- The table holds the entries of one kind. -/
def Holds {η : Type} (kind : η → Handler) (table : MethodTable η) (bindings : Bindings) : Prop :=
  ∀ service method handler, table.find? service method = some handler ↔
    bindings.lookup (service, method) = some (kind handler)

namespace Holds

variable {η : Type} {kind : η → Handler} {table table' : MethodTable η} {bindings : Bindings}
  {service method : Bytes}

/-- The table has one more entry. -/
theorem insert (h : Holds kind table bindings) (hkind : Function.Injective kind) {handler : η}
    (hfind : ∀ s m, table'.find? s m =
      if s = service ∧ m = method then some handler else table.find? s m) :
    Holds kind table' (bindings.insert (service, method) (kind handler)) := by
  intro s m handler'
  rw [hfind, Finmap.lookup_insert_eq_some, Prod.mk.injEq]
  split_ifs with hkey
  · simp [hkey, hkind.eq_iff, eq_comm]
  · simp [hkey, h s m]

/-- An entry of the other kind, for a method that was free. -/
theorem insert_other (h : Holds kind table bindings)
    (hfree : bindings.lookup (service, method) = none) {handler : Handler}
    (hother : ∀ x, kind x ≠ handler) :
    Holds kind table (bindings.insert (service, method) handler) := by
  intro s m x
  rw [Finmap.lookup_insert_eq_some, Prod.mk.injEq, h s m]
  by_cases hkey : s = service ∧ m = method
  · rw [hkey.1, hkey.2, hfree]
    simp [hother]
  · simp [hkey]

/-- The table without a method. -/
theorem erase (h : Holds kind table bindings) (hfind : ∀ s m, table'.find? s m =
      if s = service ∧ m = method then none else table.find? s m) :
    Holds kind table' (bindings.erase (service, method)) := by
  intro s m handler
  rw [hfind, Finmap.lookup_erase_eq_some, ne_eq, Prod.mk.injEq]
  split_ifs with hkey
  · simp [hkey]
  · simp [hkey, h s m]

end Holds

/-- The tables hold the entries of the map by kind, without empty names and empty services. -/
structure Represents (r : Registrations) (bindings : Bindings) : Prop where
  sync : ∀ service method handler, r.syncHandlers_.find? service method = some handler ↔
    bindings.lookup (service, method) = some (.sync handler)
  async : ∀ service method handler, r.asyncHandlers_.find? service method = some handler ↔
    bindings.lookup (service, method) = some (.async handler)
  names : ∀ service method, (service, method) ∈ bindings → service ≠ [] ∧ method ≠ []
  syncTrim : r.syncHandlers_.Trim
  asyncTrim : r.asyncHandlers_.Trim

namespace Represents

variable {r : Registrations} {bindings : Bindings} {service method : Bytes}

theorem empty : Represents .empty ∅ where
  sync service method handler := by
    simp [Registrations.empty, MethodTable.find?]
  async service method handler := by
    simp [Registrations.empty, MethodTable.find?]
  names service method h := absurd h Finmap.notMem_empty
  syncTrim service methods h := by
    rw [Registrations.empty, Finmap.lookup_empty] at h
    cases h
  asyncTrim service methods h := by
    rw [Registrations.empty, Finmap.lookup_empty] at h
    cases h

/-- The two tables together are the map. -/
theorem handlerIn_eq (h : Represents r bindings) (service method : Bytes) :
    handlerIn r.syncHandlers_ r.asyncHandlers_ service method =
      bindings.lookup (service, method) := by
  unfold handlerIn
  cases hsync : r.syncHandlers_.find? service method with
  | some handler => exact ((h.sync _ _ _).mp hsync).symm
  | none =>
    cases hasync : r.asyncHandlers_.find? service method with
    | some handler => exact ((h.async _ _ _).mp hasync).symm
    | none =>
      cases hlookup : bindings.lookup (service, method) with
      | none => rfl
      | some handler =>
        cases handler with
        | sync handler => cases hsync.symm.trans ((h.sync _ _ _).mpr hlookup)
        | async handler => cases hasync.symm.trans ((h.async _ _ _).mpr hlookup)

theorem isRegistered_eq (h : Represents r bindings) (service method : Bytes) :
    r.isRegistered service method = (bindings.lookup (service, method)).isSome := by
  rw [← h.handlerIn_eq]
  unfold Registrations.isRegistered Registrations.isRegisteredInSync
    Registrations.isRegisteredInAsync handlerIn
  cases r.syncHandlers_.find? service method with
  | some handler => simp
  | none => simp

/-- No method is in both tables. -/
theorem disjoint (h : Represents r bindings) (service method : Bytes) :
    r.syncHandlers_.find? service method = none ∨ r.asyncHandlers_.find? service method = none := by
  cases hsync : r.syncHandlers_.find? service method with
  | none => exact .inl rfl
  | some handler =>
    right
    cases hasync : r.asyncHandlers_.find? service method with
    | none => rfl
    | some asyncHandler =>
      cases ((h.sync _ _ _).mp hsync).symm.trans ((h.async _ _ _).mp hasync)

theorem names_insert (h : Represents r bindings) (hservice : service ≠ []) (hmethod : method ≠ [])
    (handler : Handler) (s m : Bytes) (hmem : (s, m) ∈ bindings.insert (service, method) handler) :
    s ≠ [] ∧ m ≠ [] := by
  rcases Finmap.mem_insert.mp hmem with hkey | hold
  · obtain ⟨rfl, rfl⟩ := Prod.mk.inj hkey
    exact ⟨hservice, hmethod⟩
  · exact h.names s m hold

/-- The tables without a method. -/
theorem erase (h : Represents r bindings) {r' : Registrations}
    (hsync : ∀ s m, r'.syncHandlers_.find? s m =
      if s = service ∧ m = method then none else r.syncHandlers_.find? s m)
    (hasync : ∀ s m, r'.asyncHandlers_.find? s m =
      if s = service ∧ m = method then none else r.asyncHandlers_.find? s m)
    (hsyncTrim : r'.syncHandlers_.Trim) (hasyncTrim : r'.asyncHandlers_.Trim) :
    Represents r' (bindings.erase (service, method)) where
  sync := Holds.erase h.sync hsync
  async := Holds.erase h.async hasync
  names s m hmem := h.names s m (Finmap.mem_erase.mp hmem).2
  syncTrim := hsyncTrim
  asyncTrim := hasyncTrim

end Represents

/-! ### Calls -/

/-- A call on the tables `r` does what the call on the map does. -/
structure Follows (r : Registrations) (out : Bool × Registrations) (out' : Bool × Bindings) :
    Prop where
  returns : out.1 = out'.1
  represents : Represents out.2 out'.2
  /-- A call that returns `false` changes nothing. -/
  refused : out.1 = false → out.2 = r

namespace Represents

variable {r : Registrations} {bindings : Bindings}

theorem follows_refused (h : Represents r bindings) : Follows r (false, r) (false, bindings) where
  returns := rfl
  represents := h
  refused _ := rfl

/-- A method that is not registered is in neither table. -/
theorem find?_of_not_registered (h : Represents r bindings) {service method : Bytes}
    (hfree : bindings.lookup (service, method) = none) :
    r.syncHandlers_.find? service method = none ∧ r.asyncHandlers_.find? service method = none := by
  rw [← handlerIn_eq_none, h.handlerIn_eq, hfree]

/-- A registration that is refused for the reasons for which the map refuses it, and else adds the
handler. -/
theorem follows_bind (h : Represents r bindings) {service method : Bytes} {handler : Handler}
    {out : Bool × Registrations}
    (hrefused : (service = [] ∨ method = []) ∨ r.isRegistered service method = true →
      out = (false, r))
    (hadded : service ≠ [] → method ≠ [] → bindings.lookup (service, method) = none →
      ∃ r', out = (true, r') ∧ Represents r' (bindings.insert (service, method) handler)) :
    Follows r out (bindings.bind service method (some handler)) := by
  by_cases hok : service ≠ [] ∧ method ≠ [] ∧ bindings.lookup (service, method) = none
  · obtain ⟨r', rfl, hr'⟩ := hadded hok.1 hok.2.1 hok.2.2
    rw [Bindings.bind_some hok]
    constructor
    · rfl
    · exact hr'
    · intro hfalse
      cases hfalse
  · rw [h.isRegistered_eq, Option.isSome_iff_ne_none] at hrefused
    rw [hrefused (by tauto), Bindings.bind_refused (.inr hok)]
    exact h.follows_refused

theorem registerMethod (h : Represents r bindings) (service method : Bytes)
    (handler : Option RpcHandler) : Follows r (r.registerMethod service method handler)
      (bindings.bind service method (handler.map .sync)) := by
  cases handler with
  | none => exact h.follows_refused
  | some handler =>
    unfold Registrations.registerMethod
    dsimp only
    apply h.follows_bind
    · rintro (hnames | hregistered)
      · rw [if_pos hnames]
      · rw [if_pos hregistered, ite_self]
    · intro hservice hmethod hfree
      obtain ⟨table, htable, hfind, htrim⟩ :=
        MethodTable.register?_spec (h.find?_of_not_registered hfree).1 handler
      rw [if_neg (not_or.mpr ⟨hservice, hmethod⟩), h.isRegistered_eq, hfree, htable]
      refine ⟨_, rfl, ?_⟩
      constructor
      · exact Holds.insert h.sync (fun _ _ => Handler.sync.inj) hfind
      · exact Holds.insert_other h.async hfree fun _ hkind => by cases hkind
      · exact h.names_insert hservice hmethod _
      · exact htrim h.syncTrim
      · exact h.asyncTrim

theorem registerAsyncMethod (h : Represents r bindings) (service method : Bytes)
    (asyncHandler : Option RpcAsyncHandler) :
    Follows r (r.registerAsyncMethod service method asyncHandler)
      (bindings.bind service method (asyncHandler.map .async)) := by
  cases asyncHandler with
  | none => exact h.follows_refused
  | some handler =>
    unfold Registrations.registerAsyncMethod
    dsimp only
    apply h.follows_bind
    · rintro (hnames | hregistered)
      · rw [if_pos hnames]
      · rw [if_pos hregistered, ite_self]
    · intro hservice hmethod hfree
      obtain ⟨table, htable, hfind, htrim⟩ :=
        MethodTable.register?_spec (h.find?_of_not_registered hfree).2 handler
      rw [if_neg (not_or.mpr ⟨hservice, hmethod⟩), h.isRegistered_eq, hfree, htable]
      refine ⟨_, rfl, ?_⟩
      constructor
      · exact Holds.insert_other h.sync hfree fun _ hkind => by cases hkind
      · exact Holds.insert h.async (fun _ _ => Handler.async.inj) hfind
      · exact h.names_insert hservice hmethod _
      · exact h.syncTrim
      · exact htrim h.asyncTrim

/-- A table that does not hold a method is what it is without it. -/
theorem find?_of_absent {η : Type} {table : MethodTable η} {service method : Bytes}
    (h : table.find? service method = none) (s m : Bytes) :
    table.find? s m = if s = service ∧ m = method then none else table.find? s m := by
  split_ifs with hkey
  · rw [hkey.1, hkey.2, h]
  · rfl

theorem unregisterMethod (h : Represents r bindings) (service method : Bytes) :
    Follows r (r.unregisterMethod service method) (bindings.unbind service method) := by
  unfold Registrations.unregisterMethod Bindings.unbind
  split_ifs with hnames hbound hsync hbound hasync hbound hbound
  · -- nothing is bound to an empty name
    obtain ⟨handler, hhandler⟩ := Option.ne_none_iff_exists'.mp hbound
    have hne := h.names service method (Finmap.mem_of_lookup_eq_some hhandler)
    exact absurd hnames (not_or.mpr hne)
  · exact h.follows_refused
  · obtain ⟨handler, hhandler⟩ := Option.isSome_iff_exists.mp hsync
    obtain ⟨table, htable, hfind, htrim⟩ := MethodTable.unregister?_spec hhandler
    have hother := (h.disjoint service method).resolve_left (by rw [hhandler]; simp)
    rw [htable]
    constructor
    · rfl
    · exact h.erase hfind (find?_of_absent hother) (htrim h.syncTrim) h.asyncTrim
    · intro hfalse
      cases hfalse
  · obtain ⟨handler, hhandler⟩ := Option.isSome_iff_exists.mp hsync
    exact absurd (by rw [(h.sync _ _ _).mp hhandler]; simp) hbound
  · obtain ⟨handler, hhandler⟩ := Option.isSome_iff_exists.mp hasync
    obtain ⟨table, htable, hfind, htrim⟩ := MethodTable.unregister?_spec hhandler
    have hother := Option.not_isSome_iff_eq_none.mp hsync
    rw [htable]
    constructor
    · rfl
    · exact h.erase (find?_of_absent hother) hfind h.syncTrim (htrim h.asyncTrim)
    · intro hfalse
      cases hfalse
  · obtain ⟨handler, hhandler⟩ := Option.isSome_iff_exists.mp hasync
    exact absurd (by rw [(h.async _ _ _).mp hhandler]; simp) hbound
  · have hnone := handlerIn_eq_none.mpr
      ⟨Option.not_isSome_iff_eq_none.mp hsync, Option.not_isSome_iff_eq_none.mp hasync⟩
    rw [h.handlerIn_eq] at hnone
    exact absurd hnone hbound
  · exact h.follows_refused

/-- Every call on the tables does what the call on the map does. -/
theorem call (h : Represents r bindings) (c : Registrations.Call) :
    Follows r (r.call c) (bindings.call c) := by
  cases c with
  | registerMethod service method handler => exact h.registerMethod service method handler
  | registerAsyncMethod service method handler =>
    exact h.registerAsyncMethod service method handler
  | unregisterMethod service method => exact h.unregisterMethod service method

end Represents

theorem represents_after (calls : List Registrations.Call) :
    Represents (.after calls) (.after calls) := by
  induction calls using List.reverseRecOn with
  | nil => exact .empty
  | append_singleton calls c ih =>
    unfold Registrations.after Bindings.after
    rw [List.foldl_append, List.foldl_append]
    exact (ih.call c).represents

/-! ### All sequences of calls -/

/-- The handler registered for a method, of either kind. -/
def Registrations.handler? (r : Registrations) (service method : Bytes) : Option Handler :=
  handlerIn r.syncHandlers_ r.asyncHandlers_ service method

/-- The call that registers a handler. -/
def Handler.registration (service method : Bytes) : Handler → Registrations.Call
  | .sync handler => .registerMethod service method (some handler)
  | .async handler => .registerAsyncMethod service method (some handler)

/-- A server with these tables. -/
def Registrations.Of (r : Registrations) (cfg : Config) : Prop :=
  cfg.syncHandlers_ = r.syncHandlers_ ∧ cfg.asyncHandlers_ = r.asyncHandlers_

/-- A server dispatches by its tables. -/
theorem Registrations.dispatch_eq {r : Registrations} {cfg : Config} (hcfg : r.Of cfg) {s : State}
    {conn : ConnId} (hconnected : (s.connections conn).connected = true) (frame : FrameId)
    (request : RpcRequest) (outcome : Option RpcResult) :
    dispatch cfg s frame conn request outcome =
      serve cfg s frame conn request outcome (r.handler? request.service_ request.method_) := by
  rw [RpcServer.dispatch_eq hconnected, Config.handler?, hcfg.1, hcfg.2]
  rfl

namespace Represents

variable {r : Registrations} {bindings : Bindings}

/-- What registering a handler returns, and what is registered after it. -/
theorem registration (h : Represents r bindings) (service method : Bytes) (handler : Handler) :
    ((r.call (handler.registration service method)).1 = true ↔
      service ≠ [] ∧ method ≠ [] ∧ r.handler? service method = none) ∧
    ((r.call (handler.registration service method)).1 = true → ∀ s m,
      (r.call (handler.registration service method)).2.handler? s m =
        if s = service ∧ m = method then some handler else r.handler? s m) := by
  have hcall : bindings.call (handler.registration service method) =
      bindings.bind service method (some handler) := by
    cases handler <;> rfl
  have hfollows := h.call (handler.registration service method)
  rw [hcall] at hfollows
  have hlookup : r.handler? service method = bindings.lookup (service, method) :=
    h.handlerIn_eq service method
  rw [hfollows.returns, hlookup]
  by_cases hok : service ≠ [] ∧ method ≠ [] ∧ bindings.lookup (service, method) = none
  · rw [Bindings.bind_some hok] at hfollows ⊢
    refine ⟨iff_of_true rfl hok, fun _ s m => ?_⟩
    have hafter := hfollows.represents.handlerIn_eq s m
    have hbefore := h.handlerIn_eq s m
    unfold Registrations.handler?
    rw [hafter, hbefore]
    split_ifs with hkey
    · rw [hkey.1, hkey.2, Finmap.lookup_insert]
    · rw [Finmap.lookup_insert_of_ne]
      rwa [ne_eq, Prod.mk.injEq]
  · rw [Bindings.bind_refused (.inr hok)]
    refine ⟨iff_of_false (by simp) hok, fun hfalse => ?_⟩
    cases hfalse

/-- What unregistering a method returns, and what is registered after it. -/
theorem unregistration (h : Represents r bindings) (service method : Bytes) :
    ((r.unregisterMethod service method).1 = true ↔ r.handler? service method ≠ none) ∧
    ((r.unregisterMethod service method).1 = true → ∀ s m,
      (r.unregisterMethod service method).2.handler? s m =
        if s = service ∧ m = method then none else r.handler? s m) := by
  have hfollows := h.unregisterMethod service method
  have hlookup : r.handler? service method = bindings.lookup (service, method) :=
    h.handlerIn_eq service method
  rw [hfollows.returns, hlookup]
  unfold Bindings.unbind at hfollows ⊢
  split_ifs at hfollows ⊢ with hbound
  · refine ⟨iff_of_true rfl hbound, fun _ s m => ?_⟩
    have hafter := hfollows.represents.handlerIn_eq s m
    have hbefore := h.handlerIn_eq s m
    unfold Registrations.handler?
    rw [hafter, hbefore]
    split_ifs with hkey
    · rw [hkey.1, hkey.2, Finmap.lookup_erase]
    · rw [Finmap.lookup_erase_ne]
      rwa [ne_eq, Prod.mk.injEq]
  · refine ⟨iff_of_false (by simp) hbound, fun hfalse => ?_⟩
    cases hfalse

end Represents

/-- The tables `r` are one map, and the calls work on it. -/
structure RefinesOneMap (r : Registrations) : Prop where
  /-- There is a map that the tables represent, and every call does what the call on it does. -/
  represents : ∃ bindings : Bindings, Represents r bindings ∧
    ∀ c, Follows r (r.call c) (bindings.call c)
  /-- No method is in both tables. -/
  disjoint : ∀ service method, r.syncHandlers_.find? service method = none ∨
    r.asyncHandlers_.find? service method = none
  /-- Registering succeeds for a new method, and adds it. -/
  registers : ∀ (service method : Bytes) (handler : Handler),
    ((r.call (handler.registration service method)).1 = true ↔
      service ≠ [] ∧ method ≠ [] ∧ r.handler? service method = none) ∧
    ((r.call (handler.registration service method)).1 = true → ∀ s m,
      (r.call (handler.registration service method)).2.handler? s m =
        if s = service ∧ m = method then some handler else r.handler? s m)
  /-- An empty handler is not registered. -/
  noHandler : ∀ service method, (r.registerMethod service method none).1 = false ∧
    (r.registerAsyncMethod service method none).1 = false
  /-- Unregistering succeeds for a method that is registered, and removes it. -/
  unregisters : ∀ service method,
    ((r.unregisterMethod service method).1 = true ↔ r.handler? service method ≠ none) ∧
    ((r.unregisterMethod service method).1 = true → ∀ s m,
      (r.unregisterMethod service method).2.handler? s m =
        if s = service ∧ m = method then none else r.handler? s m)
  /-- A call that returns `false` leaves both tables as they are. -/
  refused : ∀ c, (r.call c).1 = false → (r.call c).2 = r
  /-- A server that starts with the tables dispatches by them. -/
  dispatched : ∀ (cfg : Config), r.Of cfg → ∀ (s : State) (frame : FrameId) (conn : ConnId)
    (request : RpcRequest) (outcome : Option RpcResult),
    (s.connections conn).connected = true →
    dispatch cfg s frame conn request outcome =
      serve cfg s frame conn request outcome (r.handler? request.service_ request.method_)
  /-- A method that was unregistered can be registered again, with a handler of either kind, and
  that handler serves it. -/
  again : ∀ (service method : Bytes), (r.unregisterMethod service method).1 = true →
    ∀ handler : Handler,
    let out := (r.unregisterMethod service method).2.call (handler.registration service method)
    out.1 = true ∧ ∀ (cfg : Config), out.2.Of cfg → ∀ (s : State) (frame : FrameId)
      (conn : ConnId) (request : RpcRequest) (outcome : Option RpcResult),
      request.service_ = service → request.method_ = method →
      (s.connections conn).connected = true →
      dispatch cfg s frame conn request outcome =
        serve cfg s frame conn request outcome (some handler)

/-- **The method tables refine one finite map**, after any sequence of calls. -/
theorem refinesOneMap_after (calls : List Registrations.Call) :
    RefinesOneMap (.after calls) := by
  have h := represents_after calls
  constructor
  · exact ⟨_, h, h.call⟩
  · exact h.disjoint
  · exact h.registration
  · intro service method
    exact ⟨rfl, rfl⟩
  · exact h.unregistration
  · intro c
    exact (h.call c).refused
  · intro cfg hcfg s frame conn request outcome hconnected
    exact Registrations.dispatch_eq hcfg hconnected frame request outcome
  · intro service method hremoved handler
    have hbound := (h.unregistration service method).1.mp hremoved
    have hfree := (h.unregistration service method).2 hremoved service method
    rw [if_pos ⟨rfl, rfl⟩] at hfree
    have h' := (h.unregisterMethod service method).represents
    -- the method was bound, so its names are not empty
    have hnames : service ≠ [] ∧ method ≠ [] := by
      rw [Registrations.handler?, h.handlerIn_eq] at hbound
      obtain ⟨old, hold⟩ := Option.ne_none_iff_exists'.mp hbound
      exact h.names service method (Finmap.mem_of_lookup_eq_some hold)
    have hregistered := (h'.registration service method handler).1.mpr
      ⟨hnames.1, hnames.2, hfree⟩
    refine ⟨hregistered, ?_⟩
    rintro cfg hcfg s frame conn request outcome rfl rfl hconnected
    rw [Registrations.dispatch_eq hcfg hconnected,
      (h'.registration _ _ handler).2 hregistered, if_pos ⟨rfl, rfl⟩]

end MiniRpc.RpcServer
