import MiniRpc.RpcServer.Basic

/-!
# The method tables before `start`

`registerMethod`, `registerAsyncMethod` and `unregisterMethod`, over the two tables of `RpcServer`.
They assert that the server has not started, so a server starts with what a sequence of such calls
leaves.  Each returns its `bool` and the tables.

A `std::function` may be empty: the handlers passed are `none` then.
-/

namespace MiniRpc.RpcServer

namespace MethodTable

variable {η : Type}

/-- Add a method to a table, with its service if that is new; `none` where the method is there. -/
def register? (table : MethodTable η) (service method : Bytes) (handler : η) :
    Option (MethodTable η) :=
  match table.lookup service with
  | none => some (table.insertInner service none method handler)
  | some methods =>
    match methods.lookup method with
    | none => some (table.insertInner service (some methods) method handler)
    | some _ => none

/-- Take a method out of a table, and its service with its last method; `none` where the method is
not there. -/
def unregister? (table : MethodTable η) (service method : Bytes) : Option (MethodTable η) :=
  match table.lookup service with
  | none => none
  | some methods =>
    match methods.lookup method with
    | none => none
    | some _ => some (table.eraseInner service methods method)

end MethodTable

/-- The two method tables. -/
structure Registrations where
  syncHandlers_ : MethodTable RpcHandler
  asyncHandlers_ : MethodTable RpcAsyncHandler

namespace Registrations

/-- The tables of a new server. -/
def empty : Registrations := ⟨∅, ∅⟩

def isRegisteredInSync (r : Registrations) (service method : Bytes) : Bool :=
  (r.syncHandlers_.find? service method).isSome

def isRegisteredInAsync (r : Registrations) (service method : Bytes) : Bool :=
  (r.asyncHandlers_.find? service method).isSome

def isRegistered (r : Registrations) (service method : Bytes) : Bool :=
  r.isRegisteredInSync service method || r.isRegisteredInAsync service method

def registerMethod (r : Registrations) (service method : Bytes) (handler : Option RpcHandler) :
    Bool × Registrations :=
  match handler with
  | none => (false, r)
  | some handler =>
    if service = [] ∨ method = [] then (false, r)
    else if r.isRegistered service method then (false, r)
    else
      match r.syncHandlers_.register? service method handler with
      | none => (false, r)
      | some table => (true, { r with syncHandlers_ := table })

def registerAsyncMethod (r : Registrations) (service method : Bytes)
    (asyncHandler : Option RpcAsyncHandler) : Bool × Registrations :=
  match asyncHandler with
  | none => (false, r)
  | some asyncHandler =>
    if service = [] ∨ method = [] then (false, r)
    else if r.isRegistered service method then (false, r)
    else
      match r.asyncHandlers_.register? service method asyncHandler with
      | none => (false, r)
      | some table => (true, { r with asyncHandlers_ := table })

def unregisterMethod (r : Registrations) (service method : Bytes) : Bool × Registrations :=
  if service = [] ∨ method = [] then (false, r)
  else if r.isRegisteredInSync service method then
    match r.syncHandlers_.unregister? service method with
    | none => (false, r)
    | some table => (true, { r with syncHandlers_ := table })
  else if r.isRegisteredInAsync service method then
    match r.asyncHandlers_.unregister? service method with
    | none => (false, r)
    | some table => (true, { r with asyncHandlers_ := table })
  else (false, r)

/-- A call of one of the three. -/
inductive Call
  | registerMethod (service method : Bytes) (handler : Option RpcHandler)
  | registerAsyncMethod (service method : Bytes) (asyncHandler : Option RpcAsyncHandler)
  | unregisterMethod (service method : Bytes)
  deriving DecidableEq, Repr

/-- What a call returns, and the tables it leaves. -/
def call (r : Registrations) : Call → Bool × Registrations
  | .registerMethod service method handler => r.registerMethod service method handler
  | .registerAsyncMethod service method asyncHandler =>
    r.registerAsyncMethod service method asyncHandler
  | .unregisterMethod service method => r.unregisterMethod service method

/-- The tables after a sequence of calls on a new server. -/
def after (calls : List Call) : Registrations := calls.foldl (fun r c => (r.call c).2) empty

end Registrations

end MiniRpc.RpcServer
