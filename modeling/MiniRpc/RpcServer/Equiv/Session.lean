import Mathlib.Data.Set.Card
import MiniRpc.RpcServer.Equiv.Registry
import MiniRpc.RpcServer.Equiv.Transition

/-!
# A server as one connection sees it

`Session` is an abstract server with one connection: the requests it received, numbered in their
order, the requests that are active by their ids, and what was answered.  It has no other
connections, no threads and no frame numbers that others share.  `Session.next` is what it does on
an event of the connection.

The synchronous handlers are functions of the payload (`sync`).
-/

namespace MiniRpc.RpcServer

/-! ### Messages and answers -/

/-- What a message asks for. -/
inductive Incoming
  /-- The message is not valid. -/
  | invalid
  | cancel (requestId : UInt64)
  | request (request : RpcRequest)

/-- The message is decoded. -/
def incoming (maxMessageSize : ℕ) (msg : Bytes) : Incoming :=
  if msg = [] ∨ msg.length > maxMessageSize then .invalid
  else
    match decodeHead msg with
    | some .kCancel =>
      let (res, cancel, errorMessage) := RpcCancel.empty.decode msg []
      if res = false ∨ errorMessage ≠ [] then .invalid else .cancel cancel.requestId_
    | some .kRequest =>
      let (res, request, errorMessage) := RpcRequest.empty.decode msg []
      if res = false ∨ errorMessage ≠ [] then .invalid else .request request
    | _ => .invalid

theorem onRpcMessage_eq (cfg : Config) (s : State) (conn : ConnId) (msg : Bytes)
    (outcome : Option RpcResult) : onRpcMessage cfg s conn msg outcome =
      match incoming cfg.effectiveMaxMessageSize msg with
      | .invalid => forceClose s conn
      | .cancel requestId => cancelAsync s conn requestId
      | .request request => onRequest cfg s conn request outcome := by
  unfold onRpcMessage incoming
  by_cases hempty : msg = []
  · rw [if_pos hempty, if_pos (.inl hempty)]
  by_cases hlong : msg.length > cfg.effectiveMaxMessageSize
  · rw [if_neg hempty, if_pos hlong, if_pos (.inr hlong)]
  rw [if_neg hempty, if_neg hlong, if_neg (not_or.mpr ⟨hempty, hlong⟩)]
  cases decodeHead msg with
  | none => rfl
  | some head =>
    cases head with
    | kRequest | kCancel =>
      dsimp only
      split_ifs <;> rfl
    | kResponse => rfl

/-- The frame that answers a request, `none` where the server closes the connection instead. -/
def answer (maxMessageSize : ℕ) (requestId : UInt64) (r : RpcResult) : Option Bytes :=
  let response := limitedResponse maxMessageSize requestId r
  if maxMessageSize < RpcResponse.OutputMessageLen response.payload_.length
      response.errorMessage_.length then none
  else
    let (res, outputMessage, errorMessage) := response.encode [] []
    if res = false ∨ errorMessage ≠ [] then none else some outputMessage

theorem sendFramedData_eq_answer (s : State) (conn : ConnId) (requestId : UInt64)
    (origin : Origin) (r : RpcResult) (maxMessageSize : ℕ) :
    sendFramedData s conn requestId origin r maxMessageSize =
      match answer maxMessageSize requestId r with
      | none => forceClose s conn
      | some output =>
        if (s.connections conn).connected then
          s.send conn output (.responded conn requestId origin output)
        else s := by
  -- both ways of answering end in `encodeAndSend`
  have hencode : ∀ response : RpcResponse, response.requestId_ = requestId →
      encodeAndSend s conn origin response =
        match (if (response.encode [] []).1 = false ∨ (response.encode [] []).2.2 ≠ [] then none
          else some (response.encode [] []).2.1) with
        | none => forceClose s conn
        | some output =>
          if (s.connections conn).connected then
            s.send conn output (.responded conn requestId origin output)
          else s := by
    rintro response rfl
    unfold encodeAndSend
    dsimp only
    by_cases hfail : (response.encode [] []).1 = false ∨ (response.encode [] []).2.2 ≠ []
    · rw [if_pos hfail, if_pos hfail]
    · rw [if_neg hfail, if_neg hfail]
  unfold sendFramedData answer limitedResponse
  dsimp only
  by_cases hlarge : RpcResponse.OutputMessageLen r.payload.length r.errorMessage.length >
      maxMessageSize
  · simp only [if_pos hlarge]
    by_cases hroom : maxMessageSize <
        RpcResponse.OutputMessageLen 0 (text "rpc message too large").length
    · rw [if_pos hroom, if_pos (show maxMessageSize < RpcResponse.OutputMessageLen
        (tooLarge requestId).payload_.length (tooLarge requestId).errorMessage_.length from hroom)]
    · rw [if_neg hroom, if_neg (show ¬ maxMessageSize < RpcResponse.OutputMessageLen
        (tooLarge requestId).payload_.length (tooLarge requestId).errorMessage_.length from hroom)]
      exact hencode _ rfl
  · simp only [if_neg hlarge]
    rw [if_neg (show ¬ maxMessageSize < RpcResponse.OutputMessageLen
      (resultResponse requestId r).payload_.length
      (resultResponse requestId r).errorMessage_.length from hlarge)]
    exact hencode _ rfl

/-! ### Sessions -/

/-- What the peer sees of the server. -/
inductive Answer
  | response (requestId : UInt64) (output : Bytes)
  | forceClosed
  deriving DecidableEq, Repr

/-- What happens on one connection.  Requests are known by their number on the connection. -/
inductive ConnectionEvent
  | up
  /-- The peer closes its half. -/
  | halfClose
  | lose
  | down
  /-- A message arrives. -/
  | message (msg : Bytes)
  /-- The reply object of a request is called. -/
  | reply (request : ℕ) (rpcResult : RpcResult)
  /-- The task that the reply object of a request queued is run. -/
  | task (request : ℕ)
  deriving DecidableEq, Repr

/-- The state of an abstract server with one connection. -/
structure Session where
  connection : Connection
  /-- The requests received, the oldest first. -/
  requests : List RpcRequest
  /-- The numbers of the active requests by their ids. -/
  entries : UInt64 → Option ℕ
  /-- The numbers of the requests whose token is cancelled. -/
  canceled : Set ℕ
  /-- What the first call of a reply object, or a synchronous handler, returned. -/
  results : ℕ → Option RpcResult
  /-- What was sent, the latest first. -/
  answers : List Answer
  /-- The handlers that were called, the latest first. -/
  invocations : List (RpcRequest × Handler)

namespace Session

def init : Session := ⟨.new, [], fun _ => none, ∅, fun _ => none, [], []⟩

def forceClose (p : Session) : Session :=
  { p with connection := p.connection.close, answers := .forceClosed :: p.answers }

/-- A request is answered with a result. -/
def respond (cfg : Config) (p : Session) (requestId : UInt64) (r : RpcResult) : Session :=
  match answer cfg.effectiveMaxMessageSize requestId r with
  | none => p.forceClose
  | some output =>
    if p.connection.connected then { p with answers := .response requestId output :: p.answers }
    else p

/-- The number of active requests. -/
noncomputable def active (p : Session) : ℕ := { i | (p.entries i).isSome }.ncard

open Classical in
/-- A request of an asynchronous method, the `j`-th on the connection, is registered. -/
noncomputable def register (cfg : Config) (p : Session) (j : ℕ) (request : RpcRequest)
    (handler : RpcAsyncHandler) : Session :=
  if (p.entries request.requestId_).isSome then p.forceClose -- a duplicate
  else if CancellationRegistry.Reached cfg.maxActiveRequestsPerConnection_ p.active then
    p.respond cfg request.requestId_
      (failure .RESOURCE_EXHAUSTED (text "server request limit reached"))
  else { p with
    entries := Function.update p.entries request.requestId_ (some j)
    invocations := (request, .async handler) :: p.invocations }

noncomputable def dispatch (cfg : Config) (sync : RpcHandler → Bytes → Option RpcResult)
    (p : Session) (j : ℕ) (request : RpcRequest) : Session :=
  match cfg.syncHandlers_.find? request.service_ request.method_ with
  | some handler =>
    { p with
      invocations := (request, .sync handler) :: p.invocations
      results := Function.update p.results j (sync handler request.payload_) }.respond cfg
      request.requestId_ (syncResult (sync handler request.payload_))
  | none =>
    match cfg.asyncHandlers_.find? request.service_ request.method_ with
    | some handler => p.register cfg j request handler
    | none => p.respond cfg request.requestId_
        (failure .METHOD_NOT_FOUND (text "service or method not exist"))

def cancel (p : Session) (requestId : UInt64) : Session :=
  match p.entries requestId with
  | none => p
  | some j => { p with
      entries := Function.update p.entries requestId none
      canceled := insert j p.canceled }

noncomputable def message (cfg : Config) (sync : RpcHandler → Bytes → Option RpcResult)
    (p : Session) (msg : Bytes) : Session :=
  match incoming cfg.effectiveMaxMessageSize msg with
  | .invalid => p.forceClose
  | .cancel requestId => p.cancel requestId
  | .request request =>
    { p with requests := p.requests ++ [request] }.dispatch cfg sync p.requests.length request

/-- The first call of a reply object counts. -/
def reply (p : Session) (j : ℕ) (rpcResult : RpcResult) : Session :=
  if (p.results j).isSome then p
  else { p with results := Function.update p.results j (some rpcResult) }

/-- The queued reply of the `j`-th request. -/
def task (cfg : Config) (p : Session) (j : ℕ) : Session :=
  match p.requests[j]?, p.results j with
  | some request, some r =>
    match p.entries request.requestId_ with
    | none => p
    | some _ => { p with entries := Function.update p.entries request.requestId_ none }.respond cfg
        request.requestId_ (replyResult r)
  | _, _ => p

/-- The close of the connection cancels the active requests. -/
def down (p : Session) : Session :=
  { p with
    connection := .down
    entries := fun _ => none
    canceled := p.canceled ∪ { j | ∃ i, p.entries i = some j } }

/-- What the abstract server does on an event. -/
noncomputable def next (cfg : Config) (sync : RpcHandler → Bytes → Option RpcResult)
    (e : ConnectionEvent) (p : Session) : Session :=
  match e with
  | .up => { p with connection := p.connection.up }
  | .halfClose => { p with connection := p.connection.close }
  | .lose => { p with connection := p.connection.lose }
  | .down => p.down
  | .message msg => p.message cfg sync msg
  | .reply j rpcResult => p.reply j rpcResult
  | .task j => p.task cfg j

/-- The state after the events of a connection, the latest first. -/
noncomputable def after (cfg : Config) (sync : RpcHandler → Bytes → Option RpcResult)
    (events : List ConnectionEvent) : Session :=
  events.foldr (next cfg sync) init

end Session

end MiniRpc.RpcServer
