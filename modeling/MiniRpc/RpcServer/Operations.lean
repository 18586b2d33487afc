import MiniRpc.RpcServer.Basic

/-!
# The operations of `RpcServer`

In the words of `RpcServer.cc`, each up to the next point where another thread can come in between.
-/

namespace MiniRpc.RpcServer

/-! ### Sending a response -/

/-- `conn->forceClose()`. -/
def forceClose (s : State) (conn : ConnId) : State :=
  (s.setConnection conn (s.connections conn).close).emit (.forceClosed conn)

/-- Encode a response and send it while the connection is connected. -/
def encodeAndSend (s : State) (conn : ConnId) (origin : Origin) (response : RpcResponse) : State :=
  let (res, outputMessage, errorMessage) := response.encode [] []
  if res = false ∨ errorMessage ≠ [] then forceClose s conn
  else if (s.connections conn).connected then
    s.send conn outputMessage (.responded conn response.requestId_ origin outputMessage)
  else s

/-- The response that replaces one that is too large. -/
def tooLarge (requestId : UInt64) : RpcResponse :=
  ⟨requestId, kUnsuccess, .MESSAGE_TOO_LARGE, [], text "rpc message too large"⟩

/-- The response that carries a result. -/
def resultResponse (requestId : UInt64) (r : RpcResult) : RpcResponse :=
  ⟨requestId, r.result, r.errorCode, r.payload, r.errorMessage⟩

def sendFramedData (s : State) (conn : ConnId) (requestId : UInt64) (origin : Origin)
    (r : RpcResult) (maxMessageSize : ℕ) : State :=
  let outputMessageLen := RpcResponse.OutputMessageLen r.payload.length r.errorMessage.length
  if outputMessageLen > maxMessageSize then
    if maxMessageSize < RpcResponse.OutputMessageLen 0 (text "rpc message too large").length then
      forceClose s conn -- the response that says so is too large as well
    else encodeAndSend s conn origin (tooLarge requestId)
  else encodeAndSend s conn origin (resultResponse requestId r)

/-- The member with the same steps as `sendFramedData`. -/
def sendResponse (cfg : Config) (s : State) (conn : ConnId) (requestId : UInt64) (origin : Origin)
    (r : RpcResult) : State :=
  let outputMessageLen := RpcResponse.OutputMessageLen r.payload.length r.errorMessage.length
  let effectiveMaxMessageSize := cfg.effectiveMaxMessageSize
  if outputMessageLen > effectiveMaxMessageSize then
    if effectiveMaxMessageSize <
        RpcResponse.OutputMessageLen 0 (text "rpc message too large").length then
      forceClose s conn
    else encodeAndSend s conn origin (tooLarge requestId)
  else encodeAndSend s conn origin (resultResponse requestId r)

theorem sendResponse_eq (cfg : Config) (s : State) (conn : ConnId) (requestId : UInt64)
    (origin : Origin) (r : RpcResult) : sendResponse cfg s conn requestId origin r =
      sendFramedData s conn requestId origin r cfg.effectiveMaxMessageSize := rfl

/-- A failure the server reports by itself. -/
def failure (errorCode : RpcErrorCode) (errorMessage : Bytes) : RpcResult :=
  ⟨kUnsuccess, errorCode, [], errorMessage⟩

/-! ### Results of handlers -/

/-- The test of `invokeSyncHandler`. -/
def invalidHandlerResult (r : RpcResult) : Prop :=
  (r.result = kUnsuccess ∧ r.payload ≠ []) ∨ (r.result = kSuccess ∧ r.errorMessage ≠ []) ∨
    (r.result ≠ kSuccess ∧ r.result ≠ kUnsuccess) ∨
    r.errorCode.value ≥ RpcErrorCode.ERROR_CODE_CNT.value ∨
    (r.result = kSuccess ∧ r.errorCode ≠ .NO_ERROR) ∨
    (r.result = kUnsuccess ∧ r.errorCode = .NO_ERROR)

/-- The test of the reply object. -/
def invalidReplyResult (r : RpcResult) : Prop :=
  (r.result = kUnsuccess ∧ r.payload ≠ []) ∨ (r.result = kSuccess ∧ r.errorMessage ≠ []) ∨
    (r.result ≠ kSuccess ∧ r.result ≠ kUnsuccess) ∨
    (r.result = kSuccess ∧ r.errorCode ≠ .NO_ERROR) ∨
    (r.result = kUnsuccess ∧ r.errorCode = .NO_ERROR) ∨
    r.errorCode.value ≥ RpcErrorCode.ERROR_CODE_CNT.value

instance (r : RpcResult) : Decidable (invalidHandlerResult r) :=
  inferInstanceAs (Decidable (_ ∨ _))

instance (r : RpcResult) : Decidable (invalidReplyResult r) := inferInstanceAs (Decidable (_ ∨ _))

def invalidResultFailure : RpcResult := failure .INTERNAL_ERROR (text "invalid handler result")

def handlerException : RpcResult := failure .INTERNAL_ERROR (text "handler exception")

/-! ### Requests and cancels -/

def isRegisteredInSync (cfg : Config) (service method : Bytes) : Bool :=
  (cfg.syncHandlers_.find? service method).isSome

def isRegisteredInAsync (cfg : Config) (service method : Bytes) : Bool :=
  (cfg.asyncHandlers_.find? service method).isSome

/-- `invokeSyncHandler`, with the value the handler returns, `none` where it throws. -/
def invokeSyncHandler (cfg : Config) (s : State) (frame : FrameId) (conn : ConnId)
    (request : RpcRequest) (outcome : Option RpcResult) : State :=
  match cfg.syncHandlers_.find? request.service_ request.method_ with
  | none => s -- undefined in the source; the caller has found the handler
  | some handler =>
    let s := s.emit (.invoked frame conn request (.sync handler))
    let s := s.emit (.finished frame outcome)
    match outcome with
    | none => sendResponse cfg s conn request.requestId_ (.direct frame) handlerException
    | some rpcResult =>
      if invalidHandlerResult rpcResult then
        sendResponse cfg s conn request.requestId_ (.direct frame) invalidResultFailure
      else sendResponse cfg s conn request.requestId_ (.direct frame) rpcResult

/-- `invokeAsyncHandler` up to the registration of the token. -/
def invokeAsyncHandler (cfg : Config) (s : State) (frame : FrameId) (conn : ConnId)
    (request : RpcRequest) : State :=
  match cfg.asyncHandlers_.find? request.service_ request.method_ with
  | none => s -- undefined in the source; the caller has found the handler
  | some handler =>
    let (res, registry) := s.cancellationRegistry_.registerToken conn request.requestId_ frame
    match res with
    -- no response: the one to the active request could not be told apart
    | .kDuplicateRequestId => forceClose (s.emit (.rejected frame conn request)) conn
    | .kConnectionLimitReached | .kGlobalLimitReached =>
      sendResponse cfg (s.emit (.rejected frame conn request)) conn request.requestId_
        (.direct frame) (failure .RESOURCE_EXHAUSTED (text "server request limit reached"))
    | .kRegistered =>
      { s with
        cancellationRegistry_ := registry
        running := (.loop (cfg.loopOf conn), .submit ⟨frame, conn, request, handler⟩) :: s.running }

def cancelAsync (s : State) (conn : ConnId) (requestId : UInt64) : State :=
  { s with
    cancellationRegistry_ := s.cancellationRegistry_.cancel conn requestId
    trace := .cancelReceived conn requestId (s.cancellationRegistry_.find? conn requestId) ::
      s.trace }

/-- `onRpcMessage`, once a `Request` frame has its number. -/
def dispatch (cfg : Config) (s : State) (frame : FrameId) (conn : ConnId) (request : RpcRequest)
    (outcome : Option RpcResult) : State :=
  if isRegisteredInSync cfg request.service_ request.method_ then
    invokeSyncHandler cfg s frame conn request outcome
  else if isRegisteredInAsync cfg request.service_ request.method_ then
    invokeAsyncHandler cfg s frame conn request
  else
    sendResponse cfg s conn request.requestId_ (.direct frame)
      (failure .METHOD_NOT_FOUND (text "service or method not exist"))

/-- The `Request` frame gets its number. -/
def receive (s : State) (conn : ConnId) (request : RpcRequest) : State :=
  { s with
    nextFrame := s.nextFrame + 1
    trace := .requestReceived s.nextFrame conn request :: s.trace }

/-- `onRpcMessage`, after a `Request` frame has been decoded. -/
def onRequest (cfg : Config) (s : State) (conn : ConnId) (request : RpcRequest)
    (outcome : Option RpcResult) : State :=
  dispatch cfg (receive s conn request) s.nextFrame conn request outcome

def onRpcMessage (cfg : Config) (s : State) (conn : ConnId) (msg : Bytes)
    (outcome : Option RpcResult) : State :=
  if msg = [] then forceClose s conn
  else if msg.length > cfg.effectiveMaxMessageSize then forceClose s conn
  else
    match decodeHead msg with
    | none => forceClose s conn
    | some .kCancel =>
      let (res, cancel, errorMessage) := RpcCancel.empty.decode msg []
      if res = false ∨ errorMessage ≠ [] then forceClose s conn
      else cancelAsync s conn cancel.requestId_
    | some .kResponse => forceClose s conn
    | some .kRequest =>
      let (res, request, errorMessage) := RpcRequest.empty.decode msg []
      if res = false ∨ errorMessage ≠ [] then forceClose s conn
      else onRequest cfg s conn request outcome

/-! ### Asynchronous handlers and their replies -/

/-- The handler is called: it gets the reply object. -/
def startHandler (s : State) (inv : Invocation) : State :=
  { s with
    replies := inv :: s.replies
    trace := .invoked inv.frame inv.conn inv.request (.async inv.handler) :: s.trace }

/-- What the worker pool's refusal is answered with. -/
def submitFailure : TaskSubmitResult → RpcResult
  | .kQueueFull => failure .RESOURCE_EXHAUSTED (text "task queue full")
  | .kEmptyTask => failure .INTERNAL_ERROR (text "empty task")
  | _ => failure .INTERNAL_ERROR (text "task pool not running")

/-- The reply object is called by the `k`-th operation in progress, on thread `t`. -/
def reply (s : State) (k : ℕ) (t : Thread) (inv : Invocation) (rpcResult : RpcResult) : State :=
  if inv.frame ∈ s.repliedFlags then s.release k t
  else { s with
    repliedFlags := insert inv.frame s.repliedFlags
    running := s.running.set k (t, .reply inv rpcResult)
    trace := .finished inv.frame (some rpcResult) :: s.trace }

/-- The reply object is called by a thread of the user. -/
def userReply (s : State) (inv : Invocation) (rpcResult : RpcResult) : State :=
  if inv.frame ∈ s.repliedFlags then s
  else { s with
    repliedFlags := insert inv.frame s.repliedFlags
    running := (.user, .reply inv rpcResult) :: s.running
    trace := .finished inv.frame (some rpcResult) :: s.trace }

/-- The rest of `invokeAsyncHandler`, after the token was registered. -/
def submit (s : State) (k : ℕ) (t : Thread) (inv : Invocation) : State :=
  match s.taskPool_ with
  -- `runInLoop` calls the handler at once, in the loop of the connection
  | none => startHandler { s with running := s.running.set k (t, .handler inv) } inv
  | some pool =>
    match pool.addTask (some inv) with
    | (.kAccepted, pool) => { s with taskPool_ := some pool }.release k t
    | (res, _) =>
      reply (s.emit (.rejected inv.frame inv.conn inv.request)) k t inv (submitFailure res)

/-- The result a reply object queues. -/
def replyResult (rpcResult : RpcResult) : RpcResult :=
  if invalidReplyResult rpcResult then invalidResultFailure else rpcResult

/-- The task a reply object queues. -/
def runReply (cfg : Config) (s : State) (inv : Invocation) (rpcResult : RpcResult) : State :=
  let requestId := inv.request.requestId_
  -- whatever is registered under the id now, not the token of `inv`
  let (found, registry) := s.cancellationRegistry_.take inv.conn requestId
  let s := { s with cancellationRegistry_ := registry }
  match found with
  | none => s
  | some token =>
    if token ∈ s.cancellationRegistry_.canceled_ then s
    else sendFramedData s inv.conn requestId (.reply inv.frame token) rpcResult
      cfg.effectiveMaxMessageSize

/-! ### Starting and stopping -/

def start (s : State) : State :=
  if s.status_ ≠ .kNotStarted then s
  else { s with taskPool_ := s.taskPool_.map TaskThreadPool.start, status_ := .kRunning }

def tryCompleteStop (s : State) : State :=
  if s.status_ ≠ .kStopping then s
  else if s.tcpServerStopped_ ∧ s.taskPoolStopped_ then
    { s with status_ := .kStopped, trace := .stopCompleted :: s.trace }
  else s

def onTcpServerStopped (s : State) : State := tryCompleteStop { s with tcpServerStopped_ := true }

def onTaskPoolStopped (s : State) : State := tryCompleteStop { s with taskPoolStopped_ := true }

def stop (s : State) : State :=
  if s.status_ ≠ .kRunning then s
  else
    let s := { s with status_ := .kStopping }
    match s.taskPool_ with
    -- the TCP server is stopped after this; `tcpServerStopped` may follow at once
    | some _ => { s with taskPoolStopThread_ := .spawned }
    | none => onTaskPoolStopped s

end MiniRpc.RpcServer
