import MiniRpc.RpcMessage.Equiv.RoundTrip
import MiniRpc.RpcServer.Step

/-!
# The transitions of a server

`Transition cfg` is an abstract model of the server: what can happen to one `Request` frame, one
token, one operation in progress or one connection at a time.  `Phase` is what the step being taken
has still to do: a frame that was received is dispatched, to a handler or to a refusal, and then
answered.  Between steps the phase is `idle`.

Two conditions restrict the transitions.  When `proper` holds, no reply of a cancelled invocation
takes a token; the transitions in which a frame arrives or is taken by the network are there only
when `network` holds.
-/

namespace MiniRpc.RpcServer

/-- What the step being taken has still to do. -/
inductive Phase
  | idle
  /-- Dispatch a `Request` frame. -/
  | received (frame : FrameId) (conn : ConnId) (request : RpcRequest)
  /-- Answer a request with a result. -/
  | answering (conn : ConnId) (requestId : UInt64) (origin : Origin) (r : RpcResult)

/-- The result with which an outcome of a synchronous handler is answered. -/
def syncResult : Option RpcResult → RpcResult
  | none => handlerException
  | some r => if invalidHandlerResult r then invalidResultFailure else r

/-- The response to a result, replaced if it is too large. -/
def limitedResponse (maxMessageSize : ℕ) (requestId : UInt64) (r : RpcResult) : RpcResponse :=
  if RpcResponse.OutputMessageLen r.payload.length r.errorMessage.length > maxMessageSize then
    tooLarge requestId
  else resultResponse requestId r

/-- The tasks queued in the worker pool, if there is one. -/
def poolTasks : Option (TaskThreadPool Invocation) → List Invocation
  | none => []
  | some pool => pool.tasks_

/-- The limits of the registry stay as they were set. -/
def SameLimits (registry registry' : CancellationRegistry) : Prop :=
  registry'.maxActiveRequests_ = registry.maxActiveRequests_ ∧
    registry'.maxActiveRequestsPerConnection_ = registry.maxActiveRequestsPerConnection_

/-- The request is for an asynchronous method and has the id of one that is active on the
connection. -/
def Duplicate (cfg : Config) (s : State) (conn : ConnId) (request : RpcRequest) : Prop :=
  isRegisteredInSync cfg request.service_ request.method_ = false ∧
    isRegisteredInAsync cfg request.service_ request.method_ = true ∧
    (s.cancellationRegistry_.find? conn request.requestId_).isSome = true

instance (cfg : Config) (s : State) (conn : ConnId) (request : RpcRequest) :
    Decidable (Duplicate cfg s conn request) := inferInstanceAs (Decidable (_ ∧ _))

/-- What can happen to one frame, one token, one operation or one connection. -/
inductive Transition (cfg : Config) (proper network : Prop) : State × Phase → State × Phase → Prop
  -- A `Request` frame.
  | receive {s : State} {conn : ConnId} (request : RpcRequest)
      (hup : (s.connections conn).state = .kUp) (hnetwork : network) :
      Transition cfg proper network (s, .idle) ({ s with
        nextFrame := s.nextFrame + 1
        trace := .requestReceived s.nextFrame conn request :: s.trace },
        .received s.nextFrame conn request)
  | invokeSync {s : State} {frame : FrameId} {conn : ConnId} {request : RpcRequest}
      {handler : RpcHandler} (outcome : Option RpcResult)
      (hhandler : cfg.syncHandlers_.find? request.service_ request.method_ = some handler) :
      Transition cfg proper network (s, .received frame conn request) ({ s with
        trace := .finished frame outcome :: .invoked frame conn request (.sync handler) ::
          s.trace },
        .answering conn request.requestId_ (.direct frame) (syncResult outcome))
  | unknownMethod {s : State} {frame : FrameId} {conn : ConnId} {request : RpcRequest} :
      Transition cfg proper network (s, .received frame conn request)
        (s, .answering conn request.requestId_ (.direct frame)
          (failure .METHOD_NOT_FOUND (text "service or method not exist")))
  | refuseLimit {s : State} {frame : FrameId} {conn : ConnId} {request : RpcRequest} :
      Transition cfg proper network (s, .received frame conn request)
        ({ s with trace := .rejected frame conn request :: s.trace },
        .answering conn request.requestId_ (.direct frame)
          (failure .RESOURCE_EXHAUSTED (text "server request limit reached")))
  | refuseDuplicate {s : State} {frame : FrameId} {conn : ConnId} {request : RpcRequest}
      (hduplicate : Duplicate cfg s conn request) :
      Transition cfg proper network (s, .received frame conn request)
        (forceClose (s.emit (.rejected frame conn request)) conn, .idle)
  | register {s : State} {frame : FrameId} {conn : ConnId} {request : RpcRequest}
      {handler : RpcAsyncHandler} {registry : CancellationRegistry}
      (hhandler : cfg.asyncHandlers_.find? request.service_ request.method_ = some handler)
      (hnone : s.cancellationRegistry_.find? conn request.requestId_ = none)
      (hcanceled : registry.canceled_ = s.cancellationRegistry_.canceled_)
      (hfind : ∀ c i, registry.find? c i = if c = conn ∧ i = request.requestId_ then some frame
        else s.cancellationRegistry_.find? c i)
      (hlimits : SameLimits s.cancellationRegistry_ registry) :
      Transition cfg proper network (s, .received frame conn request) ({ s with
        cancellationRegistry_ := registry
        running :=
          (.loop (cfg.loopOf conn), .submit ⟨frame, conn, request, handler⟩) :: s.running },
        .idle)
  -- An answer.
  | respond {s : State} {conn : ConnId} {requestId : UInt64} {origin : Origin} {r : RpcResult}
      (hvalid : (limitedResponse cfg.effectiveMaxMessageSize requestId r).Valid)
      (hconnected : (s.connections conn).connected = true)
      (hlen : (limitedResponse cfg.effectiveMaxMessageSize requestId r).fields.flatten.length ≤
        cfg.effectiveMaxMessageSize) :
      Transition cfg proper network (s, .answering conn requestId origin r)
        (s.send conn (limitedResponse cfg.effectiveMaxMessageSize requestId r).fields.flatten
          (.responded conn requestId origin
            (limitedResponse cfg.effectiveMaxMessageSize requestId r).fields.flatten), .idle)
  | close {s : State} {conn : ConnId} {requestId : UInt64} {origin : Origin} {r : RpcResult}
      (hclose : cfg.effectiveMaxMessageSize <
          RpcResponse.OutputMessageLen 0 (text "rpc message too large").length ∨
        ¬ (limitedResponse cfg.effectiveMaxMessageSize requestId r).Valid) :
      Transition cfg proper network (s, .answering conn requestId origin r)
        (forceClose s conn, .idle)
  | drop {s : State} {conn : ConnId} {requestId : UInt64} {origin : Origin} {r : RpcResult}
      (hconnected : (s.connections conn).connected = false) :
      Transition cfg proper network (s, .answering conn requestId origin r) (s, .idle)
  -- A `Cancel` frame.
  | cancel {s : State} {conn : ConnId} {requestId : UInt64} {token : TokenId}
      {registry : CancellationRegistry}
      (hfound : s.cancellationRegistry_.find? conn requestId = some token)
      (hcanceled : registry.canceled_ = insert token s.cancellationRegistry_.canceled_)
      (hfind : ∀ c i, registry.find? c i = if c = conn ∧ i = requestId then none
        else s.cancellationRegistry_.find? c i) (hnetwork : network)
      (hlimits : SameLimits s.cancellationRegistry_ registry) :
      Transition cfg proper network (s, .idle) ({ s with
        cancellationRegistry_ := registry
        trace := .cancelReceived conn requestId (some token) :: s.trace }, .idle)
  | cancelNone {s : State} {conn : ConnId} {requestId : UInt64}
      (hnone : s.cancellationRegistry_.find? conn requestId = none) (hnetwork : network) :
      Transition cfg proper network (s, .idle)
        ({ s with trace := .cancelReceived conn requestId none :: s.trace }, .idle)
  -- An invocation of an asynchronous handler.
  | startHandler {s : State} {inv : Invocation} {t : Thread}
      {rest running : List (Thread × Activity)}
      (hrunning : s.running.Perm ((t, .submit inv) :: rest))
      (hrunning' : running.Perm ((t, .handler inv) :: rest)) :
      Transition cfg proper network (s, .idle) ({ s with
        running := running
        replies := inv :: s.replies
        trace := .invoked inv.frame inv.conn inv.request (.async inv.handler) :: s.trace }, .idle)
  | enqueue {s : State} {inv : Invocation} {t : Thread} {running : List (Thread × Activity)}
      {pool : Option (TaskThreadPool Invocation)}
      (hrunning : s.running.Perm ((t, .submit inv) :: running))
      (hpool : poolTasks pool = poolTasks s.taskPool_ ++ [inv]) :
      Transition cfg proper network (s, .idle)
        ({ s with taskPool_ := pool, running := running }, .idle)
  | refuse {s : State} {inv : Invocation} {t : Thread} {rest running : List (Thread × Activity)}
      (r : RpcResult) (hr : r.result = kUnsuccess)
      (hflag : inv.frame ∉ s.repliedFlags)
      (hrunning : s.running.Perm ((t, .submit inv) :: rest))
      (hrunning' : running.Perm ((t, .reply inv r) :: rest)) :
      Transition cfg proper network (s, .idle) ({ s with
        repliedFlags := insert inv.frame s.repliedFlags
        running := running
        trace := .finished inv.frame (some r) ::
          .rejected inv.frame inv.conn inv.request :: s.trace }, .idle)
  | refuseReplied {s : State} {inv : Invocation} {t : Thread} {running : List (Thread × Activity)}
      (hrunning : s.running.Perm ((t, .submit inv) :: running))
      (hflag : inv.frame ∈ s.repliedFlags) :
      Transition cfg proper network (s, .idle) ({ s with
        running := running
        trace := .rejected inv.frame inv.conn inv.request :: s.trace }, .idle)
  | workerTake {s : State} {inv : Invocation} (w : ℕ) {pool : Option (TaskThreadPool Invocation)}
      (hpool : poolTasks s.taskPool_ = inv :: poolTasks pool) :
      Transition cfg proper network (s, .idle) ({ s with
        taskPool_ := pool
        running := (.worker w, .handler inv) :: s.running
        replies := inv :: s.replies
        trace := .invoked inv.frame inv.conn inv.request (.async inv.handler) :: s.trace }, .idle)
  | handlerThrows {s : State} {inv : Invocation} {t : Thread}
      {rest running : List (Thread × Activity)}
      (hflag : inv.frame ∉ s.repliedFlags)
      (hrunning : s.running.Perm ((t, .handler inv) :: rest))
      (hrunning' : running.Perm ((t, .reply inv handlerException) :: rest)) :
      Transition cfg proper network (s, .idle) ({ s with
        repliedFlags := insert inv.frame s.repliedFlags
        running := running
        trace := .finished inv.frame (some handlerException) :: s.trace }, .idle)
  | userReply {s : State} {inv : Invocation} (r : RpcResult) (hinv : inv ∈ s.replies)
      (hflag : inv.frame ∉ s.repliedFlags) :
      Transition cfg proper network (s, .idle) ({ s with
        repliedFlags := insert inv.frame s.repliedFlags
        running := (.user, .reply inv r) :: s.running
        trace := .finished inv.frame (some r) :: s.trace }, .idle)
  /-- An operation that is not the submission of a task ends; a reply object only when its
  connection is gone. -/
  | leave {s : State} {t : Thread} {activity : Activity} {running : List (Thread × Activity)}
      (hrunning : s.running.Perm ((t, activity) :: running))
      (hactivity : ∀ inv, activity ≠ .submit inv)
      (hdropped : ∀ inv r, activity = .reply inv r → (s.connections inv.conn).state = .kDown) :
      Transition cfg proper network (s, .idle) ({ s with running := running }, .idle)
  | queueReply {s : State} {inv : Invocation} {r : RpcResult} {t : Thread}
      {running : List (Thread × Activity)}
      (hrunning : s.running.Perm ((t, .reply inv r) :: running)) :
      Transition cfg proper network (s, .idle) ({ s with
        running := running
        tasks := s.tasks ++ [(cfg.loopOf inv.conn, .reply inv (replyResult r))] }, .idle)
  -- A queued reply.
  | takeNone {s : State} {inv : Invocation} {r : RpcResult} {l : LoopId}
      {tasks : Channel LoopId LoopTask} (htasks : s.tasks.Perm ((l, .reply inv r) :: tasks))
      (hnone : s.cancellationRegistry_.find? inv.conn inv.request.requestId_ = none) :
      Transition cfg proper network (s, .idle) ({ s with tasks := tasks }, .idle)
  | takeCanceled {s : State} {inv : Invocation} {r : RpcResult} {l : LoopId} {token : TokenId}
      {tasks : Channel LoopId LoopTask} {registry : CancellationRegistry}
      (htasks : s.tasks.Perm ((l, .reply inv r) :: tasks))
      (hfound : s.cancellationRegistry_.find? inv.conn inv.request.requestId_ = some token)
      (hcanceled : registry.canceled_ = s.cancellationRegistry_.canceled_)
      (hfind : ∀ c i, registry.find? c i = if c = inv.conn ∧ i = inv.request.requestId_ then none
        else s.cancellationRegistry_.find? c i)
      (htoken : token ∈ s.cancellationRegistry_.canceled_)
      (hlimits : SameLimits s.cancellationRegistry_ registry) :
      Transition cfg proper network (s, .idle)
        ({ s with tasks := tasks, cancellationRegistry_ := registry }, .idle)
  | take {s : State} {inv : Invocation} {r : RpcResult} {l : LoopId} {token : TokenId}
      {tasks : Channel LoopId LoopTask} {registry : CancellationRegistry}
      (htasks : s.tasks.Perm ((l, .reply inv r) :: tasks))
      (hfound : s.cancellationRegistry_.find? inv.conn inv.request.requestId_ = some token)
      (hcanceled : registry.canceled_ = s.cancellationRegistry_.canceled_)
      (hfind : ∀ c i, registry.find? c i = if c = inv.conn ∧ i = inv.request.requestId_ then none
        else s.cancellationRegistry_.find? c i)
      (htoken : token ∉ s.cancellationRegistry_.canceled_)
      (hproper : proper → inv.frame ∉ s.cancellationRegistry_.canceled_)
      (hlimits : SameLimits s.cancellationRegistry_ registry) :
      Transition cfg proper network (s, .idle)
        ({ s with tasks := tasks, cancellationRegistry_ := registry },
        .answering inv.conn inv.request.requestId_ (.reply inv.frame token) r)
  -- Connections.
  | up {s : State} {conn : ConnId} (hnew : (s.connections conn).state = .kNew) :
      Transition cfg proper network (s, .idle) (s.setConnection conn (s.connections conn).up, .idle)
  | closing {s : State} {conn : ConnId} {c : Connection}
      (hup : (s.connections conn).state = .kUp) (hc : c.state = .kUp)
      (hclosing : c.closing = true) :
      Transition cfg proper network (s, .idle) (s.setConnection conn c, .idle)
  | forceClose {s : State} {conn : ConnId} (hup : (s.connections conn).state = .kUp)
      (hnetwork : network) : Transition cfg proper network (s, .idle) (forceClose s conn, .idle)
  | down {s : State} {conn : ConnId} (hup : (s.connections conn).state = .kUp) :
      Transition cfg proper network (s, .idle) ({ s with
        connections := Function.update s.connections conn .down
        cancellationRegistry_ := s.cancellationRegistry_.clearConnectionCancellations conn
        trace := .closed conn :: s.trace }, .idle)
  | transmit {s : State} (conn : ConnId) (hnetwork : network) :
      Transition cfg proper network (s, .idle) ({ s with outbox := s.outbox.dropFirst conn }, .idle)
  -- Workers, starting and stopping.
  | pool {s : State} (pool : Option (TaskThreadPool Invocation))
      (hpool : poolTasks pool = poolTasks s.taskPool_) :
      Transition cfg proper network (s, .idle) ({ s with taskPool_ := pool }, .idle)
  | control {s : State} (status : Status) (tcpServerStopped taskPoolStopped : Bool)
      (taskPoolStopThread : TaskPoolStopThread) :
      Transition cfg proper network (s, .idle) ({ s with
        status_ := status
        tcpServerStopped_ := tcpServerStopped
        taskPoolStopped_ := taskPoolStopped
        taskPoolStopThread_ := taskPoolStopThread }, .idle)
  | stopCompleted {s : State} :
      Transition cfg proper network (s, .idle) (s.emit .stopCompleted, .idle)
  | pushStopped {s : State} :
      Transition cfg proper network (s, .idle) (s.queueInLoop 0 .onTaskPoolStopped, .idle)
  | popStopped {s : State} {l : LoopId} {tasks : Channel LoopId LoopTask}
      (htasks : s.tasks.Perm ((l, .onTaskPoolStopped) :: tasks)) :
      Transition cfg proper network (s, .idle) ({ s with tasks := tasks }, .idle)

end MiniRpc.RpcServer
