import MiniRpc.Channel.Basic
import MiniRpc.Machine.Basic
import MiniRpc.RpcMessage.Basic
import MiniRpc.RpcServer.CancellationRegistry
import MiniRpc.TaskThreadPool.Basic

/-!
# The data of `RpcServer`

The members of `RpcServer` that serving a request reads and writes, its configuration, the queues
of the IO loops, and what the threads are doing.

Each `Request` frame the server processes gets a number, its `FrameId`.  The token that
`invokeAsyncHandler` makes for it, its `repliedFlag` and its reply object carry the same number:
`Invocation` is what the closures of `invokeAsyncHandler` capture.

The operations of the threads interleave at the atomic operations and the mutexes they use:
`running` holds the operations in progress, each of which proceeds by itself.  A synchronous handler
touches nothing that is shared, so it runs within the step that processes its frame.

`trace` records what happened, the latest first; no operation reads it.  `outbox` holds the frames
handed to `codec.send` that the network has not taken yet.
-/

namespace MiniRpc

/-- The identity of an IO loop; the base loop is loop 0. -/
abbrev LoopId := ℕ

/-- The number of a `Request` frame, in the order the server processes them. -/
abbrev FrameId := ℕ

namespace RpcServer

structure RpcResult where
  result : ResponseResult
  errorCode : RpcErrorCode
  payload : Bytes
  errorMessage : Bytes
  deriving DecidableEq, Repr

/-- The constructor that derives the error code from the result. -/
def RpcResult.ofResult (result : ResponseResult) (payload errorMessage : Bytes) : RpcResult where
  result := result
  errorCode := if result = kUnsuccess then .BUSINESS_ERROR else .NO_ERROR
  payload := payload
  errorMessage := errorMessage

/-- A synchronous handler, known by its name only. -/
structure RpcHandler where
  name : ℕ
  deriving DecidableEq, Repr

/-- An asynchronous handler, known by its name only. -/
structure RpcAsyncHandler where
  name : ℕ
  deriving DecidableEq, Repr

/-- Handlers by service and method. -/
abbrev MethodTable (η : Type) := Finmap fun _ : Bytes => Finmap fun _ : Bytes => η

/-- The handler registered for a method. -/
def MethodTable.find? {η : Type} (table : MethodTable η) (service method : Bytes) : Option η :=
  (table.lookup service).bind fun methods => methods.lookup method

/-- What the setters and the registrations before `start` leave, with what they assert. -/
structure Config where
  maxMessageSize_ : Option ℕ
  maxActiveRequests_ : Option ℕ
  maxActiveRequestsPerConnection_ : Option ℕ
  /-- The number of worker threads and the bound of their queue, if there is a worker pool. -/
  workers : Option (UInt8 × Option ℕ)
  syncHandlers_ : MethodTable RpcHandler
  asyncHandlers_ : MethodTable RpcAsyncHandler
  /-- `conn->loop()`. -/
  loopOf : ConnId → LoopId
  maxMessageSize_bounds : ∀ n ∈ maxMessageSize_, 0 < n ∧ n ≤ kMaxMessageSize
  maxActiveRequests_pos : ∀ n ∈ maxActiveRequests_, 0 < n
  maxActiveRequestsPerConnection_pos : ∀ n ∈ maxActiveRequestsPerConnection_, 0 < n
  workers_pos : ∀ w ∈ workers, 0 < w.1 ∧ ∀ n ∈ w.2, 0 < n

namespace Config

def effectiveMaxMessageSize (cfg : Config) : ℕ := cfg.maxMessageSize_.getD kMaxMessageSize

theorem bounds_of_unset : ∀ n ∈ (none : Option ℕ), 0 < n ∧ n ≤ kMaxMessageSize :=
  fun _ h => by cases h

theorem pos_of_unset : ∀ n ∈ (none : Option ℕ), 0 < n := fun _ h => by cases h

/-- A server without limits and without workers, with the given handlers on one loop. -/
def ofHandlers (syncHandlers : MethodTable RpcHandler)
    (asyncHandlers : MethodTable RpcAsyncHandler) : Config where
  maxMessageSize_ := none
  maxActiveRequests_ := none
  maxActiveRequestsPerConnection_ := none
  workers := none
  syncHandlers_ := syncHandlers
  asyncHandlers_ := asyncHandlers
  loopOf _ := 0
  maxMessageSize_bounds := bounds_of_unset
  maxActiveRequests_pos := pos_of_unset
  maxActiveRequestsPerConnection_pos := pos_of_unset
  workers_pos _ h := by cases h

end Config

inductive Status
  | kNotStarted
  | kRunning
  | kStopping
  | kStopped
  deriving DecidableEq, Repr

/-- The thread that stops the worker pool. -/
inductive TaskPoolStopThread
  | none
  /-- It has not called `stop` of the pool yet. -/
  | spawned
  /-- It joins the workers. -/
  | joining
  /-- It has queued `onTaskPoolStopped`. -/
  | finished
  deriving DecidableEq, Repr

/-- What the closures of `invokeAsyncHandler` capture. -/
structure Invocation where
  frame : FrameId
  conn : ConnId
  request : RpcRequest
  handler : RpcAsyncHandler
  deriving DecidableEq, Repr

/-- The threads the server runs on. -/
inductive Thread
  | loop (l : LoopId)
  | worker (w : ℕ)
  /-- Any thread of the user. -/
  | user
  deriving DecidableEq, Repr

/-- What a thread is in the middle of. -/
inductive Activity
  /-- `invokeAsyncHandler`, after the token was registered. -/
  | submit (inv : Invocation)
  /-- The user's handler is running. -/
  | handler (inv : Invocation)
  /-- The reply object, after `repliedFlag` was set. -/
  | reply (inv : Invocation) (rpcResult : RpcResult)
  deriving DecidableEq, Repr

/-- What is queued in an IO loop. -/
inductive LoopTask
  /-- The task a reply object queues. -/
  | reply (inv : Invocation) (rpcResult : RpcResult)
  | onTaskPoolStopped
  deriving DecidableEq, Repr

/-- Where a response comes from. -/
inductive Origin
  /-- The operation that processes a `Request` frame. -/
  | direct (frame : FrameId)
  /-- A queued reply, with the token it took. -/
  | reply (frame : FrameId) (token : TokenId)
  deriving DecidableEq, Repr

/-- The frame that is answered. -/
def Origin.frame : Origin → FrameId
  | .direct frame => frame
  | .reply frame _ => frame

/-- The two kinds of handlers. -/
inductive Handler
  | sync (handler : RpcHandler)
  | async (handler : RpcAsyncHandler)
  deriving DecidableEq, Repr

/-- What happened. -/
inductive Event
  /-- A valid `Request` frame is processed. -/
  | requestReceived (frame : FrameId) (conn : ConnId) (request : RpcRequest)
  /-- A valid `Cancel` frame was processed; the token it marked, if there was one. -/
  | cancelReceived (conn : ConnId) (requestId : UInt64) (token : Option TokenId)
  /-- The frame was refused as a duplicate, by a limit or by the worker pool. -/
  | rejected (frame : FrameId) (conn : ConnId) (request : RpcRequest)
  /-- A handler is invoked. -/
  | invoked (frame : FrameId) (conn : ConnId) (request : RpcRequest) (handler : Handler)
  /-- The value a synchronous handler returned, `none` if it threw, or what was passed to the first
  call of a reply object. -/
  | finished (frame : FrameId) (rpcResult : Option RpcResult)
  /-- A response was sent. -/
  | responded (conn : ConnId) (requestId : UInt64) (origin : Origin) (output : Bytes)
  /-- The server closed the connection. -/
  | forceClosed (conn : ConnId)
  /-- The close of the connection was reported. -/
  | closed (conn : ConnId)
  | stopCompleted
  deriving DecidableEq, Repr

/-- The state of a server with its loops, its workers and its connections. -/
structure State where
  status_ : Status
  tcpServerStopped_ : Bool
  taskPoolStopped_ : Bool
  taskPool_ : Option (TaskThreadPool Invocation)
  taskPoolStopThread_ : TaskPoolStopThread
  cancellationRegistry_ : CancellationRegistry
  /-- The invocations whose `repliedFlag` is set. -/
  repliedFlags : Finset FrameId
  /-- The reply objects that user code holds. -/
  replies : List Invocation
  /-- The tasks queued in the loops, the oldest first. -/
  tasks : Channel LoopId LoopTask
  /-- The operations in progress. -/
  running : List (Thread × Activity)
  connections : ConnId → Connection
  /-- The number of the next `Request` frame. -/
  nextFrame : FrameId
  /-- The frames handed to `codec.send` and not yet taken by the network. -/
  outbox : Channel ConnId Bytes
  /-- What happened, the latest first. -/
  trace : List Event

namespace State

/-- The server after its constructor, its setters and its registrations. -/
def init (cfg : Config) : State where
  status_ := .kNotStarted
  tcpServerStopped_ := false
  taskPoolStopped_ := false
  taskPool_ := cfg.workers.map fun w => TaskThreadPool.init w.1 w.2
  taskPoolStopThread_ := .none
  cancellationRegistry_ := .init cfg.maxActiveRequests_ cfg.maxActiveRequestsPerConnection_
  repliedFlags := ∅
  replies := []
  tasks := []
  running := []
  connections _ := .new
  nextFrame := 0
  outbox := []
  trace := []

/-- Record an event. -/
def emit (s : State) (e : Event) : State := { s with trace := e :: s.trace }

/-- `codec.send`, recorded as `e`. -/
def send (s : State) (conn : ConnId) (frame : Bytes) (e : Event) : State :=
  { s with outbox := s.outbox ++ [(conn, frame)], trace := e :: s.trace }

/-- Change a connection. -/
def setConnection (s : State) (conn : ConnId) (c : Connection) : State :=
  { s with connections := Function.update s.connections conn c }

@[simp] theorem connections_setConnection_self (s : State) (conn : ConnId) (c : Connection) :
    (s.setConnection conn c).connections conn = c :=
  Function.update_self _ _ _

theorem connections_setConnection_of_ne (s : State) {conn c' : ConnId} (c : Connection)
    (h : c' ≠ conn) : (s.setConnection conn c).connections c' = s.connections c' :=
  Function.update_of_ne h _ _

/-- `queueInLoop`. -/
def queueInLoop (s : State) (l : LoopId) (task : LoopTask) : State :=
  { s with tasks := s.tasks ++ [(l, task)] }

/-- Whether the thread is in the middle of an operation. -/
def busy (s : State) (t : Thread) : Bool := s.running.any fun r => r.1 = t

/-- The `k`-th operation in progress comes to its end on thread `t`. -/
def release (s : State) (k : ℕ) : Thread → State
  | .worker w =>
    { s with running := s.running.eraseIdx k, taskPool_ := s.taskPool_.map fun p => p.finish w }
  | _ => { s with running := s.running.eraseIdx k }

end State

end RpcServer

end MiniRpc
