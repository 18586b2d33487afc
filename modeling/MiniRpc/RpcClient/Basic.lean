import MiniRpc.Channel.Basic
import MiniRpc.EventLoop.Basic
import MiniRpc.RpcMessage.Basic
import MiniRpc.TcpConnection.Basic

/-!
# The data of `RpcClient`

The members of `RpcClient` that its operations read and write, its configuration, and what the
operations use of the event loop and of `TcpClient`.

User callbacks run inside the client's operations and may call the client again, so an operation
that runs a callback is cut there: `Frame` is what remains to be done of an operation, and
`State.stack` is the stack of the operations in progress, the innermost first.  The loop takes its
next event when the stack is empty.

`trace` records what happened, the latest first; no operation reads it.  `outbox` holds the frames
handed to `codec_.send` that the network has not taken yet.
-/

namespace MiniRpc

namespace RpcClient

inductive Status
  | kDisconnected
  | kConnecting
  | kDisconnecting
  | kConnected
  deriving DecidableEq, Repr

inductive RequestPhase
  | kWaitingResponse
  | kWaitingReconnect
  deriving DecidableEq, Repr, Inhabited

/-- A user's callback, known by its name only: what it does when it runs is any sequence of
operations (see `Action`). -/
structure RpcCallback where
  name : ℕ
  deriving DecidableEq, Repr, Inhabited

/-- The arguments of `call`.  Durations are milliseconds; the source asserts that they are not
negative. -/
structure CallArgs where
  service : Bytes
  method : Bytes
  payload : Bytes
  cb : RpcCallback
  timeout : ℕ
  allowReconnect : Bool
  reconnectTimeout : ℕ
  resendLimit : Option UInt8
  deriving DecidableEq, Repr

/-- What the setters leave, frozen by the first `connect`, with what they assert. -/
structure Config where
  maxPendingRequests_ : Option ℕ
  defaultTimeout_ : ℕ
  maxMessageSize_ : Option ℕ
  defaultReconnectTimeout_ : ℕ
  defaultResendLimit_ : UInt8
  defaultAllowResend_ : Bool
  /-- Whether a connection callback is set. -/
  connectionCallback_ : Bool
  /-- Whether a connection error callback is set. -/
  connectionErrorCallback_ : Bool
  maxPendingRequests_pos : ∀ n ∈ maxPendingRequests_, 0 < n
  maxMessageSize_bounds : ∀ n ∈ maxMessageSize_, 0 < n ∧ n ≤ kMaxMessageSize
  defaultReconnectTimeout_pos : 0 < defaultReconnectTimeout_

namespace Config

/-- The configuration of the constructor, with both user callbacks set. -/
def default : Config where
  maxPendingRequests_ := none
  defaultTimeout_ := 0
  maxMessageSize_ := none
  defaultReconnectTimeout_ := 1000
  defaultResendLimit_ := 1
  defaultAllowResend_ := false
  connectionCallback_ := true
  connectionErrorCallback_ := true
  maxPendingRequests_pos _ h := by cases h
  maxMessageSize_bounds _ h := by cases h
  defaultReconnectTimeout_pos := by decide

def effectiveMaxMessageSize (cfg : Config) : ℕ := cfg.maxMessageSize_.getD kMaxMessageSize

theorem effectiveMaxMessageSize_le (cfg : Config) :
    cfg.effectiveMaxMessageSize ≤ kMaxMessageSize := by
  unfold effectiveMaxMessageSize
  cases h : cfg.maxMessageSize_ with
  | none => exact Nat.le_refl _
  | some n => exact (cfg.maxMessageSize_bounds n h).2

/-- The arguments of the overload of `call` with a timeout. -/
def callArgsWithTimeout (cfg : Config) (service method payload : Bytes) (cb : RpcCallback)
    (timeout : ℕ) : CallArgs :=
  ⟨service, method, payload, cb, timeout, cfg.defaultAllowResend_, 0, none⟩

/-- The arguments of the overload of `call` without a timeout. -/
def callArgs (cfg : Config) (service method payload : Bytes) (cb : RpcCallback) : CallArgs :=
  cfg.callArgsWithTimeout service method payload cb cfg.defaultTimeout_

/-- The resend limit of a call. -/
def resendLimit (cfg : Config) (a : CallArgs) : UInt8 := a.resendLimit.getD cfg.defaultResendLimit_

end Config

structure PendingRequest where
  serviceName : Bytes
  methodName : Bytes
  payload : Bytes
  callback : RpcCallback
  requestTimeout : ℕ
  allowReconnect : Bool
  phase : RequestPhase
  remainingResends : UInt8
  reconnectTimeout : ℕ
  timerId : Option TimerId
  deriving DecidableEq, Repr, Inhabited

/-- The request a pending entry is sent as. -/
def PendingRequest.request (p : PendingRequest) (requestId : UInt64) : RpcRequest :=
  ⟨requestId, p.serviceName, p.methodName, p.payload⟩

/-- What a one-shot timer of the client runs. -/
inductive TimerTask
  | onRequestTimeout (requestId : UInt64)
  | onReconnectTimeout (requestId : UInt64)
  deriving DecidableEq, Repr

/-- What other threads queue in the loop. -/
inductive LoopTask
  | callInLoop (requestId : UInt64) (args : CallArgs)
  | cancelInLoop (requestId : UInt64)
  deriving DecidableEq, Repr

/-- The client's view of TCP: connections come up and go down one after the other, each with a new
identity. -/
structure TcpClient where
  /-- The connection that is up. -/
  current : Option ConnId
  /-- What its `connected()` returns. -/
  connected : Bool
  /-- Whether this end has begun to close it. -/
  closing : Bool
  /-- The identity of the next connection. -/
  nextConn : ConnId
  deriving DecidableEq, Repr

/-- `conn->connected()`. -/
def TcpClient.isConnected (t : TcpClient) (conn : ConnId) : Bool :=
  t.current = some conn && t.connected

/-- The connection is up or may come up, and this end has not begun to close it. -/
def TcpClient.Open (t : TcpClient) (conn : ConnId) : Prop :=
  t.nextConn ≤ conn ∨ t.current = some conn ∧ t.closing = false

instance (t : TcpClient) (conn : ConnId) : Decidable (t.Open conn) :=
  inferInstanceAs (Decidable (_ ∨ _))

/-- The operation that completed a call. -/
inductive Cause
  | response
  | rejected
  | requestTimeout
  | canceled
  | reconnectTimeout
  | connectionLost
  | resendFailed
  deriving DecidableEq, Repr

/-- A callback taken for invocation: the call it belongs to and the response it gets, with the
operation that took it and the time. -/
structure Completion where
  requestId : UInt64
  callback : RpcCallback
  response : RpcResponse
  cause : Cause
  time : ℕ
  deriving DecidableEq, Repr

/-- What remains to be done of an operation that has run, or is about to run, user code. -/
inductive Frame
  /-- Invoke the callbacks in this order. -/
  | callbacks (cs : List Completion)
  /-- User code is running. -/
  | userCode
  /-- `onConnection` of a connection that came up, after the connection callback. -/
  | onConnectionUp (conn : ConnId)
  /-- The loop of `checkReconnect` over the requests still to be resent. -/
  | checkReconnect (conn : Option ConnId) (waitingToResendRequest : List UInt64)
  /-- `onConnection` of a connection that went down, after the pending requests were failed. -/
  | onConnectionDown (conn : ConnId)
  /-- `onConnectionError`, after the pending requests were failed. -/
  | onConnectionError (errorCode : ℤ)
  deriving DecidableEq, Repr

/-- What happened. -/
inductive Event
  /-- `call` drew the request id. -/
  | called (requestId : UInt64) (args : CallArgs)
  /-- `callInLoop` accepted the call and sent its request. -/
  | requestSent (conn : ConnId) (requestId : UInt64) (args : CallArgs) (frame : Bytes) (time : ℕ)
  /-- `checkReconnect` sent the request again. -/
  | requestResent (conn : ConnId) (requestId : UInt64) (frame : Bytes) (time : ℕ)
  /-- `sendCancel` sent a cancel. -/
  | cancelSent (conn : ConnId) (requestId : UInt64) (frame : Bytes)
  /-- A wait for a reconnect expired. -/
  | waitExpired (requestId : UInt64) (time : ℕ)
  /-- A valid response arrived. -/
  | received (conn : ConnId) (response : RpcResponse)
  /-- `clearExpiredIgnoredResponseRequests` ran. -/
  | swept (time : ℕ)
  /-- The client closed the connection. -/
  | forceClosed (conn : ConnId)
  /-- A user callback was invoked. -/
  | invoked (c : Completion)
  | connectionCallback (conn : ConnId) (up : Bool)
  | connectionErrorCallback (errorCode : ℤ)
  deriving DecidableEq, Repr

/-- The state of a client with its loop and its TCP client. -/
structure State where
  /-- The counter; the id drawn from it is its value modulo `2 ^ 64`. -/
  nextRequestId_ : ℕ
  status_ : Status
  conn_ : Option ConnId
  pendingRequests_ : Finmap fun _ : UInt64 => PendingRequest
  /-- The ids whose response is ignored, with the time the entry expires. -/
  ignoredResponseRequests_ : Finmap fun _ : UInt64 => ℕ
  manualDisconnection_ : Bool
  loop_ : EventLoop TimerTask LoopTask
  tcpClient_ : TcpClient
  /-- The calls of other threads that have drawn their id and not queued their task yet. -/
  calling : List (UInt64 × CallArgs)
  /-- The operations in progress, the innermost first. -/
  stack : List Frame
  /-- The frames handed to `codec_.send` and not yet taken by the network. -/
  outbox : Channel ConnId Bytes
  /-- What happened, the latest first. -/
  trace : List Event

namespace State

/-- The client after its constructor. -/
def init : State where
  nextRequestId_ := 1
  status_ := .kDisconnected
  conn_ := none
  pendingRequests_ := ∅
  ignoredResponseRequests_ := ∅
  manualDisconnection_ := false
  loop_ := .init
  tcpClient_ := ⟨none, false, false, 0⟩
  calling := []
  stack := []
  outbox := []
  trace := []

/-- `conn_`, when it is set and connected. -/
def connectedConn (s : State) : Option ConnId := s.conn_.filter s.tcpClient_.isConnected

/-- The time. -/
def now (s : State) : ℕ := s.loop_.now

/-- Put an operation on the stack. -/
def push (s : State) (f : Frame) : State := { s with stack := f :: s.stack }

/-- Record an event. -/
def emit (s : State) (e : Event) : State := { s with trace := e :: s.trace }

/-- `codec_.send`, recorded as `e`. -/
def send (s : State) (conn : ConnId) (frame : Bytes) (e : Event) : State :=
  { s with outbox := s.outbox ++ [(conn, frame)], trace := e :: s.trace }

/-- The callbacks held by the operations in progress. -/
def held (s : State) : List Completion := s.stack.flatMap fun
  | .callbacks cs => cs
  | _ => []

end State

end RpcClient

end MiniRpc
