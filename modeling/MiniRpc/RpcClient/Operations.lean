import Mathlib.Data.List.Sort
import MiniRpc.Finmap.Basic
import MiniRpc.RpcClient.Basic

/-!
# The operations of `RpcClient`

Each operation up to the first user callback it runs, in the words of `RpcClient.cc`.  Where an
operation runs callbacks and then goes on, the rest of it is a `Frame`, continued by `resume`.

A hash map is iterated in an order the source does not fix: the operations that iterate over
`pendingRequests_` take that order as an argument, and `IterationOrder` says that it is one.
-/

namespace MiniRpc.RpcClient

/-- One minute, in milliseconds. -/
def oneMinute : ℕ := 60000

/-- The failure a client reports by itself. -/
def failure (requestId : UInt64) (errorCode : RpcErrorCode) (errorMessage : Bytes) : RpcResponse :=
  ⟨requestId, kUnsuccess, errorCode, [], errorMessage⟩

/-- `order` lists each pending id once. -/
def IterationOrder (order : List UInt64) (pending : Finmap fun _ : UInt64 => PendingRequest) :
    Prop := order.Nodup ∧ order.toFinset = pending.keys

instance (order : List UInt64) (pending : Finmap fun _ : UInt64 => PendingRequest) :
    Decidable (IterationOrder order pending) :=
  inferInstanceAs (Decidable (_ ∧ _))

/-- The pending requests in the order of an iteration. -/
def entries (order : List UInt64) (pending : Finmap fun _ : UInt64 => PendingRequest) :
    List (UInt64 × PendingRequest) :=
  order.filterMap fun id => (pending.lookup id).map fun p => (id, p)

namespace State

/-- `pendingRequests_[requestId].timerId = timerId`. -/
def setTimerId (s : State) (requestId : UInt64) (timerId : TimerId) : State :=
  let p := (s.pendingRequests_.lookup requestId).getD default
  { s with
    pendingRequests_ := s.pendingRequests_.insert requestId { p with timerId := some timerId } }

/-- Arm a timer and enter it for the request. -/
def armTimer (s : State) (requestId : UInt64) (delay : ℕ) (task : TimerTask) : State :=
  { s with loop_ := s.loop_.runAfter delay task }.setTimerId requestId s.loop_.nextTimerId

/-- Arm the request timer when the timeout is positive. -/
def armRequestTimer (s : State) (requestId : UInt64) (timeout : ℕ) : State :=
  if 0 < timeout then s.armTimer requestId timeout (.onRequestTimeout requestId) else s

/-- Cancel a timer if there is one. -/
def cancelTimer (s : State) (timerId : Option TimerId) : State :=
  { s with loop_ := s.loop_.cancelIfSet timerId }

/-- Erase a pending request. -/
def erasePending (s : State) (requestId : UInt64) : State :=
  { s with pendingRequests_ := s.pendingRequests_.erase requestId }

/-- Run one callback. -/
def complete (s : State) (c : Completion) : State := s.push (.callbacks [c])

end State

/-! ### Calls -/

/-- The entry `callInLoop` makes for an accepted call, before its timer is set. -/
def newPending (cfg : Config) (a : CallArgs) : PendingRequest where
  serviceName := a.service
  methodName := a.method
  payload := a.payload
  callback := a.cb
  requestTimeout := a.timeout
  -- a call without resends is not resent, whatever it allows
  allowReconnect := a.allowReconnect && cfg.resendLimit a != 0
  phase := .kWaitingResponse
  remainingResends := cfg.resendLimit a
  reconnectTimeout :=
    if a.allowReconnect ∧ a.reconnectTimeout = 0 then cfg.defaultReconnectTimeout_
    else a.reconnectTimeout
  timerId := none

/-- The callback of a call that is not accepted. -/
def rejection (s : State) (requestId : UInt64) (a : CallArgs) (errorCode : RpcErrorCode)
    (errorMessage : Bytes) : Completion :=
  ⟨requestId, a.cb, failure requestId errorCode errorMessage, .rejected, s.now⟩

def callInLoop (cfg : Config) (s : State) (requestId : UInt64) (a : CallArgs) : State :=
  match if s.status_ = .kConnected then s.connectedConn else none with
  | none =>
    -- no error code was set in the `do` block
    s.complete (rejection s requestId a .CONNECTION_UNAVAILABLE (text "connection not connected"))
  | some conn =>
    let outputMessageLen :=
      RpcRequest.OutputMessageLen a.service.length a.method.length a.payload.length
    if outputMessageLen > cfg.effectiveMaxMessageSize then
      s.complete (rejection s requestId a .MESSAGE_TOO_LARGE (text "rpc message too large"))
    else if cfg.maxPendingRequests_.any fun n => decide (s.pendingRequests_.keys.card ≥ n) then
      s.complete (rejection s requestId a .RESOURCE_EXHAUSTED (text "too many pending requests"))
    else
      let request : RpcRequest := ⟨requestId, a.service, a.method, a.payload⟩
      let (res, output, errorMsg) := request.encode [] []
      if res = false ∨ errorMsg ≠ [] then
        -- the `break` of the `do` block
        s.complete (rejection s requestId a .INTERNAL_ERROR (text "encode error"))
      else
        let s := { s with
          pendingRequests_ := s.pendingRequests_.insert requestId (newPending cfg a) }
        let s := s.armRequestTimer requestId a.timeout
        s.send conn output (.requestSent conn requestId a output s.now)

/-- Draw a request id. -/
def fetchRequestId (s : State) (a : CallArgs) : UInt64 × State :=
  let requestId := UInt64.ofNat s.nextRequestId_
  (requestId, { s with
    nextRequestId_ := s.nextRequestId_ + 1
    trace := .called requestId a :: s.trace })

/-- `call` in the loop thread. -/
def call (cfg : Config) (s : State) (a : CallArgs) : State :=
  let (requestId, s) := fetchRequestId s a
  callInLoop cfg s requestId a

def sendCancel (s : State) (requestId : UInt64) : State :=
  match s.connectedConn with
  | none => s
  | some conn =>
    let (res, output, errorMsg) := (RpcCancel.mk requestId).encode [] []
    if res = false ∨ errorMsg ≠ [] then s
    else s.send conn output (.cancelSent conn requestId output)

/-- Ignore the response to a request until a minute from now. -/
def ignoreResponse (s : State) (requestId : UInt64) : State :=
  { s with
    ignoredResponseRequests_ :=
      s.ignoredResponseRequests_.insert requestId (s.now + oneMinute) }

def cancelInLoop (s : State) (requestId : UInt64) : State :=
  match s.pendingRequests_.lookup requestId with
  | none => s -- an id whose call is still queued ends here as well
  | some p =>
    -- the phase is not looked at: a request that waits for a reconnect is cancelled as well
    let s := s.cancelTimer p.timerId
    let s := s.erasePending requestId
    let s := ignoreResponse s requestId
    let s := sendCancel s requestId
    s.complete ⟨requestId, p.callback,
      failure requestId .REQUEST_CANCELED (text "rpc request canceled"), .canceled, s.now⟩

/-! ### Timers -/

def onRequestTimeout (s : State) (requestId : UInt64) : State :=
  match s.pendingRequests_.lookup requestId with
  | none => s
  | some p =>
    if p.phase ≠ .kWaitingResponse then s
    else
      let s := s.erasePending requestId
      let s := ignoreResponse s requestId
      let s := sendCancel s requestId
      s.complete ⟨requestId, p.callback,
        failure requestId .REQUEST_TIMEOUT (text "rpc request timeout"), .requestTimeout, s.now⟩

def onReconnectTimeout (s : State) (requestId : UInt64) : State :=
  match s.pendingRequests_.lookup requestId with
  | none => s
  | some p =>
    if p.phase ≠ .kWaitingReconnect then s
    else
      let p : PendingRequest := { p with remainingResends := p.remainingResends - 1 }
      let s := s.emit (.waitExpired requestId s.now)
      if p.remainingResends = 0 then
        let s := s.erasePending requestId
        s.complete ⟨requestId, p.callback,
          failure requestId .RECONNECT_TIMEOUT (text "rpc reconnect timeout"), .reconnectTimeout,
          s.now⟩
      else
        let s := { s with pendingRequests_ := s.pendingRequests_.insert requestId p }
        s.armTimer requestId p.reconnectTimeout (.onReconnectTimeout requestId)

/-- Run what a timer carries. -/
def runTimer (s : State) : TimerTask → State
  | .onRequestTimeout requestId => onRequestTimeout s requestId
  | .onReconnectTimeout requestId => onReconnectTimeout s requestId

def clearExpiredIgnoredResponseRequests (s : State) : State :=
  { s with
    ignoredResponseRequests_ :=
      s.ignoredResponseRequests_.filter fun _ expiry => ! decide (expiry ≤ s.now)
    trace := .swept s.now :: s.trace }

def clearIgnoredResponseRequests (s : State) : State := { s with ignoredResponseRequests_ := ∅ }

/-! ### Responses -/

/-- The client closes the connection. -/
def forceClose (s : State) (conn : ConnId) : State :=
  { s with
    tcpClient_ := { s.tcpClient_ with closing := true }
    trace := .forceClosed conn :: s.trace }

/-- `onRpcMessage`, after the response has been decoded. -/
def onResponse (s : State) (conn : ConnId) (response : RpcResponse) : State :=
  let requestId := response.requestId_
  let s := s.emit (.received conn response)
  match s.pendingRequests_.lookup requestId with
  | none =>
    if requestId ∈ s.ignoredResponseRequests_ then
      { s with ignoredResponseRequests_ := s.ignoredResponseRequests_.erase requestId }
    else forceClose s conn
  | some p =>
    -- neither the phase nor the connection the request was sent on is looked at
    let s := s.cancelTimer p.timerId
    let s := s.erasePending requestId
    s.complete ⟨requestId, p.callback, response, .response, s.now⟩

def onRpcMessage (cfg : Config) (s : State) (conn : ConnId) (msg : Bytes) : State :=
  if msg = [] then forceClose s conn
  else if msg.length > cfg.effectiveMaxMessageSize then forceClose s conn
  else if decodeHead msg ≠ some .kResponse then forceClose s conn
  else
    let (res, response, errorMsg) := RpcResponse.empty.decode msg []
    if res = false ∨ errorMsg ≠ [] then forceClose s conn
    else onResponse s conn response

/-! ### Failing the pending requests -/

/-- The callback of a request failed because its connection was lost. -/
def lostCompletion (now : ℕ) (errorCode : RpcErrorCode) (errorMessage : Bytes)
    (item : UInt64 × RpcCallback) : Completion :=
  ⟨item.1, item.2, failure item.1 errorCode errorMessage, .connectionLost, now⟩

def failAllPendingRequests (s : State) (order : List UInt64) (errorCode : RpcErrorCode)
    (errorMessage : Bytes) : State :=
  -- `temp.swap(pendingRequests_)`: a callback that calls again finds an empty map
  let temp := entries order s.pendingRequests_
  let s := { s with pendingRequests_ := ∅ }
  let s := temp.foldl (fun s item => s.cancelTimer item.2.timerId) s
  s.push (.callbacks (temp.map fun item =>
    lostCompletion s.now errorCode errorMessage (item.1, item.2.callback)))

/-- The first loop of `failAllDisreconnectRequests`: the request waits for a reconnect. -/
def startReconnectWait (s : State) (requestId : UInt64) : State :=
  match s.pendingRequests_.lookup requestId with
  | none => s
  | some p =>
    let s := s.cancelTimer p.timerId
    let s := { s with pendingRequests_ := s.pendingRequests_.insert requestId
                        { p with phase := .kWaitingReconnect, timerId := none } }
    s.armTimer requestId p.reconnectTimeout (.onReconnectTimeout requestId)

/-- The second loop of `failAllDisreconnectRequests`: the callback is taken, ordered by id. -/
def takeCallback (acc : State × List (UInt64 × RpcCallback)) (requestId : UInt64) :
    State × List (UInt64 × RpcCallback) :=
  let (s, callbacks) := acc
  match s.pendingRequests_.lookup requestId with
  | none => (s, callbacks)
  | some p =>
    let s := s.cancelTimer p.timerId
    (s.erasePending requestId,
      callbacks.orderedInsert (fun a b => a.1 ≤ b.1) (requestId, p.callback))

def failAllDisreconnectRequests (s : State) (order : List UInt64) (errorCode : RpcErrorCode)
    (errorMessage : Bytes) : State :=
  let items := entries order s.pendingRequests_
  -- a request that waits for a reconnect already is in neither list and keeps its timer
  let waitingToChangePhase := (items.filter fun item =>
    item.2.phase = .kWaitingResponse ∧ item.2.allowReconnect ∧ item.2.remainingResends ≠ 0).map
      Prod.fst
  let waitingToCallFailCallback := (items.filter fun item =>
    item.2.phase = .kWaitingResponse ∧
      ((item.2.allowReconnect ∧ item.2.remainingResends = 0) ∨ ¬ item.2.allowReconnect)).map
      Prod.fst
  let s := waitingToChangePhase.foldl startReconnectWait s
  let (s, callbacks) := waitingToCallFailCallback.foldl takeCallback (s, [])
  s.push (.callbacks (callbacks.map (lostCompletion s.now errorCode errorMessage)))

/-! ### Connecting and disconnecting -/

def connect (s : State) : State :=
  if s.status_ ≠ .kDisconnected then s else { s with status_ := .kConnecting }

def disconnect (s : State) (order : List UInt64) : State :=
  let s := { s with
    manualDisconnection_ := true
    tcpClient_ := { s.tcpClient_ with closing := true } }
  match s.status_ with
  | .kDisconnected | .kDisconnecting =>
    -- also after an earlier `disconnect` whose close has not been reported
    failAllPendingRequests s order .CONNECTION_CLOSED (text "connect closed")
  | .kConnected => { s with status_ := .kDisconnecting } -- `onConnection` fails the requests
  | .kConnecting =>
    failAllPendingRequests { s with status_ := .kDisconnected } order .CONNECTION_CLOSED
      (text "connect closed")

/-- Run the connection callback, if one is set. -/
def runConnectionCallback (cfg : Config) (s : State) (conn : ConnId) (up : Bool) : State :=
  if cfg.connectionCallback_ then (s.emit (.connectionCallback conn up)).push .userCode else s

/-- `onConnection` of a connection that came up. -/
def onConnectionUp (cfg : Config) (s : State) (conn : ConnId) : State :=
  let s := { s with conn_ := some conn, status_ := .kConnected, manualDisconnection_ := false }
  runConnectionCallback cfg (s.push (.onConnectionUp conn)) conn true

/-- `onConnection` of a connection that went down. -/
def onConnectionDown (s : State) (conn : ConnId) (order : List UInt64) : State :=
  let s := { s with status_ := .kDisconnected, conn_ := none }
  let s := s.push (.onConnectionDown conn)
  if s.manualDisconnection_ then
    failAllPendingRequests s order .CONNECTION_CLOSED (text "connect closed")
  else
    failAllDisreconnectRequests s order .CONNECTION_CLOSED (text "connect closed")

def onConnectionError (s : State) (errorCode : ℤ) (order : List UInt64) : State :=
  let s := { s with conn_ := none, status_ := .kDisconnected }
  failAllDisreconnectRequests (s.push (.onConnectionError errorCode)) order
    .CONNECTION_UNAVAILABLE (text "connection error")

/-! ### Resending after a reconnect -/

/-- The first loop of `checkReconnect`: the requests to be resent. -/
def waitingToResendRequest (s : State) (order : List UInt64) : List UInt64 :=
  ((entries order s.pendingRequests_).filter fun item =>
    ¬ (item.2.phase ≠ .kWaitingReconnect ∨ ¬ item.2.allowReconnect ∨
      item.2.remainingResends = 0)).map Prod.fst

/-- Whether the second loop of `checkReconnect` goes on: `conn` is still the connection. -/
def canResend (s : State) (conn : Option ConnId) : Option ConnId :=
  if conn ≠ s.conn_ ∨ s.status_ ≠ .kConnected then none else s.connectedConn

/-- One round of the second loop of `checkReconnect` on a connected `conn`; `s` has the rest of the
loop on its stack. -/
def resend (s : State) (conn : ConnId) (requestId : UInt64) : State :=
  match s.pendingRequests_.lookup requestId with
  | none => s
  | some p =>
    if p.phase ≠ .kWaitingReconnect then s -- a callback has changed it since the first loop
    else
      let s := s.cancelTimer p.timerId
      let p : PendingRequest := { p with
        timerId := none
        remainingResends := p.remainingResends - 1
        phase := .kWaitingResponse }
      let s := { s with pendingRequests_ := s.pendingRequests_.insert requestId p }
      let (res, output, errorMsg) := (p.request requestId).encode [] []
      if res = false ∨ errorMsg ≠ [] then
        let s := s.erasePending requestId
        s.complete
          ⟨requestId, p.callback, failure requestId .INTERNAL_ERROR errorMsg, .resendFailed, s.now⟩
      else
        let s := s.armRequestTimer requestId p.requestTimeout
        s.send conn output (.requestResent conn requestId output s.now)

end MiniRpc.RpcClient
