import MiniRpc.RpcClient.Step
import MiniRpc.RpcMessage.Equiv.RoundTrip

/-!
# The transitions of a request

`Transition cfg` is an abstract model of the client: what can happen to one request, one timer or
one frame of the stack at a time.  A call is drawn, queued, taken out of the queue, and then
accepted or rejected; an accepted request waits for its response or for a reconnect, and leaves
`pendingRequests_` by exactly one of the transitions that move its callback into the innermost
`callbacks` frame, from where it is invoked.

Two conditions restrict the transitions.  When `proper` holds, only requests that wait for a
response are cancelled or answered; the transitions in which a response arrives or a frame is taken
by the network are there only when `network` holds.

`Equiv/Decompose.lean` shows that every step of the client is a sequence of transitions, so an
invariant of the client has only to be checked on them.
-/

namespace MiniRpc.RpcClient

/-- The bytes sent for a request. -/
def requestFrame (requestId : UInt64) (p : PendingRequest) : Bytes :=
  (p.request requestId).fields.flatten

/-- The bytes sent for a cancel. -/
def cancelFrame (requestId : UInt64) : Bytes := (RpcCancel.mk requestId).fields.flatten

/-- The entry of a request that waits for a reconnect. -/
def waitingEntry (p : PendingRequest) (timerId : TimerId) : PendingRequest :=
  { p with phase := .kWaitingReconnect, timerId := some timerId }

/-- The entry of a request that was resent. -/
def resentEntry (p : PendingRequest) (timerId : Option TimerId) : PendingRequest :=
  { p with
    phase := .kWaitingResponse
    remainingResends := p.remainingResends - 1
    timerId := timerId }

/-- The entry of a request that goes on waiting for a reconnect. -/
def rearmedEntry (p : PendingRequest) (timerId : TimerId) : PendingRequest :=
  { p with remainingResends := p.remainingResends - 1, timerId := some timerId }

/-- The codes with which a call is rejected. -/
def rejectionCodes : List RpcErrorCode :=
  [.CONNECTION_UNAVAILABLE, .MESSAGE_TOO_LARGE, .RESOURCE_EXHAUSTED]

/-- The codes with which a request fails because its connection is lost. -/
def lossCodes : List RpcErrorCode := [.CONNECTION_CLOSED, .CONNECTION_UNAVAILABLE]

/-- What can happen to one call, one timer or one frame of the stack. -/
inductive Transition (cfg : Config) (proper network : Prop) : State → State → Prop
  /-- A call draws its id. -/
  | draw {s : State} (a : CallArgs) :
      Transition cfg proper network s { s with
        nextRequestId_ := s.nextRequestId_ + 1
        calling := (UInt64.ofNat s.nextRequestId_, a) :: s.calling
        trace := .called (UInt64.ofNat s.nextRequestId_) a :: s.trace }
  /-- A call queues its task. -/
  | enqueue {s : State} {id : UInt64} {a : CallArgs} {calling : List (UInt64 × CallArgs)}
      (hcalling : s.calling.Perm ((id, a) :: calling)) :
      Transition cfg proper network s { s with
        calling := calling
        loop_ := s.loop_.queueInLoop (.callInLoop id a) }
  /-- The loop takes the task of a call. -/
  | dequeue {s : State} {id : UInt64} {a : CallArgs} {tasks : List LoopTask}
      (htasks : s.loop_.tasks = .callInLoop id a :: tasks) :
      Transition cfg proper network s { s with
        calling := (id, a) :: s.calling
        loop_ := s.loop_.setTasks tasks }
  | queueCancel {s : State} (id : UInt64) :
      Transition cfg proper network s { s with loop_ := s.loop_.queueInLoop (.cancelInLoop id) }
  /-- The loop takes the task of a cancel. -/
  | dequeueCancel {s : State} {id : UInt64} {tasks : List LoopTask}
      (htasks : s.loop_.tasks = .cancelInLoop id :: tasks) :
      Transition cfg proper network s { s with loop_ := s.loop_.setTasks tasks }
  | tick {s : State} (d : ℕ) : Transition cfg proper network s { s with loop_ := s.loop_.tick d }
  | transmit {s : State} (conn : ConnId) (hnetwork : network) :
      Transition cfg proper network s { s with outbox := s.outbox.dropFirst conn }
  | loseConnection {s : State} :
      Transition cfg proper network s { s with
        tcpClient_ := { s.tcpClient_ with connected := false, closing := true } }
  | forceClose {s : State} (conn : ConnId) :
      Transition cfg proper network s { s with
        tcpClient_ := { s.tcpClient_ with closing := true }
        trace := .forceClosed conn :: s.trace }
  /-- A cancel is sent for a request that has been given up. -/
  | sendCancel {s : State} {conn : ConnId} {id : UInt64} (hconn : s.connectedConn = some conn)
      (hheld : ∃ c ∈ s.held, c.requestId = id ∧
        (c.cause = .requestTimeout ∨ c.cause = .canceled)) :
      Transition cfg proper network s { s with
        outbox := s.outbox ++ [(conn, cancelFrame id)]
        trace := .cancelSent conn id (cancelFrame id) :: s.trace }
  -- The stack.
  | enterUser {s : State} : Transition cfg proper network s { s with stack := .userCode :: s.stack }
  | connectionCallback {s : State} (conn : ConnId) (up : Bool) :
      Transition cfg proper network s { s with
        stack := .userCode :: s.stack
        trace := .connectionCallback conn up :: s.trace }
  | connectionErrorCallback {s : State} (errorCode : ℤ) :
      Transition cfg proper network s { s with
        stack := .userCode :: s.stack
        trace := .connectionErrorCallback errorCode :: s.trace }
  | leaveUser {s : State} {rest : List Frame} (hstack : s.stack = .userCode :: rest) :
      Transition cfg proper network s { s with stack := rest }
  | openCallbacks {s : State} :
      Transition cfg proper network s { s with stack := .callbacks [] :: s.stack }
  | closeCallbacks {s : State} {rest : List Frame} (hstack : s.stack = .callbacks [] :: rest) :
      Transition cfg proper network s { s with stack := rest }
  | invoke {s : State} {c : Completion} {cs : List Completion} {rest : List Frame}
      (hstack : s.stack = .callbacks (c :: cs) :: rest) :
      Transition cfg proper network s { s with
        stack := .userCode :: .callbacks cs :: rest
        trace := .invoked c :: s.trace }
  -- A call is executed.
  | reject {s : State} {id : UInt64} {a : CallArgs} {calling : List (UInt64 × CallArgs)}
      {errorCode : RpcErrorCode} (errorMessage : Bytes)
      (hcode : errorCode ∈ rejectionCodes) (hcalling : s.calling = (id, a) :: calling) :
      Transition cfg proper network s { s with
        calling := calling
        stack := .callbacks [rejection s id a errorCode errorMessage] :: s.stack }
  | accept {s : State} {id : UInt64} {a : CallArgs} {calling : List (UInt64 × CallArgs)}
      {conn : ConnId} (hcalling : s.calling = (id, a) :: calling)
      (hstatus : s.status_ = .kConnected) (hconn : s.connectedConn = some conn)
      (hlen : RpcRequest.OutputMessageLen a.service.length a.method.length a.payload.length ≤
        cfg.effectiveMaxMessageSize)
      (hmax : ∀ n ∈ cfg.maxPendingRequests_, s.pendingRequests_.keys.card < n) :
      Transition cfg proper network s
        (let timer := s.loop_.runAfterIfPos a.timeout (.onRequestTimeout id)
         let p := { newPending cfg a with timerId := timer.2 }
         { s with
          calling := calling
          pendingRequests_ := s.pendingRequests_.insert id p
          loop_ := timer.1
          outbox := s.outbox ++ [(conn, requestFrame id p)]
          trace := .requestSent conn id a (requestFrame id p) s.now :: s.trace })
  -- A pending request is completed.
  | lose {s : State} {id : UInt64} {p : PendingRequest} {cs cs' : List Completion}
      {rest : List Frame} {errorCode : RpcErrorCode} (errorMessage : Bytes)
      (hcode : errorCode ∈ lossCodes) (hstack : s.stack = .callbacks cs :: rest)
      (hp : s.pendingRequests_.lookup id = some p)
      (hcs : cs'.Perm (lostCompletion s.now errorCode errorMessage (id, p.callback) :: cs))
      (hgone : s.connectedConn = none ∨ s.status_ ≠ .kConnected) :
      Transition cfg proper network s { s with
        pendingRequests_ := s.pendingRequests_.erase id
        loop_ := s.loop_.cancelIfSet p.timerId
        stack := .callbacks cs' :: rest }
  | respond {s : State} {p : PendingRequest} {conn : ConnId} {response : RpcResponse}
      (hconn : s.tcpClient_.current = some conn)
      (hp : s.pendingRequests_.lookup response.requestId_ = some p)
      (hproper : proper → p.phase = .kWaitingResponse) (hnetwork : network) :
      Transition cfg proper network s { s with
        pendingRequests_ := s.pendingRequests_.erase response.requestId_
        loop_ := s.loop_.cancelIfSet p.timerId
        stack :=
          .callbacks [⟨response.requestId_, p.callback, response, .response, s.now⟩] :: s.stack
        trace := .received conn response :: s.trace }
  | cancel {s : State} {id : UInt64} {p : PendingRequest}
      (hp : s.pendingRequests_.lookup id = some p)
      (hproper : proper → p.phase = .kWaitingResponse) :
      Transition cfg proper network s { s with
        pendingRequests_ := s.pendingRequests_.erase id
        ignoredResponseRequests_ := s.ignoredResponseRequests_.insert id (s.now + oneMinute)
        loop_ := s.loop_.cancelIfSet p.timerId
        stack := .callbacks [⟨id, p.callback,
          failure id .REQUEST_CANCELED (text "rpc request canceled"), .canceled, s.now⟩] ::
            s.stack }
  | timeOut {s : State} {id : UInt64} {p : PendingRequest} {t : TimerId} {deadline : ℕ}
      (ht : s.loop_.timers.lookup t = some ⟨deadline, .onRequestTimeout id⟩)
      (hdue : deadline ≤ s.now) (hp : s.pendingRequests_.lookup id = some p)
      (hphase : p.phase = .kWaitingResponse) :
      Transition cfg proper network s { s with
        pendingRequests_ := s.pendingRequests_.erase id
        ignoredResponseRequests_ := s.ignoredResponseRequests_.insert id (s.now + oneMinute)
        loop_ := s.loop_.cancel t
        stack := .callbacks [⟨id, p.callback,
          failure id .REQUEST_TIMEOUT (text "rpc request timeout"), .requestTimeout, s.now⟩] ::
            s.stack }
  | exhaust {s : State} {id : UInt64} {p : PendingRequest} {t : TimerId} {deadline : ℕ}
      (ht : s.loop_.timers.lookup t = some ⟨deadline, .onReconnectTimeout id⟩)
      (hdue : deadline ≤ s.now) (hp : s.pendingRequests_.lookup id = some p)
      (hphase : p.phase = .kWaitingReconnect) (hlast : p.remainingResends - 1 = 0) :
      Transition cfg proper network s { s with
        pendingRequests_ := s.pendingRequests_.erase id
        loop_ := s.loop_.cancel t
        stack := .callbacks [⟨id, p.callback,
          failure id .RECONNECT_TIMEOUT (text "rpc reconnect timeout"), .reconnectTimeout,
            s.now⟩] :: s.stack
        trace := .waitExpired id s.now :: s.trace }
  | resendFailed {s : State} {conn : Option ConnId} {c : ConnId} {id : UInt64}
      {waiting : List UInt64} {rest : List Frame} {p : PendingRequest} (errorMessage : Bytes)
      (hstack : s.stack = .checkReconnect conn (id :: waiting) :: rest)
      (hc : canResend s conn = some c) (hp : s.pendingRequests_.lookup id = some p)
      (hphase : p.phase = .kWaitingReconnect) :
      Transition cfg proper network s { s with
        pendingRequests_ := s.pendingRequests_.erase id
        loop_ := s.loop_.cancelIfSet p.timerId
        stack := .callbacks [⟨id, p.callback, failure id .INTERNAL_ERROR errorMessage,
          .resendFailed, s.now⟩] :: .checkReconnect conn waiting :: rest }
  -- A pending request goes on.
  | startWait {s : State} {id : UInt64} {p : PendingRequest}
      (hconn : s.connectedConn = none) (hp : s.pendingRequests_.lookup id = some p)
      (hphase : p.phase = .kWaitingResponse) (hallow : p.allowReconnect = true)
      (hremaining : p.remainingResends ≠ 0) :
      Transition cfg proper network s { s with
        pendingRequests_ :=
          s.pendingRequests_.insert id (waitingEntry p s.loop_.nextTimerId)
        loop_ := (s.loop_.cancelIfSet p.timerId).runAfter p.reconnectTimeout
          (.onReconnectTimeout id) }
  | rearm {s : State} {id : UInt64} {p : PendingRequest} {t : TimerId} {deadline : ℕ}
      (ht : s.loop_.timers.lookup t = some ⟨deadline, .onReconnectTimeout id⟩)
      (hdue : deadline ≤ s.now) (hp : s.pendingRequests_.lookup id = some p)
      (hphase : p.phase = .kWaitingReconnect) (hmore : p.remainingResends - 1 ≠ 0) :
      Transition cfg proper network s { s with
        pendingRequests_ :=
          s.pendingRequests_.insert id (rearmedEntry p s.loop_.nextTimerId)
        loop_ := (s.loop_.cancel t).runAfter p.reconnectTimeout (.onReconnectTimeout id)
        trace := .waitExpired id s.now :: s.trace }
  | resend {s : State} {conn : Option ConnId} {c : ConnId} {id : UInt64}
      {waiting : List UInt64} {rest : List Frame} {p : PendingRequest}
      (hstack : s.stack = .checkReconnect conn (id :: waiting) :: rest)
      (hc : canResend s conn = some c) (hp : s.pendingRequests_.lookup id = some p)
      (hphase : p.phase = .kWaitingReconnect) (henc : (p.request id).Encodable) :
      Transition cfg proper network s
        (let timer := (s.loop_.cancelIfSet p.timerId).runAfterIfPos p.requestTimeout
          (.onRequestTimeout id)
         { s with
          pendingRequests_ := s.pendingRequests_.insert id (resentEntry p timer.2)
          loop_ := timer.1
          stack := .checkReconnect conn waiting :: rest
          outbox := s.outbox ++ [(c, requestFrame id p)]
          trace := .requestResent c id (requestFrame id p) s.now :: s.trace })
  /-- A timer fires for a request that is gone or in the other phase. -/
  | stray {s : State} {t : TimerId} {timer : Timer TimerTask}
      (ht : s.loop_.timers.lookup t = some timer)
      (hstray : match timer.task with
        | .onRequestTimeout id =>
          ∀ p, s.pendingRequests_.lookup id = some p → p.phase ≠ .kWaitingResponse
        | .onReconnectTimeout id =>
          ∀ p, s.pendingRequests_.lookup id = some p → p.phase ≠ .kWaitingReconnect) :
      Transition cfg proper network s { s with loop_ := s.loop_.cancel t }
  -- Responses to ignored and unknown requests.
  | respondIgnored {s : State} {conn : ConnId} {response : RpcResponse}
      (hconn : s.tcpClient_.current = some conn)
      (hp : response.requestId_ ∉ s.pendingRequests_)
      (hignored : response.requestId_ ∈ s.ignoredResponseRequests_) (hnetwork : network) :
      Transition cfg proper network s { s with
        ignoredResponseRequests_ := s.ignoredResponseRequests_.erase response.requestId_
        trace := .received conn response :: s.trace }
  | respondUnknown {s : State} {conn : ConnId} {response : RpcResponse}
      (hconn : s.tcpClient_.current = some conn)
      (hp : response.requestId_ ∉ s.pendingRequests_)
      (hignored : response.requestId_ ∉ s.ignoredResponseRequests_) (hnetwork : network) :
      Transition cfg proper network s { s with
        tcpClient_ := { s.tcpClient_ with closing := true }
        trace := .forceClosed conn :: .received conn response :: s.trace }
  | sweep {s : State} :
      Transition cfg proper network s { s with
        ignoredResponseRequests_ :=
          s.ignoredResponseRequests_.filter fun _ expiry => ! decide (expiry ≤ s.now)
        trace := .swept s.now :: s.trace }
  -- Connections.
  | up {s : State} (hstack : s.stack = []) (hcurrent : s.tcpClient_.current = none) :
      Transition cfg proper network s { s with
        tcpClient_ := ⟨some s.tcpClient_.nextConn, true, false, s.tcpClient_.nextConn + 1⟩
        conn_ := some s.tcpClient_.nextConn
        status_ := .kConnected
        manualDisconnection_ := false
        stack := [.onConnectionUp s.tcpClient_.nextConn] }
  | down {s : State} {conn : ConnId} {cs : List Completion} (hstack : s.stack = [.callbacks cs])
      (hcurrent : s.tcpClient_.current = some conn)
      (hphase : ∀ id p, s.pendingRequests_.lookup id = some p → p.phase = .kWaitingReconnect)
      (hmanual : s.manualDisconnection_ = true → s.pendingRequests_ = ∅) :
      Transition cfg proper network s { s with
        tcpClient_ := ⟨none, false, false, s.tcpClient_.nextConn⟩
        conn_ := none
        status_ := .kDisconnected
        stack := [.callbacks cs, .onConnectionDown conn] }
  | error {s : State} {cs : List Completion} (errorCode : ℤ) (hstack : s.stack = [.callbacks cs])
      (hcurrent : s.tcpClient_.current = none)
      (hphase : ∀ id p, s.pendingRequests_.lookup id = some p → p.phase = .kWaitingReconnect) :
      Transition cfg proper network s { s with
        conn_ := none
        status_ := .kDisconnected
        stack := [.callbacks cs, .onConnectionError errorCode] }
  | connect {s : State} (hstatus : s.status_ = .kDisconnected) :
      Transition cfg proper network s { s with status_ := .kConnecting }
  | beginDisconnect {s : State} (hstatus : s.status_ = .kConnected) :
      Transition cfg proper network s { s with
        tcpClient_ := { s.tcpClient_ with closing := true }
        status_ := .kDisconnecting
        manualDisconnection_ := true }
  | finishDisconnect {s : State} {status : Status} (hempty : s.pendingRequests_ = ∅)
      (hstatus : (status = s.status_ ∧ s.status_ ≠ .kConnected) ∨
        (s.status_ = .kConnecting ∧ status = .kDisconnected)) :
      Transition cfg proper network s { s with
        tcpClient_ := { s.tcpClient_ with closing := true }
        status_ := status
        manualDisconnection_ := true }
  | clearIgnored {s : State} {f : Frame} {rest : List Frame}
      (hf : (∃ conn, f = .onConnectionDown conn) ∨ ∃ errorCode, f = .onConnectionError errorCode)
      (hstack : s.stack = f :: rest) :
      Transition cfg proper network s { s with ignoredResponseRequests_ := ∅, stack := rest }
  -- The resend loop.
  | startCheck {s : State} {conn : ConnId} {order : List UInt64} {rest : List Frame}
      (hstack : s.stack = .onConnectionUp conn :: rest) (hconn : s.conn_ = some conn)
      (horder : IterationOrder order s.pendingRequests_) :
      Transition cfg proper network s { s with
        stack := .checkReconnect s.conn_ (waitingToResendRequest s order) :: rest }
  | skipCheck {s : State} {conn : ConnId} {rest : List Frame}
      (hstack : s.stack = .onConnectionUp conn :: rest) (hconn : s.conn_ ≠ some conn) :
      Transition cfg proper network s { s with stack := rest }
  | stopCheck {s : State} {conn : Option ConnId} {waiting : List UInt64} {rest : List Frame}
      (hstack : s.stack = .checkReconnect conn waiting :: rest)
      (hstop : waiting = [] ∨ canResend s conn = none) :
      Transition cfg proper network s { s with stack := rest }
  | skipResend {s : State} {conn : Option ConnId} {id : UInt64} {waiting : List UInt64}
      {rest : List Frame} (hstack : s.stack = .checkReconnect conn (id :: waiting) :: rest)
      (hphase : ∀ p, s.pendingRequests_.lookup id = some p → p.phase ≠ .kWaitingReconnect) :
      Transition cfg proper network s { s with stack := .checkReconnect conn waiting :: rest }

/-- Ids are drawn in order. -/
theorem Transition.next_le {cfg : Config} {proper network : Prop} {s s' : State}
    (h : Transition cfg proper network s s') : s.nextRequestId_ ≤ s'.nextRequestId_ := by
  cases h with
  | draw => exact Nat.le_succ _
  | _ => exact Nat.le_refl _

end MiniRpc.RpcClient
