import MiniRpc.Machine.Basic
import MiniRpc.RpcClient.Operations

/-!
# The client as a machine

One step of `machine cfg` is one operation of `RpcClient` up to the next user callback, the
continuation of an operation after a callback has returned, an operation that user code calls, or
something that happens outside: another thread in `call` or `cancel`, the passing of time, the
network.  The loop takes its next event (a queued task, a due timer, a connection event, a message)
when no operation is in progress.  TCP connections come up and go down one after the other, and
errors are reported while none is up.

`Stepped` lists what each action does and when it is possible (`stepped_of_step`), `Resumed` the
same for an operation that goes on.
-/

namespace MiniRpc.RpcClient

inductive Action
  /-- Another thread enters `call` and draws an id. -/
  | drawId (a : CallArgs)
  /-- The `k`-th call of the other threads queues its task and returns. -/
  | queueCall (k : ℕ)
  /-- Another thread calls `cancel`. -/
  | queueCancel (requestId : UInt64)
  /-- Time passes. -/
  | tick (d : ℕ)
  /-- The network takes the oldest frame sent on the connection. -/
  | transmit (conn : ConnId)
  /-- The connection begins to close; the close is reported later. -/
  | loseConnection
  /-- The loop runs the oldest queued task. -/
  | runTask
  /-- The loop runs a due timer. -/
  | fireTimer (t : TimerId)
  /-- The loop runs the periodic sweep. -/
  | sweep
  /-- The loop runs code of the user. -/
  | enterUser
  /-- TCP reports that a connection is up. -/
  | connectionUp
  /-- TCP reports that the connection is down. -/
  | connectionDown (order : List UInt64)
  /-- TCP reports that connecting failed. -/
  | connectionError (errorCode : ℤ) (order : List UInt64)
  /-- A message arrives on the connection. -/
  | deliver (msg : Bytes)
  /-- The innermost operation goes on. -/
  | resume (order : List UInt64)
  /-- User code calls `call`. -/
  | call (a : CallArgs)
  /-- User code calls `cancel`. -/
  | cancel (requestId : UInt64)
  /-- User code calls `connect`. -/
  | connect
  /-- User code calls `disconnect`. -/
  | disconnect (order : List UInt64)
  /-- User code returns. -/
  | leaveUser
  deriving DecidableEq, Repr

/-- The actions by which the network takes a frame or brings one. -/
def Action.isNetwork : Action → Bool
  | .transmit _ | .deliver _ => true
  | _ => false

/-- The loop runs a queued task. -/
def runTask (cfg : Config) (s : State) : LoopTask → State
  | .callInLoop requestId a => callInLoop cfg s requestId a
  | .cancelInLoop requestId => cancelInLoop s requestId

/-- What the loop does when no operation is in progress. -/
def stepIdle (cfg : Config) (s : State) : Action → Option State
  | .runTask =>
    match s.loop_.tasks with
    | [] => none
    | task :: tasks => some (runTask cfg { s with loop_ := s.loop_.setTasks tasks } task)
  | .fireTimer t =>
    match s.loop_.fire t with
    | none => none
    | some (task, loop) => some (runTimer { s with loop_ := loop } task)
  | .sweep => some (clearExpiredIgnoredResponseRequests s)
  | .enterUser => some (s.push .userCode)
  | .connectionUp =>
    match s.tcpClient_.current with
    | some _ => none
    | none =>
      let conn := s.tcpClient_.nextConn
      let s := { s with tcpClient_ := ⟨some conn, true, false, conn + 1⟩ }
      some (onConnectionUp cfg s conn)
  | .connectionDown order =>
    match s.tcpClient_.current with
    | none => none
    | some conn =>
      if IterationOrder order s.pendingRequests_ then
        let s := { s with tcpClient_ := ⟨none, false, false, s.tcpClient_.nextConn⟩ }
        some (onConnectionDown s conn order)
      else none
  | .connectionError errorCode order =>
    if s.tcpClient_.current = none ∧ IterationOrder order s.pendingRequests_ then
      some (onConnectionError s errorCode order)
    else none
  | .deliver msg =>
    match s.tcpClient_.current with
    | none => none
    | some conn => some (onRpcMessage cfg s conn msg)
  | _ => none

/-- An operation that user code calls, or its return; `rest` is the stack below the user code. -/
def stepUser (cfg : Config) (s : State) (rest : List Frame) : Action → Option State
  | .call a => some (call cfg s a)
  | .cancel requestId => some (cancelInLoop s requestId)
  | .connect => some (connect s)
  | .disconnect order =>
    if IterationOrder order s.pendingRequests_ then some (disconnect s order) else none
  | .leaveUser => some { s with stack := rest }
  | _ => none

/-- The operation whose rest is `f` goes on; `s` has the stack below `f`. -/
def resume (cfg : Config) (s : State) (order : List UInt64) : Frame → Option State
  | .callbacks [] => some s
  | .callbacks (c :: cs) => some ((s.push (.callbacks cs)).emit (.invoked c) |>.push .userCode)
  | .userCode => none
  | .onConnectionUp conn =>
    if some conn = s.conn_ then
      if IterationOrder order s.pendingRequests_ then
        some (s.push (.checkReconnect s.conn_ (waitingToResendRequest s order)))
      else none
    else some s
  | .checkReconnect _ [] => some s
  | .checkReconnect conn (requestId :: waiting) =>
    match canResend s conn with
    | none => some s
    | some c => some (resend (s.push (.checkReconnect conn waiting)) c requestId)
  | .onConnectionDown conn =>
    some (runConnectionCallback cfg (clearIgnoredResponseRequests s) conn false)
  | .onConnectionError errorCode =>
    let s := clearIgnoredResponseRequests s
    if cfg.connectionErrorCallback_ then
      some ((s.emit (.connectionErrorCallback errorCode)).push .userCode)
    else some s

/-- What happens outside the loop, at any time. -/
def stepOutside (s : State) : Action → Option State
  | .drawId a =>
    let (requestId, s) := fetchRequestId s a
    some { s with calling := (requestId, a) :: s.calling }
  | .queueCall k =>
    match s.calling[k]? with
    | none => none
    | some (requestId, a) =>
      some { s with
        calling := s.calling.eraseIdx k
        loop_ := s.loop_.queueInLoop (.callInLoop requestId a) }
  | .queueCancel requestId =>
    some { s with loop_ := s.loop_.queueInLoop (.cancelInLoop requestId) }
  | .tick d => some { s with loop_ := s.loop_.tick d }
  | .transmit conn => some { s with outbox := s.outbox.dropFirst conn }
  | .loseConnection =>
    some { s with tcpClient_ := { s.tcpClient_ with connected := false, closing := true } }
  | _ => none

def step (cfg : Config) (s : State) (action : Action) : Option State :=
  match action with
  | .drawId _ | .queueCall _ | .queueCancel _ | .tick _ | .transmit _ | .loseConnection =>
    stepOutside s action
  | .resume order =>
    match s.stack with
    | [] => none
    | f :: rest => resume cfg { s with stack := rest } order f
  | _ =>
    match s.stack with
    | [] => stepIdle cfg s action
    | .userCode :: rest => stepUser cfg s rest action
    | _ => none

/-- The client as a machine. -/
def machine (cfg : Config) : Machine State Action := ⟨.init, step cfg⟩

/-! ### What a step does -/

/-- What the operation whose rest is a frame does when it goes on, and when it can; `s` has the
stack below the frame. -/
inductive Resumed (cfg : Config) (s : State) (order : List UInt64) : Frame → State → Prop
  | callbacksDone : Resumed cfg s order (.callbacks []) s
  | callback {c : Completion} {cs : List Completion} : Resumed cfg s order (.callbacks (c :: cs))
      (((s.push (.callbacks cs)).emit (.invoked c)).push .userCode)
  | startCheck {conn : ConnId} (hconn : some conn = s.conn_)
      (horder : IterationOrder order s.pendingRequests_) :
      Resumed cfg s order (.onConnectionUp conn)
        (s.push (.checkReconnect s.conn_ (waitingToResendRequest s order)))
  | skipCheck {conn : ConnId} (hconn : some conn ≠ s.conn_) :
      Resumed cfg s order (.onConnectionUp conn) s
  | checkDone {conn : Option ConnId} : Resumed cfg s order (.checkReconnect conn []) s
  | stopCheck {conn : Option ConnId} {requestId : UInt64} {waiting : List UInt64}
      (hstop : canResend s conn = none) :
      Resumed cfg s order (.checkReconnect conn (requestId :: waiting)) s
  | resend {conn : Option ConnId} {c : ConnId} {requestId : UInt64} {waiting : List UInt64}
      (hc : canResend s conn = some c) :
      Resumed cfg s order (.checkReconnect conn (requestId :: waiting))
        (resend (s.push (.checkReconnect conn waiting)) c requestId)
  | onConnectionDown {conn : ConnId} : Resumed cfg s order (.onConnectionDown conn)
      (runConnectionCallback cfg (clearIgnoredResponseRequests s) conn false)
  | errorCallback {errorCode : ℤ} (hcallback : cfg.connectionErrorCallback_ = true) :
      Resumed cfg s order (.onConnectionError errorCode)
        (((clearIgnoredResponseRequests s).emit (.connectionErrorCallback errorCode)).push
          .userCode)
  | noErrorCallback {errorCode : ℤ} (hcallback : ¬ cfg.connectionErrorCallback_ = true) :
      Resumed cfg s order (.onConnectionError errorCode) (clearIgnoredResponseRequests s)

/-- What an action does to the client, and when it is possible. -/
inductive Stepped (cfg : Config) (s : State) : Action → State → Prop
  -- Outside the loop, at any time.
  | drawId {a : CallArgs} : Stepped cfg s (.drawId a) { (fetchRequestId s a).2 with
      calling := ((fetchRequestId s a).1, a) :: s.calling }
  | queueCall {k : ℕ} {requestId : UInt64} {a : CallArgs}
      (hk : s.calling[k]? = some (requestId, a)) : Stepped cfg s (.queueCall k) { s with
        calling := s.calling.eraseIdx k
        loop_ := s.loop_.queueInLoop (.callInLoop requestId a) }
  | queueCancel {requestId : UInt64} : Stepped cfg s (.queueCancel requestId)
      { s with loop_ := s.loop_.queueInLoop (.cancelInLoop requestId) }
  | tick {d : ℕ} : Stepped cfg s (.tick d) { s with loop_ := s.loop_.tick d }
  | transmit {conn : ConnId} :
      Stepped cfg s (.transmit conn) { s with outbox := s.outbox.dropFirst conn }
  | loseConnection : Stepped cfg s .loseConnection
      { s with tcpClient_ := { s.tcpClient_ with connected := false, closing := true } }
  -- The operation in progress.
  | resume {order : List UInt64} {f : Frame} {rest : List Frame} {s' : State}
      (hstack : s.stack = f :: rest) (h : Resumed cfg { s with stack := rest } order f s') :
      Stepped cfg s (.resume order) s'
  -- The loop, when no operation is in progress.
  | runTask {task : LoopTask} {tasks : List LoopTask} (hstack : s.stack = [])
      (htasks : s.loop_.tasks = task :: tasks) :
      Stepped cfg s .runTask (runTask cfg { s with loop_ := s.loop_.setTasks tasks } task)
  | fireTimer {t : TimerId} {task : TimerTask} {loop : EventLoop TimerTask LoopTask}
      (hstack : s.stack = []) (hfire : s.loop_.fire t = some (task, loop)) :
      Stepped cfg s (.fireTimer t) (runTimer { s with loop_ := loop } task)
  | sweep (hstack : s.stack = []) : Stepped cfg s .sweep (clearExpiredIgnoredResponseRequests s)
  | enterUser (hstack : s.stack = []) : Stepped cfg s .enterUser (s.push .userCode)
  | connectionUp (hstack : s.stack = []) (hcurrent : s.tcpClient_.current = none) :
      Stepped cfg s .connectionUp (onConnectionUp cfg { s with
        tcpClient_ := ⟨some s.tcpClient_.nextConn, true, false, s.tcpClient_.nextConn + 1⟩ }
        s.tcpClient_.nextConn)
  | connectionDown {conn : ConnId} {order : List UInt64} (hstack : s.stack = [])
      (hcurrent : s.tcpClient_.current = some conn)
      (horder : IterationOrder order s.pendingRequests_) :
      Stepped cfg s (.connectionDown order) (onConnectionDown
        { s with tcpClient_ := ⟨none, false, false, s.tcpClient_.nextConn⟩ } conn order)
  | connectionError {errorCode : ℤ} {order : List UInt64} (hstack : s.stack = [])
      (hcurrent : s.tcpClient_.current = none)
      (horder : IterationOrder order s.pendingRequests_) :
      Stepped cfg s (.connectionError errorCode order) (onConnectionError s errorCode order)
  | deliver {conn : ConnId} {msg : Bytes} (hstack : s.stack = [])
      (hcurrent : s.tcpClient_.current = some conn) :
      Stepped cfg s (.deliver msg) (onRpcMessage cfg s conn msg)
  -- User code.
  | call {a : CallArgs} {rest : List Frame} (hstack : s.stack = .userCode :: rest) :
      Stepped cfg s (.call a) (call cfg s a)
  | cancel {requestId : UInt64} {rest : List Frame} (hstack : s.stack = .userCode :: rest) :
      Stepped cfg s (.cancel requestId) (cancelInLoop s requestId)
  | connect {rest : List Frame} (hstack : s.stack = .userCode :: rest) :
      Stepped cfg s .connect (connect s)
  | disconnect {order : List UInt64} {rest : List Frame} (hstack : s.stack = .userCode :: rest)
      (horder : IterationOrder order s.pendingRequests_) :
      Stepped cfg s (.disconnect order) (disconnect s order)
  | leaveUser {rest : List Frame} (hstack : s.stack = .userCode :: rest) :
      Stepped cfg s .leaveUser { s with stack := rest }

section Inversion

variable {cfg : Config} {s s' : State}

theorem resumed_of_resume {order : List UInt64} {f : Frame} (h : resume cfg s order f = some s') :
    Resumed cfg s order f s' := by
  cases f with
  | callbacks cs =>
    cases cs with
    | nil =>
      obtain rfl := Option.some.inj h
      exact .callbacksDone
    | cons c cs =>
      obtain rfl := Option.some.inj h
      exact .callback
  | userCode => cases h
  | onConnectionUp conn =>
    unfold resume at h
    dsimp only at h
    split_ifs at h with hconn horder
    · obtain rfl := Option.some.inj h
      exact .startCheck hconn horder
    · obtain rfl := Option.some.inj h
      exact .skipCheck hconn
  | checkReconnect conn waiting =>
    cases waiting with
    | nil =>
      obtain rfl := Option.some.inj h
      exact .checkDone
    | cons requestId waiting =>
      unfold resume at h
      dsimp only at h
      split at h
      · rename_i hstop
        obtain rfl := Option.some.inj h
        exact .stopCheck hstop
      · rename_i c hc
        obtain rfl := Option.some.inj h
        exact .resend hc
  | onConnectionDown conn =>
    obtain rfl := Option.some.inj h
    exact .onConnectionDown
  | onConnectionError errorCode =>
    unfold resume at h
    dsimp only at h
    split_ifs at h with hcallback
    · obtain rfl := Option.some.inj h
      exact .errorCallback hcallback
    · obtain rfl := Option.some.inj h
      exact .noErrorCallback hcallback

theorem stepped_of_stepIdle {a : Action} (hstack : s.stack = []) (h : stepIdle cfg s a = some s') :
    Stepped cfg s a s' := by
  cases a with
  | runTask =>
    unfold stepIdle at h
    dsimp only at h
    split at h
    · cases h
    · rename_i task tasks htasks
      obtain rfl := Option.some.inj h
      exact .runTask hstack htasks
  | fireTimer t =>
    unfold stepIdle at h
    dsimp only at h
    split at h
    · cases h
    · rename_i task loop hfire
      obtain rfl := Option.some.inj h
      exact .fireTimer hstack hfire
  | sweep =>
    obtain rfl := Option.some.inj h
    exact .sweep hstack
  | enterUser =>
    obtain rfl := Option.some.inj h
    exact .enterUser hstack
  | connectionUp =>
    unfold stepIdle at h
    dsimp only at h
    split at h
    · cases h
    · rename_i hcurrent
      obtain rfl := Option.some.inj h
      exact .connectionUp hstack hcurrent
  | connectionDown order =>
    unfold stepIdle at h
    dsimp only at h
    split at h
    · cases h
    · rename_i conn hcurrent
      obtain ⟨horder, heq⟩ := Option.ite_none_right_eq_some.mp h
      obtain rfl := Option.some.inj heq
      exact .connectionDown hstack hcurrent horder
  | connectionError errorCode order =>
    obtain ⟨hcond, heq⟩ := Option.ite_none_right_eq_some.mp h
    obtain rfl := Option.some.inj heq
    exact .connectionError hstack hcond.1 hcond.2
  | deliver msg =>
    unfold stepIdle at h
    dsimp only at h
    split at h
    · cases h
    · rename_i conn hcurrent
      obtain rfl := Option.some.inj h
      exact .deliver hstack hcurrent
  | _ => cases h

theorem stepped_of_stepUser {a : Action} {rest : List Frame} (hstack : s.stack = .userCode :: rest)
    (h : stepUser cfg s rest a = some s') : Stepped cfg s a s' := by
  cases a with
  | call a =>
    obtain rfl := Option.some.inj h
    exact .call hstack
  | cancel requestId =>
    obtain rfl := Option.some.inj h
    exact .cancel hstack
  | connect =>
    obtain rfl := Option.some.inj h
    exact .connect hstack
  | disconnect order =>
    obtain ⟨horder, heq⟩ := Option.ite_none_right_eq_some.mp h
    obtain rfl := Option.some.inj heq
    exact .disconnect hstack horder
  | leaveUser =>
    obtain rfl := Option.some.inj h
    exact .leaveUser hstack
  | _ => cases h

theorem stepped_of_stepOutside {a : Action} (h : stepOutside s a = some s') :
    Stepped cfg s a s' := by
  cases a with
  | drawId a =>
    obtain rfl := Option.some.inj h
    exact .drawId
  | queueCall k =>
    unfold stepOutside at h
    dsimp only at h
    split at h
    · cases h
    · rename_i requestId a hk
      obtain rfl := Option.some.inj h
      exact .queueCall hk
  | queueCancel requestId =>
    obtain rfl := Option.some.inj h
    exact .queueCancel
  | tick d =>
    obtain rfl := Option.some.inj h
    exact .tick
  | transmit conn =>
    obtain rfl := Option.some.inj h
    exact .transmit
  | loseConnection =>
    obtain rfl := Option.some.inj h
    exact .loseConnection
  | _ => cases h

/-- **What a step does**: the invariants are proved from this, without `step`. -/
theorem stepped_of_step {a : Action} (h : step cfg s a = some s') : Stepped cfg s a s' := by
  -- the actions of the loop thread, other than `resume`, are told apart by the stack only
  have hdispatch : (match s.stack with
        | [] => stepIdle cfg s a
        | .userCode :: rest => stepUser cfg s rest a
        | _ => none) = some s' → Stepped cfg s a s' := by
    intro hmatch
    split at hmatch
    · exact stepped_of_stepIdle ‹_› hmatch
    · exact stepped_of_stepUser ‹_› hmatch
    · cases hmatch
  unfold step at h
  cases a with
  | drawId | queueCall | queueCancel | tick | transmit | loseConnection =>
    exact stepped_of_stepOutside h
  | resume order =>
    dsimp only at h
    split at h
    · cases h
    · exact .resume ‹_› (resumed_of_resume h)
  | _ => exact hdispatch h

end Inversion

end MiniRpc.RpcClient
