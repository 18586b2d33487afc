import MiniRpc.RpcClient.Equiv.Loops

/-!
# Every step of the client is a sequence of transitions

One lemma for each operation, and `steps_step` for the step function of the machine.  `invariant`
is what the later files use: what holds initially and is kept by every transition holds in every
reachable state.
-/

namespace MiniRpc.RpcClient

variable {cfg : Config} {proper network : Prop} {s : State} {id : UInt64}

/-! ### Proper steps -/

/-- The response in a message that passes the checks of `onRpcMessage`. -/
def validResponse? (cfg : Config) (msg : Bytes) : Option RpcResponse :=
  if msg.length ≤ cfg.effectiveMaxMessageSize ∧ decodeHead msg = some .kResponse then
    match RpcResponse.empty.decode msg [] with
    | (true, response, []) => some response
    | _ => none
  else none

/-- The id the next task cancels. -/
def nextCancel : List LoopTask → Option UInt64
  | .cancelInLoop requestId :: _ => some requestId
  | _ => none

/-- If the request is pending, it waits for its response. -/
def WaitsForResponse (s : State) (id : UInt64) : Prop :=
  ∀ p ∈ s.pendingRequests_.lookup id, p.phase = .kWaitingResponse

instance (s : State) (id : UInt64) : Decidable (WaitsForResponse s id) :=
  inferInstanceAs (Decidable (∀ _ ∈ _, _))

/-- The steps that cancel or answer no request that waits for a reconnect. -/
def Proper (cfg : Config) (s : State) : Action → Prop
  | .runTask => ∀ id ∈ nextCancel s.loop_.tasks, WaitsForResponse s id
  | .cancel id => WaitsForResponse s id
  | .deliver msg => ∀ response ∈ validResponse? cfg msg, WaitsForResponse s response.requestId_
  | _ => True

instance (cfg : Config) (s : State) : (a : Action) → Decidable (Proper cfg s a)
  | .runTask => inferInstanceAs (Decidable (∀ _ ∈ nextCancel _, _))
  | .cancel _ => inferInstanceAs (Decidable (WaitsForResponse _ _))
  | .deliver _ => inferInstanceAs (Decidable (∀ _ ∈ validResponse? _ _, _))
  | .drawId _ | .queueCall _ | .queueCancel _ | .tick _ | .transmit _ | .loseConnection
  | .fireTimer _ | .sweep | .enterUser | .connectionUp | .connectionDown _ | .connectionError _ _
  | .resume _ | .call _ | .connect | .disconnect _ | .leaveUser => .isTrue trivial

/-! ### Calls and cancels -/

/-- The entry of an accepted call with its timer. -/
theorem send_armRequestTimer (s : State) (id : UInt64) (p : PendingRequest) (d : ℕ)
    (hp : p.timerId = none) (conn : ConnId) (frame : Bytes) (event : ℕ → Event) :
    let t := { s with pendingRequests_ := s.pendingRequests_.insert id p }.armRequestTimer id d
    t.send conn frame (event t.now) =
      (let timer := s.loop_.runAfterIfPos d (.onRequestTimeout id)
       { s with
        pendingRequests_ := s.pendingRequests_.insert id { p with timerId := timer.2 }
        loop_ := timer.1
        outbox := s.outbox ++ [(conn, frame)]
        trace := event s.now :: s.trace }) := by
  simp only [armRequestTimer_insert s id p d hp, State.send, State.now,
    EventLoop.now_runAfterIfPos]

theorem steps_callInLoop (cfg : Config) (s : State) (id : UInt64) (a : CallArgs) :
    Steps cfg proper network { s with calling := (id, a) :: s.calling }
      (callInLoop cfg s id a) := by
  have hreject : ∀ errorCode ∈ rejectionCodes, ∀ errorMessage,
      Steps cfg proper network { s with calling := (id, a) :: s.calling }
        (s.complete (rejection s id a errorCode errorMessage)) := fun _ hcode errorMessage =>
    .single (.reject errorMessage hcode rfl)
  unfold callInLoop
  split
  · exact hreject _ (by decide) _
  · rename_i conn hmatch
    split_ifs at hmatch with hstatus
    by_cases hlen : RpcRequest.OutputMessageLen a.service.length a.method.length
        a.payload.length > cfg.effectiveMaxMessageSize
    · rw [if_pos hlen]
      exact hreject _ (by decide) _
    by_cases hmax : (cfg.maxPendingRequests_.any fun n =>
        decide (s.pendingRequests_.keys.card ≥ n)) = true
    · rw [if_neg hlen, if_pos hmax]
      exact hreject _ (by decide) _
    have hencodable : (RpcRequest.mk id a.service a.method a.payload).Encodable :=
      RpcRequest.encodable_of_outputMessageLen
        ((not_lt.mp hlen).trans cfg.effectiveMaxMessageSize_le)
    have hroom : ∀ n ∈ cfg.maxPendingRequests_, s.pendingRequests_.keys.card < n := by
      intro n hn
      rw [Option.mem_def.mp hn, Option.any_some, decide_eq_true_eq] at hmax
      exact not_le.mp hmax
    rw [if_neg hlen, if_neg hmax]
    simp only [RpcRequest.encode_eq hencodable]
    rw [if_neg (by simp), send_armRequestTimer s id (newPending cfg a) a.timeout rfl conn _
      (.requestSent conn id a _)]
    exact .single (.accept rfl hstatus hmatch (not_lt.mp hlen) hroom)

theorem steps_call (cfg : Config) (s : State) (a : CallArgs) :
    Steps cfg proper network s (call cfg s a) :=
  .head (.draw a) (steps_callInLoop cfg (fetchRequestId s a).2 _ a)

/-- Sending a cancel and putting the callback on the stack commute. -/
theorem complete_sendCancel (s : State) (id : UInt64) (c : Completion) :
    (sendCancel s id).complete c = sendCancel (s.complete c) id := by
  have hconn : (s.complete c).connectedConn = s.connectedConn := rfl
  unfold sendCancel
  rw [hconn]
  cases s.connectedConn with
  | none => rfl
  | some conn => simp only [RpcCancel.encode_eq]; rfl

theorem now_sendCancel (s : State) (id : UInt64) : (sendCancel s id).now = s.now := by
  unfold sendCancel
  cases s.connectedConn with
  | none => rfl
  | some conn => simp only [RpcCancel.encode_eq]; rfl

theorem steps_sendCancel (hheld : ∃ c ∈ s.held, c.requestId = id ∧
    (c.cause = .requestTimeout ∨ c.cause = .canceled)) :
    Steps cfg proper network s (sendCancel s id) := by
  unfold sendCancel
  split
  · exact .refl
  · rename_i conn hconn
    simp only [RpcCancel.encode_eq]
    rw [if_neg (by simp)]
    exact .single (.sendCancel hconn hheld)

/-- Giving a request up: the callback is taken and a cancel is sent. -/
theorem steps_giveUp {c : Completion} (hc : c.requestId = id)
    (hcause : c.cause = .requestTimeout ∨ c.cause = .canceled) :
    Steps cfg proper network (s.complete c) ((sendCancel s id).complete c) := by
  rw [complete_sendCancel]
  exact steps_sendCancel ⟨c, List.mem_append_left _ (List.mem_singleton_self c), hc, hcause⟩

theorem steps_cancelInLoop (hproper : proper → WaitsForResponse s id) :
    Steps cfg proper network s (cancelInLoop s id) := by
  unfold cancelInLoop
  split
  · exact .refl
  · rename_i p hp
    simp only [now_sendCancel]
    refine .head ?_ (steps_giveUp rfl (.inr rfl))
    have hcancel : Transition cfg proper network s _ := .cancel hp fun h => hproper h p hp
    simp only [State.complete, State.push, ignoreResponse, State.erasePending, State.cancelTimer,
      State.now, EventLoop.now_cancelIfSet]
    exact hcancel

/-! ### Timers -/

theorem steps_runTimer {t : TimerId} {deadline : ℕ} {task : TimerTask}
    (ht : s.loop_.timers.lookup t = some ⟨deadline, task⟩) (hdue : deadline ≤ s.now) :
    Steps cfg proper network s (runTimer { s with loop_ := s.loop_.cancel t } task) := by
  cases task with
  | onRequestTimeout id =>
    simp only [runTimer, onRequestTimeout]
    split
    · rename_i hp
      refine .single (.stray ht fun p hp' => ?_)
      cases hp.symm.trans hp'
    · rename_i p hp
      split_ifs with hphase
      · refine .single (.stray ht fun q hq => ?_)
        obtain rfl : p = q := Option.some.inj (hp.symm.trans hq)
        exact hphase
      · simp only [now_sendCancel]
        refine .head ?_ (steps_giveUp rfl (.inl rfl))
        exact .timeOut ht hdue hp (not_not.mp hphase)
  | onReconnectTimeout id =>
    simp only [runTimer, onReconnectTimeout]
    split
    · rename_i hp
      refine .single (.stray ht fun p hp' => ?_)
      cases hp.symm.trans hp'
    · rename_i p hp
      split_ifs with hphase hlast
      · refine .single (.stray ht fun q hq => ?_)
        obtain rfl : p = q := Option.some.inj (hp.symm.trans hq)
        exact hphase
      · exact .single (.exhaust ht hdue hp (not_not.mp hphase) hlast)
      · refine .single ?_
        rw [armTimer_insert (State.emit { s with loop_ := s.loop_.cancel t }
          (.waitExpired id (State.now { s with loop_ := s.loop_.cancel t }))) id]
        exact .rearm ht hdue hp (not_not.mp hphase) hlast

/-! ### Responses -/

theorem steps_onResponse {conn : ConnId} {response : RpcResponse}
    (hconn : s.tcpClient_.current = some conn)
    (hproper : proper → WaitsForResponse s response.requestId_) (hnetwork : network) :
    Steps cfg proper network s (onResponse s conn response) := by
  unfold onResponse
  dsimp only
  split
  · rename_i hp
    have hnot : response.requestId_ ∉ s.pendingRequests_ := Finmap.lookup_eq_none.mp hp
    split_ifs with hignored
    · exact .single (.respondIgnored hconn hnot hignored hnetwork)
    · exact .single (.respondUnknown hconn hnot hignored hnetwork)
  · rename_i p hp
    refine .single ?_
    simp only [State.complete, State.push, State.erasePending, State.cancelTimer, State.now,
      EventLoop.now_cancelIfSet]
    exact .respond hconn hp (fun h => hproper h p hp) hnetwork

theorem decodeHead_nil : decodeHead [] = none := by decide

/-- A message is a valid response, or the client closes the connection. -/
theorem onRpcMessage_eq (cfg : Config) (s : State) (conn : ConnId) (msg : Bytes) :
    onRpcMessage cfg s conn msg =
      match validResponse? cfg msg with
      | some response => onResponse s conn response
      | none => forceClose s conn := by
  unfold onRpcMessage validResponse?
  by_cases hnil : msg = []
  · subst hnil
    rw [if_pos rfl, if_neg (by rw [decodeHead_nil]; simp)]
  · rw [if_neg hnil]
    by_cases hsize : msg.length ≤ cfg.effectiveMaxMessageSize
    · rw [if_neg (not_lt.mpr hsize)]
      by_cases hhead : decodeHead msg = some .kResponse
      · rw [if_neg (not_not.mpr hhead), if_pos ⟨hsize, hhead⟩]
        rcases RpcResponse.empty.decode msg [] with ⟨_ | _, response, _ | ⟨b, errorMsg⟩⟩ <;> simp
      · rw [if_pos hhead, if_neg fun hcond => hhead hcond.2]
    · rw [if_pos (not_le.mp hsize), if_neg fun hcond => hsize hcond.1]

theorem steps_onRpcMessage {conn : ConnId} {msg : Bytes}
    (hconn : s.tcpClient_.current = some conn)
    (hproper : proper → ∀ response ∈ validResponse? cfg msg,
      WaitsForResponse s response.requestId_) (hnetwork : network) :
    Steps cfg proper network s (onRpcMessage cfg s conn msg) := by
  rw [onRpcMessage_eq]
  cases hvalid : validResponse? cfg msg with
  | none => exact .single (.forceClose conn)
  | some response => exact steps_onResponse hconn (fun h => hproper h response hvalid) hnetwork

/-! ### Connecting and disconnecting -/

theorem closed_mem_lossCodes : .CONNECTION_CLOSED ∈ lossCodes := by decide

theorem unavailable_mem_lossCodes : .CONNECTION_UNAVAILABLE ∈ lossCodes := by decide

theorem steps_connect (s : State) : Steps cfg proper network s (connect s) := by
  unfold connect
  split_ifs with hstatus
  · exact .refl
  · exact .single (.connect (not_not.mp hstatus))

theorem steps_disconnect {order : List UInt64} (horder : IterationOrder order s.pendingRequests_) :
    Steps cfg proper network s (disconnect s order) := by
  have hfail : s.status_ ≠ .kConnected → Steps cfg proper network s (failAllPendingRequests s order
      .CONNECTION_CLOSED (text "connect closed")) := fun hstatus =>
    steps_failAllPendingRequests cfg proper network horder closed_mem_lossCodes _ (.inr hstatus)
  rw [failAllPendingRequests_eq] at hfail
  unfold disconnect
  cases hstatus : s.status_ with
  | kDisconnected =>
    simp only [failAllPendingRequests_eq]
    refine .tail (hfail (by simp [hstatus])) ?_
    exact .finishDisconnect rfl (.inl ⟨hstatus.symm, by simp [hstatus]⟩)
  | kDisconnecting =>
    simp only [failAllPendingRequests_eq]
    refine .tail (hfail (by simp [hstatus])) ?_
    exact .finishDisconnect rfl (.inl ⟨hstatus.symm, by simp [hstatus]⟩)
  | kConnected => exact .single (.beginDisconnect hstatus)
  | kConnecting =>
    simp only [failAllPendingRequests_eq]
    refine .tail (hfail (by simp [hstatus])) ?_
    exact .finishDisconnect rfl (.inr ⟨hstatus, rfl⟩)

theorem steps_runConnectionCallback (s : State) (conn : ConnId) (up : Bool) :
    Steps cfg proper network s (runConnectionCallback cfg s conn up) := by
  unfold runConnectionCallback
  split_ifs
  · exact .single (.connectionCallback conn up)
  · exact .refl

theorem steps_onConnectionUp (hstack : s.stack = []) (hcurrent : s.tcpClient_.current = none) :
    Steps cfg proper network s (onConnectionUp cfg
      { s with tcpClient_ := ⟨some s.tcpClient_.nextConn, true, false, s.tcpClient_.nextConn + 1⟩ }
      s.tcpClient_.nextConn) := by
  refine .head (.up hstack hcurrent) ?_
  unfold onConnectionUp
  simp only [State.push, hstack]
  exact steps_runConnectionCallback _ _ _

theorem steps_onConnectionDown {conn : ConnId} {order : List UInt64} (hstack : s.stack = [])
    (hcurrent : s.tcpClient_.current = some conn)
    (horder : IterationOrder order s.pendingRequests_) :
    Steps cfg proper network s (onConnectionDown
      { s with tcpClient_ := ⟨none, false, false, s.tcpClient_.nextConn⟩ } conn order) := by
  unfold onConnectionDown
  dsimp only
  -- The connection is gone before any request fails or starts to wait.
  let closed : State := { s with
    tcpClient_ := { s.tcpClient_ with connected := false, closing := true } }
  have hgone : closed.connectedConn = none := connectedConn_of_not_connected rfl
  split_ifs with hmanual
  · have hfail := steps_failAllPendingRequests cfg proper network (s := closed) horder
      closed_mem_lossCodes (text "connect closed") (.inl hgone)
    rw [failAllPendingRequests_eq] at hfail ⊢
    refine .head .loseConnection (.tail hfail ?_)
    simp only [closed, State.push, hstack]
    refine .down rfl hcurrent (fun id p hp => ?_) fun _ => rfl
    cases hp.symm.trans (Finmap.lookup_empty id)
  · have hloops := steps_reconnectLoops cfg proper network (s := closed) horder.1
      hgone closed_mem_lossCodes (text "connect closed")
    rw [failAllDisreconnectRequests_frame closed]
    · refine .head .loseConnection (.tail hloops ?_)
      simp only [closed, State.push, hstack]
      exact .down rfl hcurrent (phase_reconnectLoops horder) fun h => absurd h hmanual
    · rfl
    · rfl

theorem steps_onConnectionError {order : List UInt64} (hstack : s.stack = [])
    (hcurrent : s.tcpClient_.current = none)
    (horder : IterationOrder order s.pendingRequests_) (errorCode : ℤ) :
    Steps cfg proper network s (onConnectionError s errorCode order) := by
  have hloops := steps_reconnectLoops cfg proper network horder.1
    (connectedConn_of_current_none hcurrent) unavailable_mem_lossCodes (text "connection error")
  unfold onConnectionError
  dsimp only
  rw [failAllDisreconnectRequests_frame s]
  · refine .tail hloops ?_
    simp only [State.push, hstack]
    exact .error errorCode rfl hcurrent (phase_reconnectLoops horder)
  · rfl
  · rfl

/-! ### The resend loop -/

theorem steps_resend {conn : Option ConnId} {c : ConnId} {waiting : List UInt64}
    {rest : List Frame} (hstack : s.stack = .checkReconnect conn (id :: waiting) :: rest)
    (hc : canResend s conn = some c) :
    Steps cfg proper network s
      (resend { s with stack := .checkReconnect conn waiting :: rest } c id) := by
  refine .single ?_
  unfold resend
  split
  · rename_i hp
    refine .skipResend hstack fun p hp' => ?_
    cases hp.symm.trans hp'
  · rename_i p hp
    split_ifs with hphase
    · refine .skipResend hstack fun q hq => ?_
      obtain rfl : p = q := Option.some.inj (hp.symm.trans hq)
      exact hphase
    · have hphase := not_not.mp hphase
      by_cases hencodable : (p.request id).Encodable
      · have hencode := RpcRequest.encode_eq hencodable [] []
        simp only [PendingRequest.request] at hencode ⊢
        simp only [hencode]
        rw [if_neg (by simp), send_armRequestTimer _ id _ p.requestTimeout rfl c _
          (.requestResent c id _)]
        have hresend : Transition cfg proper network s _ := .resend hstack hc hp hphase hencodable
        have hnow : State.now (State.cancelTimer
            { s with stack := .checkReconnect conn waiting :: rest } p.timerId) = s.now :=
          EventLoop.now_cancelIfSet _ _
        rw [hnow]
        exact hresend
      · have hencode := RpcRequest.encode_of_not_encodable hencodable [] []
        simp only [PendingRequest.request] at hencode ⊢
        simp only [hencode]
        rw [if_pos (.inl trivial)]
        simp only [State.complete, State.push, State.erasePending, State.cancelTimer, State.now,
          EventLoop.now_cancelIfSet, Finmap.erase_insert]
        exact .resendFailed _ hstack hc hp hphase

theorem steps_resumed {order : List UInt64} {f : Frame} {rest : List Frame}
    {s' : State} (hstack : s.stack = f :: rest)
    (h : Resumed cfg { s with stack := rest } order f s') : Steps cfg proper network s s' := by
  cases h with
  | callbacksDone => exact .single (.closeCallbacks hstack)
  | callback => exact .single (.invoke hstack)
  | startCheck hconn horder => exact .single (.startCheck hstack hconn.symm horder)
  | skipCheck hconn => exact .single (.skipCheck hstack fun heq => hconn heq.symm)
  | checkDone => exact .single (.stopCheck hstack (.inl rfl))
  | stopCheck hstop => exact .single (.stopCheck hstack (.inr hstop))
  | resend hc => exact steps_resend hstack hc
  | @onConnectionDown conn =>
    refine .head (.clearIgnored (.inl ⟨conn, rfl⟩) hstack) ?_
    exact steps_runConnectionCallback _ _ _
  | @errorCallback errorCode =>
    refine .head (.clearIgnored (.inr ⟨errorCode, rfl⟩) hstack) ?_
    exact .single (.connectionErrorCallback errorCode)
  | @noErrorCallback errorCode =>
    exact .single (.clearIgnored (.inr ⟨errorCode, rfl⟩) hstack)

/-! ### The machine -/

theorem steps_runTask {task : LoopTask} {tasks : List LoopTask}
    (htasks : s.loop_.tasks = task :: tasks)
    (hproper : proper → ∀ id, task = .cancelInLoop id → WaitsForResponse s id) :
    Steps cfg proper network s (runTask cfg { s with loop_ := s.loop_.setTasks tasks } task) := by
  cases task with
  | callInLoop id a =>
    exact .head (.dequeue htasks)
      (steps_callInLoop cfg { s with loop_ := s.loop_.setTasks tasks } id a)
  | cancelInLoop id =>
    exact .head (.dequeueCancel htasks) (steps_cancelInLoop fun h => hproper h id rfl)

theorem steps_queueCall {k : ℕ} {id : UInt64} {a : CallArgs}
    (hk : s.calling[k]? = some (id, a)) : Steps cfg proper network s { s with
      calling := s.calling.eraseIdx k
      loop_ := s.loop_.queueInLoop (.callInLoop id a) } := by
  obtain ⟨hlt, hget⟩ := List.getElem?_eq_some_iff.mp hk
  have hperm := (List.getElem_cons_eraseIdx_perm hlt).symm
  rw [hget] at hperm
  exact .single (.enqueue hperm)

theorem steps_step {a : Action} {s' : State} (hproper : proper → Proper cfg s a)
    (hnetwork : a.isNetwork = true → network)
    (h : step cfg s a = some s') : Steps cfg proper network s s' := by
  cases stepped_of_step h with
  | @drawId a => exact .single (.draw a)
  | queueCall hk => exact steps_queueCall hk
  | @queueCancel id => exact .single (.queueCancel id)
  | @tick d => exact .single (.tick d)
  | @transmit conn => exact .single (.transmit conn (hnetwork rfl))
  | loseConnection => exact .single .loseConnection
  | resume hstack hresumed => exact steps_resumed hstack hresumed
  | runTask _ htasks =>
    refine steps_runTask htasks fun h id htask => hproper h id ?_
    rw [htasks, htask]
    rfl
  | fireTimer _ hfire =>
    obtain ⟨deadline, ht, hdue, rfl⟩ := EventLoop.fire_eq_some hfire
    exact steps_runTimer ht hdue
  | sweep => exact .single .sweep
  | enterUser => exact .single .enterUser
  | connectionUp hstack hcurrent => exact steps_onConnectionUp hstack hcurrent
  | connectionDown hstack hcurrent horder => exact steps_onConnectionDown hstack hcurrent horder
  | @connectionError errorCode _ hstack hcurrent horder =>
    exact steps_onConnectionError hstack hcurrent horder errorCode
  | deliver _ hcurrent => exact steps_onRpcMessage hcurrent hproper (hnetwork rfl)
  | @call a => exact steps_call cfg s a
  | cancel => exact steps_cancelInLoop hproper
  | connect => exact steps_connect s
  | disconnect _ horder => exact steps_disconnect horder
  | leaveUser hstack => exact .single (.leaveUser hstack)

/-- **Invariant rule of the client.** What holds initially and is kept by every transition holds in
every reachable state. -/
theorem invariant {P : State → Prop} (h0 : P .init)
    (hP : ∀ s s', P s → Transition cfg False True s s' → P s')
    (h : (machine cfg).Reachable s) : P s :=
  h.chain h0 (fun _ _ _ hs => steps_step False.elim (fun _ => trivial) hs) hP

/-- The invariant rule for the states in which fewer than `2 ^ 64` ids have been drawn. -/
theorem invariant_of_bound {P : State → Prop} (h0 : P .init)
    (hP : ∀ s s', P s → s'.nextRequestId_ ≤ 2 ^ 64 → Transition cfg False True s s' → P s')
    (h : (machine cfg).Reachable s) (hbound : s.nextRequestId_ ≤ 2 ^ 64) : P s :=
  invariant (P := fun s => s.nextRequestId_ ≤ 2 ^ 64 → P s) (fun _ => h0)
    (fun s s' hold ht hle => hP s s' (hold (ht.next_le.trans hle)) hle ht) h hbound

/-- The invariant rule for the runs all of whose steps are proper, up to the same bound. -/
theorem invariant_of_proper_of_bound {P : State → Prop} (h0 : P .init)
    (hP : ∀ s s', P s → s'.nextRequestId_ ≤ 2 ^ 64 → Transition cfg True True s s' → P s')
    (h : (machine cfg).ReachableBy (Proper cfg) s) (hbound : s.nextRequestId_ ≤ 2 ^ 64) : P s := by
  refine h.invariant (P := fun s => s.nextRequestId_ ≤ 2 ^ 64 → P s) (fun _ => h0) ?_ hbound
  intro s a s' _ hproper hold hs
  have hsteps : Steps cfg True True s s' := steps_step (fun _ => hproper) (fun _ => trivial) hs
  exact Machine.preserved_of_chain (P := fun s => s.nextRequestId_ ≤ 2 ^ 64 → P s)
    (fun t t' ht htt hle => hP t t' (ht (htt.next_le.trans hle)) hle htt) hsteps hold

end MiniRpc.RpcClient
