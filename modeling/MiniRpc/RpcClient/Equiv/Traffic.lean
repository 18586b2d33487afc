import MiniRpc.RpcClient.Equiv.Sent

/-!
# The frames of a client

* `Outgoing`: the frames in the outbox are requests of calls and cancels.
* `RequestsCarryCalls`: a request that is sent again is the same request.
* `SuccessesReceived`: a success that a callback gets was received.
* `Quiet`: without the network, what the client puts into its outbox is what it records as sent, and
  nothing arrives.
* `Delivery`: what the arrival of a frame does.
-/

namespace MiniRpc.RpcClient

variable {cfg : Config} {proper network : Prop} {s s' s'' : State} {id : UInt64} {conn : ConnId}
  {msg : Bytes}

/-- The request of a call. -/
def callRequest (id : UInt64) (a : CallArgs) : RpcRequest := ⟨id, a.service, a.method, a.payload⟩

/-! ### The frames in the outbox -/

/-- The frame carries the request of one of the calls. -/
def IsCallFrame (calls : List (UInt64 × CallArgs)) (frame : Bytes) : Prop :=
  ∃ id a, (id, a) ∈ calls ∧ (callRequest id a).Encodable ∧
    frame = (callRequest id a).fields.flatten

theorem IsCallFrame.mono {calls calls' : List (UInt64 × CallArgs)} {frame : Bytes}
    (hcalls : calls ⊆ calls') (h : IsCallFrame calls frame) : IsCallFrame calls' frame := by
  obtain ⟨id, a, hcall, hframe⟩ := h
  exact ⟨id, a, hcalls hcall, hframe⟩

/-- A pending request is that of its call, and the outbox holds requests of calls and cancels. -/
structure Outgoing (s : State) : Prop where
  pending : ∀ id p, s.pendingRequests_.lookup id = some p →
    ∃ a, (id, a) ∈ s.calls ∧ p.request id = callRequest id a
  outbox : ∀ c frame, (c, frame) ∈ s.outbox →
    IsCallFrame s.calls frame ∨ ∃ id, frame = cancelFrame id

theorem outgoing_init : Outgoing .init where
  pending id _ h := by cases (Finmap.lookup_empty id).symm.trans h
  outbox _ _ h := by cases h

theorem Outgoing.pending_step (h : Outgoing s) (hprov : Provenance s)
    (ht : Transition cfg proper network s s') (id : UInt64) (p : PendingRequest)
    (hp : s'.pendingRequests_.lookup id = some p) :
    ∃ a, (id, a) ∈ s'.calls ∧ p.request id = callRequest id a := by
  have hold : ∀ {p}, s.pendingRequests_.lookup id = some p →
      ∃ a, (id, a) ∈ s'.calls ∧ p.request id = callRequest id a := fun hp => by
    obtain ⟨a, hcall, hrequest⟩ := h.pending id _ hp
    exact ⟨a, ht.calls_subset hcall, hrequest⟩
  cases ht with
  | accept hcalling =>
    rcases Finmap.lookup_insert_eq_some.mp hp with ⟨rfl, rfl⟩ | ⟨_, hp⟩
    · exact ⟨_, hprov.calling _ (hcalling ▸ List.mem_cons_self), rfl⟩
    · exact hold hp
  | startWait _ hq | rearm _ _ hq | resend _ _ hq =>
    rcases Finmap.lookup_insert_eq_some.mp hp with ⟨rfl, rfl⟩ | ⟨_, hp⟩
    · have hentry := hold hq
      exact hentry
    · exact hold hp
  | lose | respond | cancel | timeOut | exhaust | resendFailed =>
    exact hold (Finmap.lookup_erase_eq_some.mp hp).2
  | _ => exact hold hp

theorem Outgoing.step (h : Outgoing s) (hprov : Provenance s)
    (ht : Transition cfg proper network s s') : Outgoing s' := by
  refine ⟨h.pending_step hprov ht, fun c frame hmem => ?_⟩
  have hold : (c, frame) ∈ s.outbox → IsCallFrame s'.calls frame ∨ ∃ id, frame = cancelFrame id :=
    fun hmem => (h.outbox c frame hmem).imp_left (·.mono ht.calls_subset)
  cases ht with
  | @accept id a calling conn hcalling _ _ hlen =>
    rcases List.mem_append.mp hmem with hmem | hmem
    · exact hold hmem
    · obtain ⟨-, rfl⟩ := Prod.mk.inj (List.mem_singleton.mp hmem)
      exact .inl ⟨id, a, hprov.calling _ (hcalling ▸ List.mem_cons_self),
        RpcRequest.encodable_of_outputMessageLen (hlen.trans cfg.effectiveMaxMessageSize_le), rfl⟩
  | @resend conn c' id waiting rest p _ _ hp _ henc =>
    rcases List.mem_append.mp hmem with hmem | hmem
    · exact hold hmem
    · obtain ⟨-, rfl⟩ := Prod.mk.inj (List.mem_singleton.mp hmem)
      obtain ⟨a, hcall, hrequest⟩ := h.pending id p hp
      exact .inl ⟨id, a, hcall, hrequest ▸ henc, hrequest ▸ rfl⟩
  | sendCancel =>
    rcases List.mem_append.mp hmem with hmem | hmem
    · exact hold hmem
    · obtain ⟨-, rfl⟩ := Prod.mk.inj (List.mem_singleton.mp hmem)
      exact .inr ⟨_, rfl⟩
  | transmit => exact hold (Channel.mem_of_mem_dropFirst hmem)
  | _ => exact hold hmem

theorem outgoing_of_reachable (h : (machine cfg).Reachable s) : Outgoing s :=
  (invariant (P := fun s => Provenance s ∧ Outgoing s) ⟨provenance_init, outgoing_init⟩
    (fun _ _ hP ht => ⟨hP.1.step ht, hP.2.step hP.1 ht⟩) h).2

/-- Every `Request` frame, sent or sent again, carries the call that drew its id. -/
def RequestsCarryCalls (s : State) : Prop :=
  ∀ e ∈ s.trace, ∀ conn id frame, e.request? = some (conn, id, frame) →
    ∃ a, (id, a) ∈ s.calls ∧ frame = (callRequest id a).fields.flatten

theorem RequestsCarryCalls.step (h : RequestsCarryCalls s) (hprov : Provenance s)
    (hout : Outgoing s) (ht : Transition cfg proper network s s') : RequestsCarryCalls s' := by
  intro e he conn id frame hrequest
  have hold : e ∈ s.trace → ∃ a, (id, a) ∈ s'.calls ∧ frame = (callRequest id a).fields.flatten :=
    fun he => by
      obtain ⟨a, hcall, hframe⟩ := h e he conn id frame hrequest
      exact ⟨a, ht.calls_subset hcall, hframe⟩
  cases ht with
  | accept hcalling =>
    rcases List.mem_cons.mp he with rfl | he
    · cases hrequest
      exact ⟨_, hprov.calling _ (hcalling ▸ List.mem_cons_self), rfl⟩
    · exact hold he
  | resend _ _ hp =>
    rcases List.mem_cons.mp he with rfl | he
    · cases hrequest
      obtain ⟨a, hcall, hentry⟩ := hout.pending _ _ hp
      exact ⟨a, hcall, congrArg (fun request => request.fields.flatten) hentry⟩
    · exact hold he
  | draw | forceClose | sendCancel | connectionCallback | connectionErrorCallback | invoke
  | respond | exhaust | rearm | respondIgnored | sweep =>
    rcases List.mem_cons.mp he with rfl | he
    · cases hrequest
    · exact hold he
  | respondUnknown =>
    rcases List.mem_cons.mp he with rfl | he
    · cases hrequest
    · rcases List.mem_cons.mp he with rfl | he
      · cases hrequest
      · exact hold he
  | _ => exact hold he

/-- **A request that is sent again is the same request.** -/
theorem requestsCarryCalls_of_reachable (h : (machine cfg).Reachable s) : RequestsCarryCalls s :=
  (invariant (P := fun s => (Provenance s ∧ Outgoing s) ∧ RequestsCarryCalls s)
    ⟨⟨provenance_init, outgoing_init⟩, fun _ h => absurd h List.not_mem_nil⟩
    (fun _ _ hP ht => ⟨⟨hP.1.1.step ht, hP.1.2.step hP.1.1 ht⟩,
      hP.2.step hP.1.1 hP.1.2 ht⟩) h).2

/-! ### Successes -/

/-- A success that a callback gets was received; the failures of the client are no successes. -/
def SuccessesReceived (s : State) : Prop :=
  ∀ c ∈ s.takenCallbacks, c.response.responseResult_ = kSuccess →
    ∃ conn, .received conn c.response ∈ s.trace

theorem SuccessesReceived.step (h : SuccessesReceived s) (ht : Transition cfg proper network s s') :
    SuccessesReceived s' := by
  intro c hc hsuccess
  rcases ht.mem_takenCallbacks hc with hold | hnew
  · obtain ⟨conn, hmem⟩ := h c hold hsuccess
    exact ⟨conn, ht.trace_suffix.subset hmem⟩
  · cases hnew with
    | respond _ _ htrace => exact ⟨_, htrace ▸ List.mem_cons_self⟩
    | _ => exact absurd hsuccess.symm RpcResponse.kSuccess_ne_kUnsuccess

theorem successesReceived_of_reachable (h : (machine cfg).Reachable s) : SuccessesReceived s :=
  invariant (fun _ h => absurd h List.not_mem_nil) (fun _ _ hP => hP.step) h

/-! ### Without the network -/

/-- What the steps from `s` to `s'` put into the outbox is what they record as sent, nothing
arrives, and a connection that is open was open before. -/
structure Quiet (s s' : State) : Prop where
  calls : s.calls ⊆ s'.calls
  open_of : ∀ c, s'.tcpClient_.Open c → s.tcpClient_.Open c
  requests : ∀ c i, requestsSent s'.trace c i + s.outbox.count c (carriesRequest i) =
    requestsSent s.trace c i + s'.outbox.count c (carriesRequest i)
  cancels : ∀ c i, cancelsSent s'.trace c i + s.outbox.count c (carriesCancel i) =
    cancelsSent s.trace c i + s'.outbox.count c (carriesCancel i)
  received : ∀ c response, .received c response ∈ s'.trace → .received c response ∈ s.trace
  responses : ∀ c i, responsesReceived s'.trace c i = responsesReceived s.trace c i

theorem Quiet.refl (s : State) : Quiet s s :=
  ⟨List.Subset.refl _, fun _ => id, fun _ _ => rfl, fun _ _ => rfl, fun _ _ => id, fun _ _ => rfl⟩

theorem Quiet.trans (h : Quiet s s') (h' : Quiet s' s'') : Quiet s s'' where
  calls := List.Subset.trans h.calls h'.calls
  open_of c hopen := h.open_of c (h'.open_of c hopen)
  requests c i := by
    have hfirst := h.requests c i
    have hsecond := h'.requests c i
    omega
  cancels c i := by
    have hfirst := h.cancels c i
    have hsecond := h'.cancels c i
    omega
  received c response hmem := h.received c response (h'.received c response hmem)
  responses c i := (h'.responses c i).trans (h.responses c i)

/-- A request is sent. -/
theorem Quiet.of_request {request : RpcRequest} (henc : request.Encodable)
    (hcalls : s.calls ⊆ s'.calls) (hclient : s'.tcpClient_ = s.tcpClient_)
    (houtbox : s'.outbox = s.outbox ++ [(conn, request.fields.flatten)])
    (hrequests : ∀ c i, requestsSent s'.trace c i =
      requestsSent s.trace c i + if conn = c ∧ request.requestId_ = i then 1 else 0)
    (hcancels : ∀ c i, cancelsSent s'.trace c i = cancelsSent s.trace c i)
    (hreceived : ∀ c response, .received c response ∈ s'.trace → .received c response ∈ s.trace)
    (hresponses : ∀ c i, responsesReceived s'.trace c i = responsesReceived s.trace c i) :
    Quiet s s' := by
  refine ⟨hcalls, fun c hopen => hclient ▸ hopen, fun c i => ?_, fun c i => ?_, hreceived,
    hresponses⟩
  · rw [hrequests, houtbox, Channel.count_send, carriesRequest_request henc]
    simp only [decide_eq_true_eq]
    omega
  · rw [hcancels, houtbox, Channel.count_send, carriesCancel_request henc]
    simp only [Bool.false_eq_true, and_false, if_false, Nat.add_zero]

/-- The connection begins to close. -/
theorem open_of_closing {t : TcpClient} {connected : Bool} {c : ConnId}
    (h : TcpClient.Open { t with connected := connected, closing := true } c) : t.Open c :=
  h.imp_right fun hopen => by cases hopen.2

theorem Transition.quiet (ht : Transition cfg proper False s s') : Quiet s s' := by
  have hcalls := ht.calls_subset
  have hcons : ∀ {e : Event}, (∀ c response, e ≠ .received c response) → ∀ c response,
      .received c response ∈ e :: s.trace → .received c response ∈ s.trace :=
    fun he c response hmem => (List.mem_cons.mp hmem).resolve_left fun heq => he c response heq.symm
  cases ht with
  | @accept id a calling conn _ _ _ hlen =>
    have henc : (callRequest id a).Encodable := RpcRequest.encodable_of_outputMessageLen
      (hlen.trans cfg.effectiveMaxMessageSize_le)
    exact .of_request henc hcalls rfl rfl (requestsSent_cons _ fun _ _ => rfl) (fun _ _ => rfl)
      (hcons fun _ _ heq => by cases heq) fun _ _ => rfl
  | resend _ _ _ _ henc =>
    exact .of_request henc hcalls rfl rfl (requestsSent_cons _ fun _ _ => rfl) (fun _ _ => rfl)
      (hcons fun _ _ heq => by cases heq) fun _ _ => rfl
  | @sendCancel conn id =>
    refine ⟨hcalls, fun _ h => h, fun c i => ?_, fun c i => ?_,
      hcons fun _ _ heq => (by cases heq), fun _ _ => rfl⟩
    · show requestsSent s.trace c i + _ = _
      rw [Channel.count_send, cancelFrame, carriesRequest_cancel]
      simp only [Bool.false_eq_true, and_false, if_false, Nat.add_zero]
    · rw [Channel.count_send, cancelFrame, carriesCancel_cancel, cancelsSent, List.countP_cons]
      simp only [Event.sendsCancel, Bool.and_eq_true, beq_iff_eq, decide_eq_true_eq]
      unfold cancelsSent
      omega
  | respond _ _ _ hnetwork | respondIgnored _ _ _ hnetwork | respondUnknown _ _ _ hnetwork
  | transmit _ hnetwork => exact hnetwork.elim
  | loseConnection | beginDisconnect | finishDisconnect =>
    exact ⟨hcalls, fun _ => open_of_closing, fun _ _ => rfl, fun _ _ => rfl, fun _ _ h => h,
      fun _ _ => rfl⟩
  | forceClose =>
    exact ⟨hcalls, fun _ => open_of_closing, fun _ _ => rfl, fun _ _ => rfl,
      hcons fun _ _ heq => (by cases heq), fun _ _ => rfl⟩
  | up =>
    refine ⟨hcalls, fun c hopen => .inl ?_, fun _ _ => rfl, fun _ _ => rfl, fun _ _ h => h,
      fun _ _ => rfl⟩
    rcases hopen with hlt | ⟨hcurrent, -⟩
    · exact Nat.le_of_succ_le hlt
    · exact (Option.some.inj hcurrent).le
  | down =>
    refine ⟨hcalls, fun c hopen => .inl ?_, fun _ _ => rfl, fun _ _ => rfl, fun _ _ h => h,
      fun _ _ => rfl⟩
    exact hopen.resolve_right fun hcurrent => by cases hcurrent.1
  | draw | connectionCallback | connectionErrorCallback | invoke | exhaust | rearm | sweep =>
    exact ⟨hcalls, fun _ h => h, fun _ _ => rfl, fun _ _ => rfl,
      hcons fun _ _ heq => (by cases heq), fun _ _ => rfl⟩
  | _ =>
    exact ⟨hcalls, fun _ h => h, fun _ _ => rfl, fun _ _ => rfl, fun _ _ h => h,
      fun _ _ => rfl⟩

theorem quiet_of_step {a : Action} (ha : a.isNetwork = false) (h : step cfg s a = some s') :
    Quiet s s' := by
  have hsteps : Steps cfg False False s s' :=
    steps_step False.elim (fun hnetwork => by cases ha.symm.trans hnetwork) h
  refine Machine.preserved_of_chain (P := Quiet s) (fun _ _ hquiet ht => ?_) hsteps (.refl s)
  exact hquiet.trans ht.quiet

/-! ### The network -/

theorem ofFrame?_of_validResponse {response : RpcResponse}
    (h : validResponse? cfg msg = some response) :
    RpcMessage.ofFrame? msg = some (.response response) := by
  unfold validResponse? at h
  split_ifs at h with hcond
  unfold RpcMessage.ofFrame?
  rw [hcond.2]
  dsimp only
  -- `validResponse?` and `ofFrame?` decode the frame in the same way
  rcases hdecode : RpcResponse.empty.decode msg [] with ⟨_ | _, decoded, _ | ⟨b, rest⟩⟩
  · rw [hdecode] at h
    cases h
  · rw [hdecode] at h
    cases h
  · rw [hdecode] at h
    obtain rfl := Option.some.inj h
    rfl
  · rw [hdecode] at h
    cases h

/-- A frame arrives: a response, or the client closes the connection. -/
theorem onRpcMessage_cases (cfg : Config) (s : State) (conn : ConnId) (msg : Bytes) :
    onRpcMessage cfg s conn msg = forceClose s conn ∨ ∃ response,
      RpcMessage.ofFrame? msg = some (.response response) ∧
      onRpcMessage cfg s conn msg = onResponse s conn response := by
  rw [onRpcMessage_eq]
  cases hvalid : validResponse? cfg msg with
  | none => exact .inl rfl
  | some response => exact .inr ⟨response, ofFrame?_of_validResponse hvalid, rfl⟩

theorem deliver_eq_some (h : step cfg s (.deliver msg) = some s')
    (hconn : s.tcpClient_.current = some conn) : s' = onRpcMessage cfg s conn msg := by
  cases stepped_of_step h with
  | deliver _ hcurrent =>
    obtain rfl := Option.some.inj (hconn.symm.trans hcurrent)
    rfl

/-- What the arrival of a frame on the connection that is up does. -/
structure Delivery (s s' : State) (conn : ConnId) (frame : Bytes) : Prop where
  calls : s'.calls = s.calls
  open_of : ∀ c, s'.tcpClient_.Open c → s.tcpClient_.Open c
  outbox : s'.outbox = s.outbox
  requests : ∀ c i, requestsSent s'.trace c i = requestsSent s.trace c i
  cancels : ∀ c i, cancelsSent s'.trace c i = cancelsSent s.trace c i
  received : ∀ c response, .received c response ∈ s'.trace → .received c response ∈ s.trace ∨
    c = conn ∧ RpcMessage.ofFrame? frame = some (.response response)
  responses_le : ∀ c i, responsesReceived s'.trace c i ≤
    responsesReceived s.trace c i + if conn = c ∧ carriesResponse i frame = true then 1 else 0
  responses : ∀ c i, s'.tcpClient_.Open c → responsesReceived s'.trace c i =
    responsesReceived s.trace c i + if conn = c ∧ carriesResponse i frame = true then 1 else 0

theorem not_open_of_closing {t : TcpClient} (hlt : conn < t.nextConn) :
    ¬ TcpClient.Open { t with closing := true } conn := by
  rintro (hle | ⟨-, hclosing⟩)
  · exact absurd hlt (not_lt.mpr hle)
  · cases hclosing

/-- The frame is no valid response. -/
theorem delivery_forceClose (hlt : conn < s.tcpClient_.nextConn) (frame : Bytes) :
    Delivery s (forceClose s conn) conn frame where
  calls := rfl
  open_of _ := open_of_closing
  outbox := rfl
  requests _ _ := rfl
  cancels _ _ := rfl
  received c response hmem :=
    .inl ((List.mem_cons.mp hmem).resolve_left fun heq => by cases heq)
  responses_le _ _ := Nat.le_add_right _ _
  responses c i hopen := by
    have hne : ¬ (conn = c ∧ carriesResponse i frame = true) := fun hmatch =>
      not_open_of_closing hlt (hmatch.1 ▸ hopen)
    rw [if_neg hne]
    rfl

theorem responsesReceived_cons (trace : List Event) (response : RpcResponse) (c : ConnId)
    (i : UInt64) : responsesReceived (.received conn response :: trace) c i =
      responsesReceived trace c i + if conn = c ∧ response.requestId_ = i then 1 else 0 := by
  rw [responsesReceived, List.countP_cons]
  simp only [Event.receives, Bool.and_eq_true, beq_iff_eq]
  rfl

/-- What `onResponse` does to the parts that the network sees. -/
theorem onResponse_cases (s : State) (conn : ConnId) (response : RpcResponse) :
    (onResponse s conn response).outbox = s.outbox ∧
    (∀ c, (onResponse s conn response).tcpClient_.Open c → s.tcpClient_.Open c) ∧
    ((onResponse s conn response).trace = .received conn response :: s.trace ∨
      (onResponse s conn response).trace =
        .forceClosed conn :: .received conn response :: s.trace) := by
  unfold onResponse
  dsimp only
  split
  · split_ifs
    · exact ⟨rfl, fun _ hopen => hopen, .inl rfl⟩
    · exact ⟨rfl, fun _ => open_of_closing, .inr rfl⟩
  · exact ⟨rfl, fun _ hopen => hopen, .inl rfl⟩

theorem delivery_onResponse (s : State) (conn : ConnId) {response : RpcResponse} {frame : Bytes}
    (hframe : RpcMessage.ofFrame? frame = some (.response response)) :
    Delivery s (onResponse s conn response) conn frame := by
  obtain ⟨houtbox, hopen, htrace⟩ := onResponse_cases s conn response
  have hcount : ∀ {p : Event → Bool}, p (.forceClosed conn) = false →
      (onResponse s conn response).trace.countP p =
        (.received conn response :: s.trace).countP p := fun hp => by
    rcases htrace with htrace | htrace
    · rw [htrace]
    · rw [htrace, List.countP_cons_of_neg (by simp [hp])]
  have hresponses : ∀ c i, responsesReceived (onResponse s conn response).trace c i =
      responsesReceived s.trace c i + if conn = c ∧ carriesResponse i frame = true then 1 else 0 :=
    fun c i => by
      have hreceived : responsesReceived (onResponse s conn response).trace c i =
          responsesReceived (.received conn response :: s.trace) c i := hcount rfl
      rw [hreceived, responsesReceived_cons, carriesResponse, hframe]
      simp only [decide_eq_true_eq]
  refine ⟨?_, hopen, houtbox, fun c i => ?_, fun c i => ?_, fun c response' hmem => ?_,
    fun c i => (hresponses c i).le, fun c i _ => hresponses c i⟩
  · unfold State.calls
    rcases htrace with htrace | htrace
    · rw [htrace]
      rfl
    · rw [htrace]
      rfl
  · exact hcount rfl
  · exact hcount rfl
  · have hmem : .received c response' ∈ .received conn response :: s.trace := by
      rcases htrace with htrace | htrace
      · rwa [htrace] at hmem
      · rw [htrace] at hmem
        exact (List.mem_cons.mp hmem).resolve_left fun heq => by cases heq
    rcases List.mem_cons.mp hmem with heq | hmem
    · obtain ⟨rfl, rfl⟩ := Event.received.inj heq
      exact .inr ⟨rfl, hframe⟩
    · exact .inl hmem

/-- A frame arrives on the connection that is up. -/
theorem delivery_of_step (hfresh : Fresh s) (hconn : s.tcpClient_.current = some conn)
    (h : step cfg s (.deliver msg) = some s') : Delivery s s' conn msg := by
  obtain rfl := deliver_eq_some h hconn
  rcases onRpcMessage_cases cfg s conn msg with heq | ⟨response, hframe, heq⟩
  · rw [heq]
    exact delivery_forceClose (hfresh.current_lt conn hconn) msg
  · rw [heq]
    exact delivery_onResponse s conn hframe

end MiniRpc.RpcClient
