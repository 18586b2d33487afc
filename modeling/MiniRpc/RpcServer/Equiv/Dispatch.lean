import MiniRpc.RpcMessage.Equiv.Exact
import MiniRpc.RpcServer.Equiv.Answers
import MiniRpc.RpcServer.Equiv.Traffic

/-!
# What the server does with a frame

`onRpcMessage` is exact: a frame within the limit that is the encoding of a request is served by
the handler that is registered for its method, synchronous ones first, or answered with an error
(`dispatch_eq`); the encoding of a cancel touches one entry of the registry
(`find?_cancelAsync`); and on any other frame the connection is closed and nothing else happens
(`onRpcMessage_other`).
-/

namespace MiniRpc.RpcServer

variable {cfg : Config} {s : State} {conn : ConnId} {msg : Bytes} {outcome : Option RpcResult}

/-! ### Frames -/

theorem onRpcMessage_request {request : RpcRequest}
    (hlen : msg.length ≤ cfg.effectiveMaxMessageSize)
    (h : (RpcMessage.request request).encode = (true, msg, [])) (s : State) (conn : ConnId)
    (outcome : Option RpcResult) :
    onRpcMessage cfg s conn msg outcome = onRequest cfg s conn request outcome := by
  obtain ⟨hr, rfl⟩ := RpcMessage.encode_request.mp h
  have hne : request.fields.flatten ≠ [] := by
    intro hempty
    have hhead := RpcRequest.decodeHead_fields request
    rw [hempty] at hhead
    cases hhead
  unfold onRpcMessage
  rw [if_neg hne, if_neg (not_lt.mpr hlen), RpcRequest.decodeHead_fields]
  simp only [RpcRequest.decode_encode hr]
  simp

theorem onRpcMessage_cancel {cancel : RpcCancel}
    (hlen : msg.length ≤ cfg.effectiveMaxMessageSize)
    (h : (RpcMessage.cancel cancel).encode = (true, msg, [])) (s : State) (conn : ConnId)
    (outcome : Option RpcResult) :
    onRpcMessage cfg s conn msg outcome = cancelAsync s conn cancel.requestId_ := by
  obtain rfl := RpcMessage.encode_cancel.mp h
  have hne : cancel.fields.flatten ≠ [] := by
    intro hempty
    have hhead := RpcCancel.decodeHead_fields cancel
    rw [hempty] at hhead
    cases hhead
  unfold onRpcMessage
  rw [if_neg hne, if_neg (not_lt.mpr hlen), RpcCancel.decodeHead_fields]
  simp only [RpcCancel.decode_encode]
  simp

/-- A frame that is too long, or neither a request nor a cancel. -/
theorem onRpcMessage_other
    (h : msg.length ≤ cfg.effectiveMaxMessageSize →
      (∀ request, (RpcMessage.request request).encode ≠ (true, msg, [])) ∧
        ∀ cancel, (RpcMessage.cancel cancel).encode ≠ (true, msg, []))
    (s : State) (conn : ConnId) (outcome : Option RpcResult) :
    onRpcMessage cfg s conn msg outcome = forceClose s conn := by
  by_cases hlen : msg.length ≤ cfg.effectiveMaxMessageSize
  · obtain ⟨hrequest, hcancel⟩ := h hlen
    rcases onRpcMessage_cases cfg s conn msg outcome with
      heq | ⟨requestId, hframe, -⟩ | ⟨request, hframe, -⟩
    · exact heq
    · exact absurd (RpcMessage.ofFrame?_eq_some_iff.mp hframe) (hcancel _)
    · exact absurd (RpcMessage.ofFrame?_eq_some_iff.mp hframe) (hrequest _)
  · unfold onRpcMessage
    by_cases hempty : msg = []
    · rw [if_pos hempty]
    · rw [if_neg hempty, if_pos (not_le.mp hlen)]

/-! ### Requests -/

/-- The handler that two tables hold for a method; the synchronous ones are looked at first. -/
def handlerIn (syncHandlers : MethodTable RpcHandler) (asyncHandlers : MethodTable RpcAsyncHandler)
    (service method : Bytes) : Option Handler :=
  match syncHandlers.find? service method with
  | some handler => some (.sync handler)
  | none => (asyncHandlers.find? service method).map .async

theorem handlerIn_eq_none {syncHandlers : MethodTable RpcHandler}
    {asyncHandlers : MethodTable RpcAsyncHandler} {service method : Bytes} :
    handlerIn syncHandlers asyncHandlers service method = none ↔
      syncHandlers.find? service method = none ∧ asyncHandlers.find? service method = none := by
  unfold handlerIn
  cases syncHandlers.find? service method with
  | none => simp
  | some handler => simp

/-- The handler registered for a method. -/
def Config.handler? (cfg : Config) (service method : Bytes) : Option Handler :=
  handlerIn cfg.syncHandlers_ cfg.asyncHandlers_ service method

/-- What the connection limits and duplicates leave of a request for an asynchronous method: its
token is registered and the submission begins, or it is refused. -/
def enterAsync (cfg : Config) (s : State) (frame : FrameId) (conn : ConnId) (request : RpcRequest)
    (handler : RpcAsyncHandler) : State :=
  let (res, registry) := s.cancellationRegistry_.registerToken conn request.requestId_ frame
  match res with
  | .kRegistered =>
    { s with
      cancellationRegistry_ := registry
      running := (.loop (cfg.loopOf conn), .submit ⟨frame, conn, request, handler⟩) :: s.running }
  | .kDuplicateRequestId => forceClose (s.emit (.rejected frame conn request)) conn
  | .kConnectionLimitReached | .kGlobalLimitReached =>
    act (s.emit (.rejected frame conn request)) conn request.requestId_ (.direct frame)
      (answer cfg.effectiveMaxMessageSize request.requestId_
        (failure .RESOURCE_EXHAUSTED (text "server request limit reached")))

/-- What becomes of a request for whose method this handler is registered. -/
def serve (cfg : Config) (s : State) (frame : FrameId) (conn : ConnId) (request : RpcRequest)
    (outcome : Option RpcResult) : Option Handler → State
  | some (.sync handler) =>
    act ((s.emit (.invoked frame conn request (.sync handler))).emit (.finished frame outcome)) conn
      request.requestId_ (.direct frame)
      (answer cfg.effectiveMaxMessageSize request.requestId_ (normalised outcome))
  | some (.async handler) => enterAsync cfg s frame conn request handler
  | none =>
    act s conn request.requestId_ (.direct frame)
      (answer cfg.effectiveMaxMessageSize request.requestId_
        (failure .METHOD_NOT_FOUND (text "service or method not exist")))

theorem invokeAsyncHandler_eq {handler : RpcAsyncHandler} {request : RpcRequest}
    (hhandler : cfg.asyncHandlers_.find? request.service_ request.method_ = some handler)
    (hconnected : (s.connections conn).connected = true) (frame : FrameId) :
    invokeAsyncHandler cfg s frame conn request =
      enterAsync cfg s frame conn request handler := by
  let refused := s.emit (.rejected frame conn request)
  have hrefused : (refused.connections conn).connected = true := hconnected
  have hlimit : sendResponse cfg refused conn request.requestId_ (.direct frame)
      (failure .RESOURCE_EXHAUSTED (text "server request limit reached")) = _ :=
    sendResponse_eq_act hrefused _ _ _
  unfold invokeAsyncHandler enterAsync
  simp only [hhandler]
  cases (s.cancellationRegistry_.registerToken conn request.requestId_ frame).1 with
  | kRegistered => rfl
  | kDuplicateRequestId => rfl
  | kConnectionLimitReached => exact hlimit
  | kGlobalLimitReached => exact hlimit

/-- A request is served by the handler that is registered for its method. -/
theorem dispatch_eq (hconnected : (s.connections conn).connected = true) (frame : FrameId)
    (request : RpcRequest) (outcome : Option RpcResult) :
    dispatch cfg s frame conn request outcome =
      serve cfg s frame conn request outcome (cfg.handler? request.service_ request.method_) := by
  unfold dispatch Config.handler? handlerIn isRegisteredInSync isRegisteredInAsync
  cases hsync : cfg.syncHandlers_.find? request.service_ request.method_ with
  | some handler =>
    rw [Option.isSome_some, if_pos rfl, invokeSyncHandler_eq hsync, syncResult_eq]
    apply sendFramedData_eq_act
    exact hconnected
  | none =>
    rw [Option.isSome_none, if_neg (by simp)]
    cases hasync : cfg.asyncHandlers_.find? request.service_ request.method_ with
    | some handler =>
      rw [Option.isSome_some, if_pos rfl]
      exact invokeAsyncHandler_eq hasync hconnected frame
    | none =>
      rw [Option.isSome_none, if_neg (by simp)]
      exact sendResponse_eq_act hconnected _ _ _

/-- Where the checks find a method, the lookups of the two invocations do not miss. -/
theorem MethodTable.lookup_of_isSome {η : Type} {table : MethodTable η} {service method : Bytes}
    (h : (table.find? service method).isSome = true) :
    ∃ methods handler, table.lookup service = some methods ∧
      methods.lookup method = some handler := by
  obtain ⟨handler, hhandler⟩ := Option.isSome_iff_exists.mp h
  obtain ⟨methods, hmethods, hlookup⟩ := Option.bind_eq_some_iff.mp hhandler
  exact ⟨methods, handler, hmethods, hlookup⟩

/-! ### Cancels -/

/-- A cancel touches the entry of its request, and sets the flag of the token it finds there. -/
theorem find?_cancelAsync (s : State) (conn : ConnId) (requestId : UInt64) :
    (∀ c i, ¬ (c = conn ∧ i = requestId) →
      (cancelAsync s conn requestId).cancellationRegistry_.find? c i =
        s.cancellationRegistry_.find? c i) ∧
    ∀ token, token ∈ (cancelAsync s conn requestId).cancellationRegistry_.canceled_ ↔
      token ∈ s.cancellationRegistry_.canceled_ ∨
        s.cancellationRegistry_.find? conn requestId = some token := by
  show (∀ c i, ¬ (c = conn ∧ i = requestId) →
      (s.cancellationRegistry_.cancel conn requestId).find? c i =
        s.cancellationRegistry_.find? c i) ∧
    ∀ token, token ∈ (s.cancellationRegistry_.cancel conn requestId).canceled_ ↔ _
  rcases s.cancellationRegistry_.cancel_cases conn requestId with
    ⟨found, hfound, hcanceled, hfind⟩ | ⟨hnone, hsame⟩
  · rw [hcanceled]
    constructor
    · intro c i hne
      rw [hfind, if_neg hne]
    · intro token
      rw [Finset.mem_insert, hfound, Option.some.injEq, or_comm, eq_comm (a := token)]
  · rw [hsame]
    constructor
    · intro c i _
      rfl
    · intro token
      rw [hnone]
      simp

/-! ### All frames -/

/-- The state `s'` is what a frame leaves of the state `s`. -/
structure ExactDispatch (cfg : Config) (s : State) (conn : ConnId) (msg : Bytes)
    (outcome : Option RpcResult) (s' : State) : Prop where
  /-- A synchronous method: the handler runs once, with the request, and its outcome is answered. -/
  sync : ∀ (request : RpcRequest) (handler : RpcHandler),
    msg.length ≤ cfg.effectiveMaxMessageSize →
    (RpcMessage.request request).encode = (true, msg, []) →
    cfg.syncHandlers_.find? request.service_ request.method_ = some handler →
    s' = act (((receive s conn request).emit
        (.invoked s.nextFrame conn request (.sync handler))).emit (.finished s.nextFrame outcome))
      conn request.requestId_ (.direct s.nextFrame)
      (answer cfg.effectiveMaxMessageSize request.requestId_ (normalised outcome))
  /-- An asynchronous method: the asynchronous path is entered with the request. -/
  async : ∀ (request : RpcRequest) (handler : RpcAsyncHandler),
    msg.length ≤ cfg.effectiveMaxMessageSize →
    (RpcMessage.request request).encode = (true, msg, []) →
    cfg.syncHandlers_.find? request.service_ request.method_ = none →
    cfg.asyncHandlers_.find? request.service_ request.method_ = some handler →
    s' = enterAsync cfg (receive s conn request) s.nextFrame conn request handler
  /-- Any other method: the response says so, if it fits. -/
  unknown : ∀ request : RpcRequest, msg.length ≤ cfg.effectiveMaxMessageSize →
    (RpcMessage.request request).encode = (true, msg, []) →
    cfg.syncHandlers_.find? request.service_ request.method_ = none →
    cfg.asyncHandlers_.find? request.service_ request.method_ = none →
    s' = act (receive s conn request) conn request.requestId_ (.direct s.nextFrame)
      (answer cfg.effectiveMaxMessageSize request.requestId_
        (failure .METHOD_NOT_FOUND (text "service or method not exist")))
  /-- A cancel: the entry of its request, and nothing else but the record of it. -/
  cancel : ∀ cancel : RpcCancel, msg.length ≤ cfg.effectiveMaxMessageSize →
    (RpcMessage.cancel cancel).encode = (true, msg, []) →
    (∃ registry e, s' = { s with cancellationRegistry_ := registry, trace := e :: s.trace }) ∧
    (∀ c i, ¬ (c = conn ∧ i = cancel.requestId_) →
      s'.cancellationRegistry_.find? c i = s.cancellationRegistry_.find? c i) ∧
    ∀ token, token ∈ s'.cancellationRegistry_.canceled_ ↔
      token ∈ s.cancellationRegistry_.canceled_ ∨
        s.cancellationRegistry_.find? conn cancel.requestId_ = some token
  /-- Anything else: the connection is closed, and no more. -/
  other : (msg.length ≤ cfg.effectiveMaxMessageSize →
      (∀ request, (RpcMessage.request request).encode ≠ (true, msg, [])) ∧
        ∀ cancel, (RpcMessage.cancel cancel).encode ≠ (true, msg, [])) →
    s' = forceClose s conn
  /-- The unchecked lookups do not miss. -/
  lookups : ∀ service method : Bytes,
    (isRegisteredInSync cfg service method = true → ∃ methods handler,
      cfg.syncHandlers_.lookup service = some methods ∧ methods.lookup method = some handler) ∧
    (isRegisteredInAsync cfg service method = true → ∃ methods handler,
      cfg.asyncHandlers_.lookup service = some methods ∧ methods.lookup method = some handler)

/-- **Dispatch is exact and fails closed.** -/
theorem onRpcMessage_exact (cfg : Config) (s : State) {conn : ConnId}
    (hconnected : (s.connections conn).connected = true) (msg : Bytes)
    (outcome : Option RpcResult) :
    ExactDispatch cfg s conn msg outcome (onRpcMessage cfg s conn msg outcome) := by
  -- every request is dispatched, with its number
  have hrequest : ∀ request : RpcRequest, msg.length ≤ cfg.effectiveMaxMessageSize →
      (RpcMessage.request request).encode = (true, msg, []) →
      onRpcMessage cfg s conn msg outcome =
        serve cfg (receive s conn request) s.nextFrame conn request outcome
          (cfg.handler? request.service_ request.method_) := by
    intro request hlen h
    rw [onRpcMessage_request hlen h]
    exact dispatch_eq (s := receive s conn request) hconnected _ _ _
  constructor
  · intro request handler hlen h hsync
    rw [hrequest request hlen h, Config.handler?, handlerIn, hsync]
    rfl
  · intro request handler hlen h hsync hasync
    rw [hrequest request hlen h, Config.handler?, handlerIn, hsync, hasync]
    rfl
  · intro request hlen h hsync hasync
    rw [hrequest request hlen h, Config.handler?, handlerIn_eq_none.mpr ⟨hsync, hasync⟩]
    rfl
  · intro cancel hlen h
    rw [onRpcMessage_cancel hlen h]
    exact ⟨⟨_, _, rfl⟩, find?_cancelAsync s conn cancel.requestId_⟩
  · intro h
    exact onRpcMessage_other h s conn outcome
  · intro service method
    exact ⟨MethodTable.lookup_of_isSome, MethodTable.lookup_of_isSome⟩

/-- A server on which nothing is registered answers a request with an error. -/
theorem onRpcMessage_exact_unregistered :
    let cfg : Config := .ofHandlers ∅ ∅
    let s : State := (State.init cfg).setConnection 0 ⟨.kUp, true, false⟩
    let request : RpcRequest := ⟨7, text "s", text "m", []⟩
    onRpcMessage cfg s 0 request.fields.flatten none =
      act (receive s 0 request) 0 7 (.direct 0)
        (answer kMaxMessageSize 7
          (failure .METHOD_NOT_FOUND (text "service or method not exist"))) := by
  intro cfg s request
  have hencodable : request.Encodable := by
    constructor <;> decide
  apply (onRpcMessage_exact cfg s rfl request.fields.flatten none).unknown request
  · decide
  · exact RpcMessage.encode_request.mpr ⟨hencodable, rfl⟩
  · rfl
  · rfl

end MiniRpc.RpcServer
