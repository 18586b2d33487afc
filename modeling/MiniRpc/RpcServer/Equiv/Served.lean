import MiniRpc.RpcServer.Equiv.Invocations

/-!
# A successful response is the result of its handler

`Served`: whatever is on its way to become a response to a request is the result of an invocation of
the handler that is registered for the request, or reports a failure.
-/

namespace MiniRpc.RpcServer

variable {cfg : Config} {proper network : Prop} {s s' : State} {phase phase' : Phase}
  {inv : Invocation} {r : RpcResult} {trace trace' : List Event} {conn : ConnId} {id : UInt64}
  {payload : Bytes}

/-! ### What is on record -/

/-- The handler is registered for the method. -/
def Config.Registered (cfg : Config) (service method : Bytes) : Handler → Prop
  | .sync handler => cfg.syncHandlers_.find? service method = some handler
  | .async handler => cfg.asyncHandlers_.find? service method = some handler

/-- The handler of the method was invoked for a request and its result was a success. -/
structure ServedBy (cfg : Config) (trace : List Event) (conn : ConnId) (payload : Bytes)
    (frame : FrameId) (request : RpcRequest) (handler : Handler) (result : RpcResult) : Prop where
  received : .requestReceived frame conn request ∈ trace
  registered : cfg.Registered request.service_ request.method_ handler
  invoked : .invoked frame conn request handler ∈ trace
  finished : .finished frame (some result) ∈ trace
  success : result.result = kSuccess
  payload : result.payload = payload

/-- A request with the id was served with the payload. -/
def Success (cfg : Config) (trace : List Event) (conn : ConnId) (id : UInt64) (payload : Bytes) :
    Prop :=
  ∃ frame request handler result, request.requestId_ = id ∧
    ServedBy cfg trace conn payload frame request handler result

theorem Success.mono (htrace : trace ⊆ trace') (h : Success cfg trace conn id payload) :
    Success cfg trace' conn id payload := by
  obtain ⟨frame, request, handler, result, hid, hserved⟩ := h
  exact ⟨frame, request, handler, result, hid, htrace hserved.received, hserved.registered,
    htrace hserved.invoked, htrace hserved.finished, hserved.success, hserved.payload⟩

/-- The request of an invocation was received and its handler is the one registered. -/
structure Invocation.Known (cfg : Config) (trace : List Event) (inv : Invocation) : Prop where
  received : .requestReceived inv.frame inv.conn inv.request ∈ trace
  registered : cfg.asyncHandlers_.find? inv.request.service_ inv.request.method_ = some inv.handler

theorem Invocation.Known.mono (htrace : trace ⊆ trace') (h : inv.Known cfg trace) :
    inv.Known cfg trace' :=
  ⟨htrace h.received, h.registered⟩

/-- The handler of an invocation was called. -/
def Invocation.Invoked (trace : List Event) (inv : Invocation) : Prop :=
  .invoked inv.frame inv.conn inv.request (.async inv.handler) ∈ trace

/-- A reply object was called with a result, which is that of its handler or a failure. -/
structure Invocation.RepliedWith (cfg : Config) (trace : List Event) (inv : Invocation)
    (r : RpcResult) : Prop where
  known : inv.Known cfg trace
  finished : .finished inv.frame (some r) ∈ trace
  invoked : inv.Invoked trace ∨ r.result = kUnsuccess

theorem Invocation.RepliedWith.mono (htrace : trace ⊆ trace') (h : inv.RepliedWith cfg trace r) :
    inv.RepliedWith cfg trace' r :=
  ⟨h.known.mono htrace, htrace h.finished, h.invoked.imp_left fun hmem => htrace hmem⟩

/-! ### Successful results and responses -/

theorem eq_of_replyResult (h : (replyResult r).result = kSuccess) : replyResult r = r := by
  unfold replyResult at h ⊢
  split_ifs with hinvalid
  · rw [if_pos hinvalid] at h
    exact absurd h (by decide)
  · rfl

theorem eq_of_syncResult {outcome : Option RpcResult}
    (h : (syncResult outcome).result = kSuccess) : outcome = some (syncResult outcome) := by
  cases outcome with
  | none => exact absurd h (by decide)
  | some r =>
    simp only [syncResult] at h ⊢
    split_ifs with hinvalid
    · rw [if_pos hinvalid] at h
      exact absurd h (by decide)
    · rfl

theorem limitedResponse_of_success {maxMessageSize : ℕ}
    (h : (limitedResponse maxMessageSize id r).responseResult_ = kSuccess) :
    r.result = kSuccess ∧ (limitedResponse maxMessageSize id r).payload_ = r.payload := by
  unfold limitedResponse at h ⊢
  split_ifs with hlen
  · rw [if_pos hlen] at h
    exact absurd h.symm RpcResponse.kSuccess_ne_kUnsuccess
  · rw [if_neg hlen] at h
    exact ⟨h, rfl⟩

/-- A successful reply is what its handler replied with. -/
theorem Invocation.RepliedWith.success (h : inv.RepliedWith cfg trace r)
    (hr : (replyResult r).result = kSuccess) :
    Success cfg trace inv.conn inv.request.requestId_ (replyResult r).payload := by
  have heq := eq_of_replyResult hr
  rw [heq] at hr ⊢
  have hinvoked : inv.Invoked trace := h.invoked.resolve_right fun hfail =>
    absurd (hr.symm.trans hfail) RpcResponse.kSuccess_ne_kUnsuccess
  exact ⟨inv.frame, inv.request, .async inv.handler, r, rfl, h.known.received, h.known.registered,
    hinvoked, h.finished, hr, rfl⟩

/-! ### The law -/

/-- What is on its way to become a response, and what the responses sent say. -/
structure Served (cfg : Config) (s : State) (phase : Phase) : Prop where
  received : ∀ frame conn request, phase = .received frame conn request →
    .requestReceived frame conn request ∈ s.trace
  waiting : ∀ inv, s.Waiting inv → inv.Known cfg s.trace
  started : ∀ inv, s.Started inv → inv.Known cfg s.trace ∧ inv.Invoked s.trace
  replying : ∀ inv r, s.Replying inv r → inv.RepliedWith cfg s.trace r
  queued : ∀ inv r, s.Queued inv r → ∃ r', inv.RepliedWith cfg s.trace r' ∧ r = replyResult r'
  answering : ∀ conn id origin r, phase = .answering conn id origin r → r.result = kSuccess →
    Success cfg s.trace conn id r.payload
  responded : ∀ conn id origin output, .responded conn id origin output ∈ s.trace →
    ∃ response : RpcResponse, response.Valid ∧ response.requestId_ = id ∧
      output = response.fields.flatten ∧
      (response.responseResult_ = kSuccess → Success cfg s.trace conn id response.payload_)

theorem not_waiting_init : ¬ (State.init cfg).Waiting inv := by
  rintro (⟨t, hmem⟩ | hmem)
  · cases hmem
  · unfold State.init at hmem
    cases hworkers : cfg.workers <;> simp only [hworkers] at hmem <;> cases hmem

theorem served_init : Served cfg (.init cfg) .idle where
  received _ _ _ h := by cases h
  waiting _ h := absurd h not_waiting_init
  started _ h := by rcases h with ⟨t, hmem⟩ | hmem <;> cases hmem
  replying _ _ h := by
    obtain ⟨t, hmem⟩ := h
    cases hmem
  queued _ _ h := by
    obtain ⟨l, hmem⟩ := h
    cases hmem
  answering _ _ _ _ h := by cases h
  responded _ _ _ _ h := by cases h

/-- A request is answered with a result that is a success only if its handler succeeded. -/
theorem Transition.answering (ht : Transition cfg proper network (s, phase) (s', phase'))
    (h : Served cfg s phase) {origin : Origin} (hphase : phase' = .answering conn id origin r)
    (hr : r.result = kSuccess) : Success cfg s'.trace conn id r.payload := by
  cases ht with
  | @invokeSync _ frame conn' request handler outcome hhandler =>
    obtain ⟨rfl, rfl, -, rfl⟩ := Phase.answering.inj hphase
    -- an exception and an invalid result are answered with a failure
    have houtcome := eq_of_syncResult hr
    refine ⟨frame, request, .sync handler, syncResult outcome, rfl, ?_, hhandler, ?_, ?_, hr, rfl⟩
    · exact List.mem_cons_of_mem _ (List.mem_cons_of_mem _ (h.received _ _ _ rfl))
    · exact List.mem_cons_of_mem _ List.mem_cons_self
    · rw [← houtcome]
      exact List.mem_cons_self
  | unknownMethod | refuseLimit =>
    obtain ⟨-, -, -, rfl⟩ := Phase.answering.inj hphase
    exact absurd hr (by decide)
  | take htasks =>
    obtain ⟨rfl, rfl, -, rfl⟩ := Phase.answering.inj hphase
    obtain ⟨r', hreplied, rfl⟩ := h.queued _ _ ⟨_, mem_head htasks⟩
    exact hreplied.success hr
  | _ => cases hphase

/-- A frame that is to be dispatched was just received. -/
theorem Transition.received (ht : Transition cfg proper network (s, phase) (s', phase'))
    {frame : FrameId} {request : RpcRequest} (h : phase' = .received frame conn request) :
    .requestReceived frame conn request ∈ s'.trace := by
  cases ht with
  | receive =>
    obtain ⟨rfl, rfl, rfl⟩ := Phase.received.inj h
    exact List.mem_cons_self
  | _ => cases h

theorem Served.step (h : Served cfg s phase)
    (ht : Transition cfg proper network (s, phase) (s', phase')) : Served cfg s' phase' := by
  have htrace : s.trace ⊆ s'.trace := ht.trace_subset
  have hwaiting : ∀ inv, s'.Waiting inv → inv.Known cfg s'.trace := by
    intro inv hinv
    rcases ht.waiting hinv with hold | ⟨hphase, hhandler, -⟩
    · exact (h.waiting inv hold).mono htrace
    · exact ⟨htrace (h.received _ _ _ hphase), hhandler⟩
  refine ⟨fun _ _ _ => ht.received, hwaiting, fun inv hinv => ?_, fun inv r hinv => ?_,
    fun inv r hinv => ?_, fun _ _ _ _ => ht.answering h, fun conn id origin output hmem => ?_⟩
  · rcases ht.started hinv with hold | ⟨hold, hinvoked⟩
    · exact (h.started inv hold).imp (·.mono htrace) fun hmem => htrace hmem
    · exact ⟨(h.waiting inv hold).mono htrace, hinvoked⟩
  · rcases ht.replying hinv with hold | ⟨-, hfinished, -, hold | ⟨hold, hfail⟩⟩
    · exact (h.replying inv r hold).mono htrace
    · obtain ⟨hknown, hinvoked⟩ := h.started inv hold
      exact ⟨hknown.mono htrace, hfinished, .inl (htrace hinvoked)⟩
    · exact ⟨(h.waiting inv hold).mono htrace, hfinished, .inr hfail⟩
  · rcases ht.queued hinv with hold | ⟨r', hold, hr, -⟩
    · obtain ⟨r', hreplied, hr⟩ := h.queued inv r hold
      exact ⟨r', hreplied.mono htrace, hr⟩
    · exact ⟨r', (h.replying inv r' hold).mono htrace, hr⟩
  · rcases ht.responded hmem with hold | ⟨r, hphase, hvalid, houtput⟩
    · obtain ⟨response, hvalid, hid, houtput, hsuccess⟩ := h.responded _ _ _ _ hold
      exact ⟨response, hvalid, hid, houtput, fun hresult => (hsuccess hresult).mono htrace⟩
    · refine ⟨_, hvalid, requestId_limitedResponse _ _ _, houtput, fun hresult => ?_⟩
      obtain ⟨hr, hpayload⟩ := limitedResponse_of_success hresult
      rw [hpayload]
      exact (h.answering _ _ _ _ hphase hr).mono htrace

end MiniRpc.RpcServer
