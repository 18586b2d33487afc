import MiniRpc.RpcServer.Equiv.Decompose
import MiniRpc.RpcServer.Equiv.Session

/-!
# Outcomes of handlers become responses

The synchronous and the asynchronous path check, normalise and send the outcome of a handler each
in its own code.  Both checks say that the result is not `Consistent` (`invalidHandlerResult_iff`,
`invalidReplyResult_iff`), so both paths answer with the `normalised` outcome, and both send it in
the same way (`sendFramedData_eq_act`).  A consistent result is a valid response, so that encoding
does not fail: what is sent is its encoding, the encoding of the error that it is too large, or
nothing, in which case the connection is closed (`answer_of_fits`, `answer_of_large`).
-/

namespace MiniRpc.RpcServer

variable {cfg : Config} {maxMessageSize : ℕ} {r : RpcResult}

/-! ### Consistent results -/

/-- A success without an error, or a failure with a defined error code and without a payload. -/
def Consistent (r : RpcResult) : Prop :=
  (r.result = kSuccess ∧ r.errorCode = .NO_ERROR ∧ r.errorMessage = []) ∨
    (r.result = kUnsuccess ∧ r.errorCode ≠ .NO_ERROR ∧
      r.errorCode.value < RpcErrorCode.ERROR_CODE_CNT.value ∧ r.payload = [])

instance (r : RpcResult) : Decidable (Consistent r) := inferInstanceAs (Decidable (_ ∨ _))

/-- The result with which an outcome is answered; `none` is an exception. -/
def normalised : Option RpcResult → RpcResult
  | none => handlerException
  | some r => if Consistent r then r else invalidResultFailure

theorem consistent_success (hresult : r.result = kSuccess) :
    Consistent r ↔ r.errorCode = .NO_ERROR ∧ r.errorMessage = [] := by
  simp [Consistent, hresult, RpcResponse.kSuccess_ne_kUnsuccess]

theorem consistent_unsuccess (hresult : r.result = kUnsuccess) :
    Consistent r ↔ r.errorCode ≠ .NO_ERROR ∧
      r.errorCode.value < RpcErrorCode.ERROR_CODE_CNT.value ∧ r.payload = [] := by
  simp [Consistent, hresult, RpcResponse.kSuccess_ne_kUnsuccess.symm]

theorem invalidHandlerResult_iff (r : RpcResult) : invalidHandlerResult r ↔ ¬ Consistent r := by
  by_cases hsuccess : r.result = kSuccess
  · rw [consistent_success hsuccess]
    by_cases hcode : r.errorCode = .NO_ERROR
    · simp [invalidHandlerResult, hsuccess, hcode, RpcResponse.kSuccess_ne_kUnsuccess,
        RpcErrorCode.NO_ERROR, RpcErrorCode.ERROR_CODE_CNT]
    · simp [invalidHandlerResult, hsuccess, hcode]
  by_cases hunsuccess : r.result = kUnsuccess
  · rw [consistent_unsuccess hunsuccess]
    simp only [invalidHandlerResult, hunsuccess, RpcResponse.kSuccess_ne_kUnsuccess.symm]
    simp only [true_and, false_and, ne_eq, not_true_eq_false, and_false, false_or, not_and_or,
      not_not, UInt16.not_lt, ge_iff_le]
    tauto
  · simp [invalidHandlerResult, Consistent, hsuccess, hunsuccess]

/-- The two checks differ in their order only. -/
theorem invalidReplyResult_iff (r : RpcResult) : invalidReplyResult r ↔ ¬ Consistent r := by
  rw [← invalidHandlerResult_iff, invalidReplyResult, invalidHandlerResult]
  tauto

theorem syncResult_eq (outcome : Option RpcResult) : syncResult outcome = normalised outcome := by
  cases outcome with
  | none => rfl
  | some r =>
    simp only [syncResult, normalised, invalidHandlerResult_iff]
    by_cases h : Consistent r
    · rw [if_neg (not_not.mpr h), if_pos h]
    · rw [if_pos h, if_neg h]

theorem consistent_handlerException : Consistent handlerException := by decide

theorem consistent_invalidResultFailure : Consistent invalidResultFailure := by decide

theorem consistent_normalised (outcome : Option RpcResult) : Consistent (normalised outcome) := by
  cases outcome with
  | none => exact consistent_handlerException
  | some r =>
    simp only [normalised]
    split_ifs with h
    · exact h
    · exact consistent_invalidResultFailure

/-- An asynchronous handler that throws has its reply object called by the server. -/
theorem replyResult_eq (outcome : Option RpcResult) :
    replyResult (outcome.getD handlerException) = normalised outcome := by
  cases outcome with
  | none => rfl
  | some r =>
    simp only [replyResult, normalised, Option.getD_some, invalidReplyResult_iff]
    by_cases h : Consistent r
    · rw [if_neg (not_not.mpr h), if_pos h]
    · rw [if_pos h, if_neg h]

/-! ### Responses -/

theorem effectiveMaxMessageSize_bounds (cfg : Config) :
    0 < cfg.effectiveMaxMessageSize ∧ cfg.effectiveMaxMessageSize ≤ kMaxMessageSize := by
  unfold Config.effectiveMaxMessageSize
  cases hsize : cfg.maxMessageSize_ with
  | none => exact ⟨by decide, le_refl _⟩
  | some n => exact cfg.maxMessageSize_bounds n hsize

/-- A consistent result that fits a message is a valid response. -/
theorem Consistent.valid (h : Consistent r) (requestId : UInt64)
    (hlen : RpcResponse.OutputMessageLen r.payload.length r.errorMessage.length ≤
      kMaxMessageSize) : (resultResponse requestId r).Valid := by
  have hpayload : r.payload.length ≤ UINT32_MAX := by
    simp only [RpcResponse.OutputMessageLen, kMaxMessageSize] at hlen
    simp only [UINT32_MAX]
    omega
  have herrorMessage : r.errorMessage.length ≤ UINT32_MAX := by
    simp only [RpcResponse.OutputMessageLen, kMaxMessageSize] at hlen
    simp only [UINT32_MAX]
    omega
  rcases h with ⟨hresult, hcode, hmessage⟩ | ⟨hresult, hcode, hlt, hempty⟩
  · constructor <;> simp only [resultResponse]
    · exact hpayload
    · exact herrorMessage
    · exact .inl hresult
    · rw [hcode]
      decide
    · exact iff_of_true hcode hresult
    · intro _
      exact hmessage
    · intro hun
      exact absurd (hresult.symm.trans hun) RpcResponse.kSuccess_ne_kUnsuccess
  · constructor <;> simp only [resultResponse]
    · exact hpayload
    · exact herrorMessage
    · exact .inr hresult
    · exact hlt
    · refine iff_of_false hcode fun hsuccess => ?_
      exact RpcResponse.kSuccess_ne_kUnsuccess (hsuccess.symm.trans hresult)
    · intro hsuccess
      exact absurd (hsuccess.symm.trans hresult) RpcResponse.kSuccess_ne_kUnsuccess
    · intro _
      exact hempty

/-- The length of the response that says that a response is too large. -/
def tooLargeLen : ℕ := RpcResponse.OutputMessageLen 0 (text "rpc message too large").length

theorem tooLarge_valid (requestId : UInt64) : (tooLarge requestId).Valid := by
  constructor <;> simp only [tooLarge] <;> decide

/-- The response to a consistent result can be encoded. -/
theorem Consistent.limitedResponse_valid (h : Consistent r) (requestId : UInt64)
    (hmax : maxMessageSize ≤ kMaxMessageSize) :
    (limitedResponse maxMessageSize requestId r).Valid := by
  unfold limitedResponse
  split_ifs with hlarge
  · exact tooLarge_valid requestId
  · exact h.valid requestId (by omega)

theorem answer_of_fits (h : Consistent r) (requestId : UInt64)
    (hlen : RpcResponse.OutputMessageLen r.payload.length r.errorMessage.length ≤ maxMessageSize)
    (hmax : maxMessageSize ≤ kMaxMessageSize) :
    answer maxMessageSize requestId r = some (resultResponse requestId r).fields.flatten := by
  have hvalid := h.valid requestId (hlen.trans hmax)
  have hroom : ¬ maxMessageSize < RpcResponse.OutputMessageLen
      (resultResponse requestId r).payload_.length
      (resultResponse requestId r).errorMessage_.length := not_lt.mpr hlen
  unfold answer limitedResponse
  simp only [if_neg (not_lt.mpr hlen), if_neg hroom, RpcResponse.encode_eq hvalid]
  simp

theorem answer_of_large (requestId : UInt64)
    (hlen : maxMessageSize <
      RpcResponse.OutputMessageLen r.payload.length r.errorMessage.length) :
    answer maxMessageSize requestId r =
      if maxMessageSize < tooLargeLen then none
      else some (tooLarge requestId).fields.flatten := by
  have hroom : RpcResponse.OutputMessageLen (tooLarge requestId).payload_.length
      (tooLarge requestId).errorMessage_.length = tooLargeLen := rfl
  unfold answer limitedResponse
  simp only [gt_iff_lt, if_pos hlen, hroom, RpcResponse.encode_eq (tooLarge_valid requestId)]
  simp

/-- A frame that answers fits, and carries a valid response with the id. -/
theorem answer_spec {requestId : UInt64} {output : Bytes} (h : Consistent r)
    (hmax : maxMessageSize ≤ kMaxMessageSize)
    (houtput : answer maxMessageSize requestId r = some output) :
    output = (limitedResponse maxMessageSize requestId r).fields.flatten ∧
      output.length ≤ maxMessageSize := by
  by_cases hlen : RpcResponse.OutputMessageLen r.payload.length r.errorMessage.length ≤
      maxMessageSize
  · rw [answer_of_fits h requestId hlen hmax] at houtput
    obtain rfl := Option.some.inj houtput
    rw [limitedResponse, if_neg (not_lt.mpr hlen)]
    exact ⟨rfl, (RpcResponse.length_flatten_fields _).trans_le hlen⟩
  · rw [answer_of_large requestId (not_le.mp hlen)] at houtput
    rw [limitedResponse, if_pos (not_le.mp hlen)]
    split_ifs at houtput with hroom
    obtain rfl := Option.some.inj houtput
    exact ⟨rfl, (RpcResponse.length_flatten_fields _).trans_le (not_lt.mp hroom)⟩

/-! ### What is done on the connection -/

/-- A frame is sent, or the connection is closed. -/
def act (s : State) (conn : ConnId) (requestId : UInt64) (origin : Origin) : Option Bytes → State
  | none => forceClose s conn
  | some output => s.send conn output (.responded conn requestId origin output)

theorem sendFramedData_eq_act {s : State} {conn : ConnId}
    (hconnected : (s.connections conn).connected = true) (requestId : UInt64) (origin : Origin)
    (r : RpcResult) (maxMessageSize : ℕ) :
    sendFramedData s conn requestId origin r maxMessageSize =
      act s conn requestId origin (answer maxMessageSize requestId r) := by
  rw [sendFramedData_eq_answer]
  cases answer maxMessageSize requestId r with
  | none => rfl
  | some output =>
    simp only [hconnected]
    rfl

theorem sendResponse_eq_act {s : State} {conn : ConnId}
    (hconnected : (s.connections conn).connected = true) (requestId : UInt64) (origin : Origin)
    (r : RpcResult) : sendResponse cfg s conn requestId origin r =
      act s conn requestId origin (answer cfg.effectiveMaxMessageSize requestId r) := by
  rw [sendResponse_eq]
  exact sendFramedData_eq_act hconnected requestId origin r _

/-- A queued reply that finds a token that is not cancelled is answered. -/
theorem runReply_eq {s : State} {inv : Invocation} {token : TokenId}
    (hfound : s.cancellationRegistry_.find? inv.conn inv.request.requestId_ = some token)
    (htoken : token ∉ s.cancellationRegistry_.canceled_) (r : RpcResult) :
    runReply cfg s inv r =
      sendFramedData { s with cancellationRegistry_ :=
        (s.cancellationRegistry_.take inv.conn inv.request.requestId_).2 } inv.conn
        inv.request.requestId_ (.reply inv.frame token) r cfg.effectiveMaxMessageSize := by
  have hfst := (s.cancellationRegistry_.take_fst inv.conn inv.request.requestId_).trans hfound
  have hcanceled := s.cancellationRegistry_.canceled_take inv.conn inv.request.requestId_
  unfold runReply
  simp only [hfst, hcanceled]
  rw [if_neg htoken]

theorem tasks_release (s : State) (k : ℕ) (t : Thread) : (s.release k t).tasks = s.tasks := by
  cases t <;> rfl

/-! ### Both paths -/

/-- Both paths answer an outcome with the same frame, or close the connection. -/
structure AnsweredAlike (cfg : Config) (requestId : UInt64) (outcome : Option RpcResult)
    (action : Option Bytes) : Prop where
  /-- The synchronous path. -/
  sync : ∀ (s : State) (frame : FrameId) (conn : ConnId) (request : RpcRequest)
    (handler : RpcHandler), request.requestId_ = requestId →
    cfg.syncHandlers_.find? request.service_ request.method_ = some handler →
    (s.connections conn).connected = true →
    invokeSyncHandler cfg s frame conn request outcome =
      act ((s.emit (.invoked frame conn request (.sync handler))).emit (.finished frame outcome))
        conn requestId (.direct frame) action
  /-- The asynchronous path: the reply object, called with the result or, after an exception, by the
  server, queues the checked result. -/
  queued : ∀ (s s' : State) (k : ℕ) (t : Thread) (inv : Invocation),
    s.running[k]? = some (t, .reply inv (outcome.getD handlerException)) →
    step cfg s (.queueReply k) = some s' → s'.tasks =
      s.tasks ++ [(cfg.loopOf inv.conn, .reply inv (replyResult (outcome.getD handlerException)))]
  /-- The task that is queued, when it finds its token. -/
  async : ∀ (s : State) (inv : Invocation) (token : TokenId),
    inv.request.requestId_ = requestId →
    s.cancellationRegistry_.find? inv.conn requestId = some token →
    token ∉ s.cancellationRegistry_.canceled_ → (s.connections inv.conn).connected = true →
    runReply cfg s inv (replyResult (outcome.getD handlerException)) =
      act { s with
        cancellationRegistry_ := (s.cancellationRegistry_.take inv.conn requestId).2 } inv.conn
        requestId (.reply inv.frame token) action
  /-- What is sent fits and is accepted with the id. -/
  sent : ∀ output, action = some output → output.length ≤ cfg.effectiveMaxMessageSize ∧
    ∃ response : RpcResponse, response.requestId_ = requestId ∧
      ∀ (self : RpcResponse) (err : Bytes), self.decode output err = (true, response, err)
  /-- The connection is closed exactly when there is no room for the error that says so. -/
  closed : action = none ↔
    cfg.effectiveMaxMessageSize < RpcResponse.OutputMessageLen
      (normalised outcome).payload.length (normalised outcome).errorMessage.length ∧
    cfg.effectiveMaxMessageSize < tooLargeLen
  /-- Once the result has been checked, encoding does not fail. -/
  encodes : ∀ output err : Bytes, ((limitedResponse cfg.effectiveMaxMessageSize requestId
    (normalised outcome)).encode output err).1 = true
  /-- A consistent result that fits is delivered as it is. -/
  delivered : ∀ r, outcome = some r → Consistent r →
    RpcResponse.OutputMessageLen r.payload.length r.errorMessage.length ≤
      cfg.effectiveMaxMessageSize →
    ∃ output, action = some output ∧ ∀ (self : RpcResponse) (err : Bytes),
      self.decode output err = (true, resultResponse requestId r, err)

/-- **Outcomes of handlers become well-formed responses**, in the same way on both paths. -/
theorem answeredAlike (cfg : Config) (requestId : UInt64) (outcome : Option RpcResult) :
    AnsweredAlike cfg requestId outcome
      (answer cfg.effectiveMaxMessageSize requestId (normalised outcome)) := by
  have hmax := (effectiveMaxMessageSize_bounds cfg).2
  have hconsistent := consistent_normalised outcome
  have hvalid := hconsistent.limitedResponse_valid requestId hmax
  constructor
  · rintro s frame conn request handler rfl hhandler hconnected
    rw [invokeSyncHandler_eq hhandler, syncResult_eq]
    apply sendFramedData_eq_act
    exact hconnected
  · intro s s' k t inv hk hs
    cases stepped_of_step hs with
    | queueReply hk' =>
      obtain ⟨rfl, hreply⟩ := Prod.mk.inj (Option.some.inj (hk'.symm.trans hk))
      obtain ⟨rfl, rfl⟩ := Activity.reply.inj hreply
      rw [tasks_release]
      rfl
  · rintro s inv token rfl hfound htoken hconnected
    rw [replyResult_eq, runReply_eq hfound htoken]
    apply sendFramedData_eq_act
    exact hconnected
  · intro output houtput
    obtain ⟨rfl, hlen⟩ := answer_spec hconsistent hmax houtput
    refine ⟨hlen, limitedResponse cfg.effectiveMaxMessageSize requestId (normalised outcome),
      requestId_limitedResponse _ _ _, ?_⟩
    exact RpcResponse.decode_encode hvalid
  · by_cases hlen : RpcResponse.OutputMessageLen (normalised outcome).payload.length
        (normalised outcome).errorMessage.length ≤ cfg.effectiveMaxMessageSize
    · rw [answer_of_fits hconsistent requestId hlen hmax]
      simp [hlen]
    · rw [answer_of_large requestId (not_le.mp hlen)]
      simp [not_le.mp hlen]
  · intro output err
    rw [RpcResponse.encode_eq hvalid]
  · rintro r rfl hr hlen
    refine ⟨_, ?_, RpcResponse.decode_encode (hr.valid requestId (hlen.trans hmax))⟩
    rw [normalised, if_pos hr]
    exact answer_of_fits hr requestId hlen hmax

end MiniRpc.RpcServer
