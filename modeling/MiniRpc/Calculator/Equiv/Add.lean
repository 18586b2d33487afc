import MiniRpc.Calculator.Basic
import MiniRpc.RpcServer.Equiv.Registrations

/-!
# `Add` from one end to the other

The operands that a client encodes are those the handler decodes (`requestDecode_requestEncode`),
the handler adds them without wrapping (`toInt_sum`), and the value it encodes is the one the
client's callback decodes (`resultDecode_resultEncode`).  What the handler returns is a consistent
result (`consistent_add`), so it is delivered as it is.
-/

namespace MiniRpc

/-! ### Messages -/

namespace CalculatorProtocol

theorem int32Bytes_eq (x : Int32) : int32Bytes x = beBytes 4 x.toUInt32.toNat := by
  show toMemory host 4 (if host = .little then hton 4 x.toUInt32.toNat else x.toUInt32.toNat) = _
  rw [if_pos (show host = .little from rfl)]
  exact toMemory_swap host 4 _

@[simp] theorem length_int32Bytes (x : Int32) : (int32Bytes x).length = 4 := by
  rw [int32Bytes_eq, length_beBytes]

theorem ofInt32Bytes_int32Bytes (x : Int32) : ofInt32Bytes (int32Bytes x) = x := by
  have hswap := swap_ofMemory host (int32Bytes x)
  have hlt : x.toUInt32.toNat < 256 ^ 4 := x.toUInt32.toNat_lt
  rw [length_int32Bytes] at hswap
  unfold ofInt32Bytes hton
  simp only [if_pos (show host = .little from rfl)]
  rw [hswap, int32Bytes_eq, ofBE_beBytes_of_lt hlt, UInt32.ofNat_toNat, Int32.toInt32_toUInt32]

theorem requestEncode_eq (p : CalculatorProtocol) :
    p.requestEncode = int32Bytes p.a_ ++ int32Bytes p.b_ := by
  unfold requestEncode
  rw [writeFields_eq _ _ (by simp)]
  simp

theorem resultEncode_eq (p : CalculatorProtocol) : p.resultEncode = int32Bytes p.result_ := by
  unfold resultEncode
  rw [writeFields_eq _ _ (by simp)]
  simp

theorem requestDecode_requestEncode (p self : CalculatorProtocol) (errorMessage : Bytes) :
    self.requestDecode p.requestEncode errorMessage =
      (true, { self with a_ := p.a_, b_ := p.b_ }, []) := by
  have hlen : (int32Bytes p.a_ ++ int32Bytes p.b_).length = 8 := by simp
  have htake : (int32Bytes p.a_ ++ int32Bytes p.b_).take 4 = int32Bytes p.a_ :=
    List.take_left' (length_int32Bytes _)
  have hdrop : ((int32Bytes p.a_ ++ int32Bytes p.b_).drop 4).take 4 = int32Bytes p.b_ := by
    rw [List.drop_left' (length_int32Bytes _), List.take_of_length_le (length_int32Bytes _).le]
  rw [requestEncode_eq, requestDecode, if_neg (not_not.mpr hlen), htake, hdrop,
    ofInt32Bytes_int32Bytes, ofInt32Bytes_int32Bytes]

theorem requestDecode_of_length {msg : Bytes} (h : msg.length ≠ 8) (self : CalculatorProtocol)
    (errorMessage : Bytes) : self.requestDecode msg errorMessage =
      (false, self, text "invalid add request") := by
  rw [requestDecode, if_pos h, List.nil_append]

theorem resultDecode_resultEncode (p self : CalculatorProtocol) (errorMessage : Bytes) :
    self.resultDecode p.resultEncode errorMessage =
      (true, { self with result_ := p.result_ }, []) := by
  have hlen : (int32Bytes p.result_).length = 4 := length_int32Bytes _
  rw [resultEncode_eq, resultDecode, if_neg (not_not.mpr hlen), List.take_of_length_le hlen.le,
    ofInt32Bytes_int32Bytes]

theorem resultDecode_of_length {msg : Bytes} (h : msg.length ≠ 4) (self : CalculatorProtocol)
    (errorMessage : Bytes) : self.resultDecode msg errorMessage =
      (false, self, text "invalid result response") := by
  rw [resultDecode, if_pos h, List.nil_append]

end CalculatorProtocol

/-! ### The handler -/

namespace CalculatorService

open RpcServer

/-- The sum of the operands is an `int32_t`. -/
def Fits (a b : Int32) : Prop :=
  Int32.minValue.toInt ≤ a.toInt + b.toInt ∧ a.toInt + b.toInt ≤ Int32.maxValue.toInt

/-- The widened sum does not wrap. -/
theorem toInt_sum (a b : Int32) : (a.toInt64 + b.toInt64).toInt = a.toInt + b.toInt := by
  have ha := a.toInt_lt
  have ha' := a.le_toInt
  have hb := b.toInt_lt
  have hb' := b.le_toInt
  rw [Int64.toInt_add, Int32.toInt_toInt64, Int32.toInt_toInt64]
  apply Int.bmod_eq_of_le
  · omega
  · omega

/-- The test of the handler for an overflow. -/
theorem overflow_iff (a b : Int32) :
    (a.toInt64 + b.toInt64 > Int32.maxValue.toInt64 ∨
      a.toInt64 + b.toInt64 < Int32.minValue.toInt64) ↔ ¬ Fits a b := by
  rw [gt_iff_lt, Int64.lt_iff_toInt_lt, Int64.lt_iff_toInt_lt, toInt_sum, Int32.toInt_toInt64,
    Int32.toInt_toInt64]
  unfold Fits
  omega

/-- A sum that fits is the same narrowed. -/
theorem toInt_narrowed {a b : Int32} (h : Fits a b) :
    (a.toInt64 + b.toInt64).toInt32.toInt = a.toInt + b.toInt := by
  obtain ⟨hle, hge⟩ := h
  rw [Int32.toInt_minValue] at hle
  rw [Int32.toInt_maxValue] at hge
  rw [Int64.toInt_toInt32, toInt_sum]
  apply Int.bmod_eq_of_le
  · omega
  · omega

theorem add_of_fits {a b : Int32} (h : Fits a b) :
    add (CalculatorProtocol.ofOperands a b).requestEncode =
      .ofResult kSuccess
        (CalculatorProtocol.resultEncode ⟨a, b, (a.toInt64 + b.toInt64).toInt32⟩) [] := by
  unfold add
  simp only [CalculatorProtocol.requestDecode_requestEncode]
  rw [if_neg (by simp)]
  exact if_neg ((overflow_iff a b).not.mpr (not_not.mpr h))

theorem add_of_overflow {a b : Int32} (h : ¬ Fits a b) :
    add (CalculatorProtocol.ofOperands a b).requestEncode =
      .ofResult kUnsuccess [] (text "integer overflow") := by
  unfold add
  simp only [CalculatorProtocol.requestDecode_requestEncode]
  rw [if_neg (by simp)]
  exact if_pos ((overflow_iff a b).mpr h)

theorem add_of_length {payload : Bytes} (h : payload.length ≠ 8) :
    add payload = .ofResult kUnsuccess [] (text "invalid add request") := by
  unfold add
  simp only [CalculatorProtocol.requestDecode_of_length h]
  exact if_pos (.inl trivial)

/-- The handler returns a consistent result, which is short. -/
theorem consistent_add (payload : Bytes) : Consistent (add payload) ∧
    RpcResponse.OutputMessageLen (add payload).payload.length
      (add payload).errorMessage.length ≤ 41 := by
  have hlen : ∀ p : CalculatorProtocol, p.resultEncode.length = 4 := by
    intro p
    rw [CalculatorProtocol.resultEncode_eq, CalculatorProtocol.length_int32Bytes]
  unfold add
  dsimp only
  split_ifs
  · decide
  · decide
  · constructor
    · left
      exact ⟨rfl, rfl, rfl⟩
    · simp only [RpcResult.ofResult, hlen]
      decide

end CalculatorService

/-! ### From one end to the other -/

namespace CalculatorService

open RpcServer CalculatorClient

/-- The handler's result for the payload is encoded and decoded, and the callback gets `result`. -/
def Delivers (requestId : UInt64) (payload : Bytes) (result : AddResult) : Prop :=
  ∀ (output err : Bytes) (self : RpcResponse) (err' : Bytes),
    let encoded := (resultResponse requestId (add payload)).encode output err
    let decoded := self.decode encoded.2.1 err'
    encoded.1 = true ∧ decoded.1 = true ∧ wrapAddCallback decoded.2.1 = result

/-- Encoding and decoding hand the handler's result to the callback. -/
theorem delivers (requestId : UInt64) (payload : Bytes) :
    Delivers requestId payload (wrapAddCallback (resultResponse requestId (add payload))) := by
  obtain ⟨hconsistent, hlen⟩ := consistent_add payload
  have hvalid := hconsistent.valid requestId (hlen.trans (by decide))
  intro output err self err'
  dsimp only
  rw [RpcResponse.encode_eq hvalid, RpcResponse.decode_encode hvalid]
  exact ⟨rfl, rfl, rfl⟩

/-- `Add` is correct. -/
structure AddCorrect : Prop where
  /-- A sum that fits is delivered. -/
  sum : ∀ (requestId : UInt64) (a b : Int32), Fits a b →
    ∃ value : Int32, value.toInt = a.toInt + b.toInt ∧
      Delivers requestId (CalculatorProtocol.ofOperands a b).requestEncode
        ⟨kSuccess, .NO_ERROR, value, []⟩
  /-- A sum that does not fit is an error. -/
  overflow : ∀ (requestId : UInt64) (a b : Int32), ¬ Fits a b →
    Delivers requestId (CalculatorProtocol.ofOperands a b).requestEncode
      ⟨kUnsuccess, .BUSINESS_ERROR, 0, text "integer overflow"⟩
  /-- A payload of another length is an error. -/
  badRequest : ∀ (requestId : UInt64) (payload : Bytes), payload.length ≠ 8 →
    Delivers requestId payload ⟨kUnsuccess, .BUSINESS_ERROR, 0, text "invalid add request"⟩
  /-- A success whose payload is not an `int32_t` is an error. -/
  badResponse : ∀ response : RpcResponse, response.responseResult_ = kSuccess →
    response.payload_.length ≠ 4 → wrapAddCallback response =
      ⟨kUnsuccess, .INTERNAL_ERROR, 0, text "invalid result response"⟩
  /-- The handler that was registered serves the requests of `CalculatorClient::add`, and what is
  sent is the encoding of its result. -/
  served : ∀ (calls : List Registrations.Call) (handler : RpcHandler),
    let out := registerCalculatorService (.after calls) handler
    out.1 = true → ∀ (cfg : RpcServer.Config), out.2.Of cfg → 41 ≤ cfg.effectiveMaxMessageSize →
    ∀ (s : State) (frame : FrameId) (conn : ConnId), (s.connections conn).connected = true →
    ∀ (client : RpcClient.Config) (a b : Int32) (callback : RpcClient.RpcCallback)
      (request : RpcRequest),
    request.service_ = (CalculatorClient.add client a b callback).service →
    request.method_ = (CalculatorClient.add client a b callback).method →
    dispatch cfg s frame conn request (some (add request.payload_)) =
      act ((s.emit (.invoked frame conn request (.sync handler))).emit
        (.finished frame (some (add request.payload_)))) conn request.requestId_ (.direct frame)
        (some ((resultResponse request.requestId_ (add request.payload_)).encode [] []).2.1)

/-- **`Add` is correct end to end.** -/
theorem addCorrect : AddCorrect where
  sum requestId a b h := by
    refine ⟨(a.toInt64 + b.toInt64).toInt32, toInt_narrowed h, ?_⟩
    have hdelivers := delivers requestId (CalculatorProtocol.ofOperands a b).requestEncode
    rw [add_of_fits h] at hdelivers
    unfold wrapAddCallback at hdelivers
    rw [if_pos (show (resultResponse requestId (RpcResult.ofResult kSuccess _ [])).responseResult_ =
      kSuccess from rfl)] at hdelivers
    simp only [resultResponse, RpcResult.ofResult, CalculatorProtocol.resultDecode_resultEncode]
      at hdelivers
    rwa [if_neg (by simp)] at hdelivers
  overflow requestId a b h := by
    have hdelivers := delivers requestId (CalculatorProtocol.ofOperands a b).requestEncode
    rw [add_of_overflow h] at hdelivers
    exact hdelivers
  badRequest requestId payload h := by
    have hdelivers := delivers requestId payload
    rw [add_of_length h] at hdelivers
    exact hdelivers
  badResponse response hresult hlen := by
    unfold wrapAddCallback
    simp only [if_pos hresult, CalculatorProtocol.resultDecode_of_length hlen]
    exact if_pos (.inl trivial)
  served calls handler := by
    dsimp only
    intro hregistered cfg hcfg hmax s frame conn hconnected client a b callback request hservice
      hmethod
    obtain ⟨hconsistent, hlen⟩ := consistent_add request.payload_
    have hvalid := hconsistent.valid request.requestId_ (hlen.trans (by decide))
    have hfits := answer_of_fits hconsistent request.requestId_ (hlen.trans hmax)
      (effectiveMaxMessageSize_bounds cfg).2
    -- the handler that was registered is the one that is found
    have hhandler : (registerCalculatorService (.after calls) handler).2.handler?
        (text "Calculator") (text "Add") = some (.sync handler) := by
      have hadded := ((represents_after calls).registration (text "Calculator") (text "Add")
        (.sync handler)).2 hregistered (text "Calculator") (text "Add")
      rwa [if_pos ⟨rfl, rfl⟩] at hadded
    have hfound : (registerCalculatorService (.after calls) handler).2.handler? request.service_
        request.method_ = some (.sync handler) := by
      rw [hservice, hmethod]
      exact hhandler
    rw [Registrations.dispatch_eq hcfg hconnected, hfound, serve, normalised, if_pos hconsistent,
      hfits, RpcResponse.encode_eq hvalid]

end CalculatorService

end MiniRpc
