import MiniRpc.RpcMessage.Basic

/-!
# What one end encodes, the other end decodes

A request whose strings fit the length fields, a valid response and every cancel encode to the
concatenation of their fields, whatever the output held before (`encode_eq`), and decoding those
bytes gives the message back (`decode_encode`).  `decodeHead` sees the message's type
(`decodeHead_fields`).

An integer field is the big-endian bytes of its value on either host (`netBytes_eq`,
`hostValue_netBytes`).  Decoding goes through the message field by field: each read takes the field
off the front of what is left (`Reader.read_ok`).
-/

namespace MiniRpc

/-! ### Integer fields -/

theorem netBytes_eq (w n : ℕ) : netBytes w n = beBytes w n := toMemory_swap host w n

@[simp] theorem length_netBytes (w n : ℕ) : (netBytes w n).length = w := length_toMemory _ _ _

theorem hostValue_netBytes {w n : ℕ} (h : n < 256 ^ w) : hostValue w (netBytes w n) = n := by
  have hlen := length_netBytes w n
  have hswap := swap_ofMemory host (netBytes w n)
  rw [hlen, netBytes_eq, ofBE_beBytes_of_lt h] at hswap
  rw [netBytes_eq]
  exact hswap

theorem hostValue_requestId (id : UInt64) :
    hostValue REQUEST_ID_LEN (netBytes REQUEST_ID_LEN id.toNat) = id.toNat :=
  hostValue_netBytes id.toNat_lt

theorem read_netBytes {c : ReadCursor} {w n : ℕ} {bs : Bytes} (h : c.At (netBytes w n ++ bs))
    (err : Bytes) :
    ∃ c', (Reader.read w err).runFrom c = (.ok (netBytes w n), c') ∧ c'.At bs := by
  have hread := Reader.read_ok h err
  rwa [length_netBytes] at hread

/-! ### Heads and strings -/

/-- The bytes of a message before its type-specific fields. -/
def headBytes (type : RpcMessageType) (id : UInt64) : Bytes :=
  netBytes VERSION_LEN kRpcProtocolVersion ++ netBytes REQUEST_TYPE_LEN type.value ++
    netBytes REQUEST_ID_LEN id.toNat

theorem value_lt (type : RpcMessageType) : type.value < 256 ^ 1 := by
  cases type <;> decide

theorem decodeHead_headBytes (type : RpcMessageType) (id : UInt64) (bs : Bytes) :
    decodeHead (headBytes type id ++ bs) = some type := by
  have hversion : hostValue VERSION_LEN (netBytes VERSION_LEN kRpcProtocolVersion) =
      kRpcProtocolVersion := hostValue_netBytes (by decide)
  have htype : hostValue REQUEST_TYPE_LEN (netBytes REQUEST_TYPE_LEN type.value) = type.value :=
    hostValue_netBytes (value_lt type)
  have htake : (headBytes type id ++ bs).take VERSION_LEN =
      netBytes VERSION_LEN kRpcProtocolVersion := by
    rw [headBytes, List.append_assoc, List.append_assoc]
    exact List.take_left' (length_netBytes _ _)
  have hdrop : ((headBytes type id ++ bs).drop VERSION_LEN).take REQUEST_TYPE_LEN =
      netBytes REQUEST_TYPE_LEN type.value := by
    rw [headBytes, List.append_assoc, List.append_assoc, List.drop_left' (length_netBytes _ _)]
    exact List.take_left' (length_netBytes _ _)
  -- the request id alone is longer than what `decodeHead` reads
  have hlen : ¬ (headBytes type id ++ bs).length < VERSION_LEN + REQUEST_TYPE_LEN := by
    simp only [headBytes, List.length_append, length_netBytes, VERSION_LEN, REQUEST_TYPE_LEN,
      REQUEST_ID_LEN]
    omega
  rw [decodeHead, if_neg hlen]
  simp only [htake, hdrop, hversion, htype]
  cases type <;> rfl

theorem readHead_ok {c : ReadCursor} {type : RpcMessageType} {id : UInt64} {bs : Bytes}
    (h : c.At (headBytes type id ++ bs)) (illegalType : Bytes) :
    ∃ c', (readHead type illegalType).runFrom c = (.ok id.toNat, c') ∧ c'.At bs := by
  have hleft := Reader.leftLen_ok h
  have hpos : ¬ (headBytes type id ++ bs).length ≤ 0 := by
    simp [headBytes, VERSION_LEN]
  rw [headBytes, List.append_assoc, List.append_assoc] at h
  obtain ⟨c₁, hread₁, h₁⟩ := read_netBytes h (text "version length error")
  obtain ⟨c₂, hread₂, h₂⟩ := read_netBytes h₁ (text "type length error")
  obtain ⟨c₃, hread₃, h₃⟩ := read_netBytes h₂ (text "request id length error")
  have hversion : ¬ hostValue VERSION_LEN (netBytes VERSION_LEN kRpcProtocolVersion) ≠
      kRpcProtocolVersion := not_not.mpr (hostValue_netBytes (by decide))
  have htype : ¬ hostValue REQUEST_TYPE_LEN (netBytes REQUEST_TYPE_LEN type.value) ≠ type.value :=
    not_not.mpr (hostValue_netBytes (value_lt type))
  refine ⟨c₃, ?_, h₃⟩
  rw [readHead, Reader.run_bind_ok hleft, Reader.run_bind_ok (Reader.failIf_ok hpos _ _),
    Reader.run_bind_ok hread₁, Reader.run_bind_ok (Reader.failIf_ok hversion _ _),
    Reader.run_bind_ok hread₂, Reader.run_bind_ok (Reader.failIf_ok htype _ _),
    Reader.run_bind_ok hread₃, hostValue_requestId]
  rfl

theorem loadString_ok {c : ReadCursor} {s bs : Bytes} (hs : s.length ≤ UINT32_MAX)
    (h : c.At (netBytes 4 s.length ++ (s ++ bs))) (err : Bytes) :
    ∃ c', (loadString err).runFrom c = (.ok s, c') ∧ c'.At bs := by
  have hlt : s.length < 256 ^ 4 := lt_of_le_of_lt hs (by decide)
  obtain ⟨c₁, hread₁, h₁⟩ := read_netBytes h err
  obtain ⟨c₂, hread₂, h₂⟩ := Reader.read_ok h₁ err
  refine ⟨c₂, ?_, h₂⟩
  rw [loadString, Reader.run_bind_ok hread₁, hostValue_netBytes hlt]
  exact hread₂

/-- Nothing is left at the end of the message. -/
theorem leftLen_nil {c : ReadCursor} (h : c.At []) : Reader.leftLen.runFrom c = (.ok 0, c) :=
  Reader.leftLen_ok h

theorem decodeWith_ok {α : Type} {fields : Reader α} {msg : Bytes} {value : α} {c : ReadCursor}
    (h : fields.runFrom (.start msg) = (.ok value, c)) (self : α) (errorMsg : Bytes) :
    decodeWith fields self msg errorMsg = (true, value, errorMsg) := by
  rw [decodeWith, h]

theorem writeFields_eq (output : Bytes) (fields : List Bytes) {msgLen : ℕ}
    (h : msgLen = fields.flatten.length) : writeFields msgLen output fields = fields.flatten :=
  WriteCursor.data_fill_resize output fields msgLen h

/-! ### Requests -/

namespace RpcRequest

/-- The strings fit the length fields. -/
structure Encodable (r : RpcRequest) : Prop where
  service : r.service_.length ≤ UINT32_MAX
  method : r.method_.length ≤ UINT32_MAX
  payload : r.payload_.length ≤ UINT32_MAX

theorem flatten_fields (r : RpcRequest) :
    r.fields.flatten = headBytes .kRequest r.requestId_ ++
      (netBytes 4 r.service_.length ++ (r.service_ ++ (netBytes 4 r.method_.length ++
        (r.method_ ++ (netBytes 4 r.payload_.length ++ (r.payload_ ++ [])))))) := by
  simp only [fields, headBytes, List.flatten_cons, List.flatten_nil, List.append_assoc,
    VERSION_LEN, REQUEST_TYPE_LEN, REQUEST_ID_LEN]

theorem length_flatten_fields (r : RpcRequest) :
    r.fields.flatten.length =
      OutputMessageLen r.service_.length r.method_.length r.payload_.length := by
  simp only [fields, List.flatten_cons, List.flatten_nil, List.length_append, length_netBytes,
    List.length_nil, OutputMessageLen, VERSION_LEN, REQUEST_TYPE_LEN, REQUEST_ID_LEN,
    SERVICE_NAME_LEN, METHOD_NAME_LEN, PALOAD_MESSAGE_LEN]
  omega

theorem encode_eq {r : RpcRequest} (h : r.Encodable) (output errorMessage : Bytes) :
    r.encode output errorMessage = (true, r.fields.flatten, errorMessage) := by
  have hle : ¬ (r.service_.length > UINT32_MAX ∨ r.method_.length > UINT32_MAX ∨
      r.payload_.length > UINT32_MAX) := by
    have h1 := h.service
    have h2 := h.method
    have h3 := h.payload
    omega
  rw [encode, if_neg hle]
  simp only [writeFields_eq _ _ (length_flatten_fields r).symm]

/-- A request that does not fit is not encoded. -/
theorem encode_of_not_encodable {r : RpcRequest} (h : ¬ r.Encodable) (output errorMessage : Bytes) :
    r.encode output errorMessage =
      (false, output, errorMessage ++ text "service_ or method or payload out of capacity!") := by
  have hgt : r.service_.length > UINT32_MAX ∨ r.method_.length > UINT32_MAX ∨
      r.payload_.length > UINT32_MAX := by
    by_contra hle
    exact h ⟨by omega, by omega, by omega⟩
  rw [encode, if_pos hgt]

/-- A message within the largest frame size has strings that fit. -/
theorem encodable_of_outputMessageLen {r : RpcRequest}
    (h : OutputMessageLen r.service_.length r.method_.length r.payload_.length ≤
      kMaxMessageSize) : r.Encodable := by
  simp only [OutputMessageLen, kMaxMessageSize] at h
  constructor <;> simp only [UINT32_MAX] <;> omega

/-- **Decoding an encoded request gives it back.** -/
theorem decode_encode {r : RpcRequest} (h : r.Encodable) (self : RpcRequest) (errorMsg : Bytes) :
    self.decode r.fields.flatten errorMsg = (true, r, errorMsg) := by
  have hstart := ReadCursor.at_start r.fields.flatten
  rw [flatten_fields] at hstart
  obtain ⟨c₁, hrun₁, h₁⟩ := readHead_ok hstart (text "illegal request type")
  obtain ⟨c₂, hrun₂, h₂⟩ := loadString_ok h.service h₁ (text "service load error")
  obtain ⟨c₃, hrun₃, h₃⟩ := loadString_ok h.method h₂ (text "method load error")
  obtain ⟨c₄, hrun₄, h₄⟩ := loadString_ok h.payload h₃ (text "payload load error")
  have hrun : readFields.runFrom (.start r.fields.flatten) = (.ok r, c₄) := by
    rw [flatten_fields, readFields, Reader.run_bind_ok hrun₁, Reader.run_bind_ok hrun₂,
      Reader.run_bind_ok hrun₃, Reader.run_bind_ok hrun₄, Reader.run_bind_ok (leftLen_nil h₄),
      Reader.run_bind_ok (Reader.failIf_ok (by simp) _ _), UInt64.ofNat_toNat]
    rfl
  exact decodeWith_ok hrun _ _

theorem decodeHead_fields (r : RpcRequest) : decodeHead r.fields.flatten = some .kRequest := by
  rw [flatten_fields]
  exact decodeHead_headBytes _ _ _

end RpcRequest

/-! ### Responses -/

namespace RpcResponse

/-- The rule for responses: a success carries no error, a failure carries a defined error code and
no payload, and the strings fit the length fields. -/
structure Valid (r : RpcResponse) : Prop where
  payload_le : r.payload_.length ≤ UINT32_MAX
  errorMessage_le : r.errorMessage_.length ≤ UINT32_MAX
  result : r.responseResult_ = kSuccess ∨ r.responseResult_ = kUnsuccess
  code_lt : r.errorCode_.value < RpcErrorCode.ERROR_CODE_CNT.value
  code_iff : r.errorCode_ = .NO_ERROR ↔ r.responseResult_ = kSuccess
  errorMessage_nil : r.responseResult_ = kSuccess → r.errorMessage_ = []
  payload_nil : r.responseResult_ = kUnsuccess → r.payload_ = []

theorem kSuccess_ne_kUnsuccess : kSuccess ≠ kUnsuccess := by decide

/-! The checks of the encoder, none of which a valid response fails. -/

theorem Valid.no_traffic_error {r : RpcResponse} (h : r.Valid) :
    ¬ ((r.responseResult_ = kSuccess ∧ r.errorMessage_ ≠ []) ∨
      (r.responseResult_ = kUnsuccess ∧ r.payload_ ≠ [])) := by
  rintro (⟨hres, hne⟩ | ⟨hres, hne⟩)
  · exact hne (h.errorMessage_nil hres)
  · exact hne (h.payload_nil hres)

theorem Valid.legal_result {r : RpcResponse} (h : r.Valid) :
    ¬ (r.responseResult_ ≠ kSuccess ∧ r.responseResult_ ≠ kUnsuccess) := by
  rintro ⟨h1, h2⟩
  rcases h.result with hres | hres
  · exact h1 hres
  · exact h2 hres

theorem Valid.compatible_code {r : RpcResponse} (h : r.Valid) :
    ¬ ((r.responseResult_ = kSuccess ∧ r.errorCode_ ≠ .NO_ERROR) ∨
      (r.responseResult_ = kUnsuccess ∧ r.errorCode_ = .NO_ERROR)) := by
  rintro (⟨hres, hne⟩ | ⟨hres, heq⟩)
  · exact hne (h.code_iff.mpr hres)
  · exact kSuccess_ne_kUnsuccess ((h.code_iff.mp heq).symm.trans hres)

theorem flatten_fields (r : RpcResponse) :
    r.fields.flatten = headBytes .kResponse r.requestId_ ++
      (netBytes 1 r.responseResult_.value.toNat ++ (netBytes 2 r.errorCode_.value.toNat ++
        (netBytes 4 r.payload_.length ++ (r.payload_ ++ (netBytes 4 r.errorMessage_.length ++
          (r.errorMessage_ ++ [])))))) := by
  simp only [fields, headBytes, List.flatten_cons, List.flatten_nil, List.append_assoc,
    VERSION_LEN, REQUEST_TYPE_LEN, REQUEST_ID_LEN]

theorem length_flatten_fields (r : RpcResponse) :
    r.fields.flatten.length = OutputMessageLen r.payload_.length r.errorMessage_.length := by
  simp only [fields, List.flatten_cons, List.flatten_nil, List.length_append, length_netBytes,
    List.length_nil, OutputMessageLen, VERSION_LEN, REQUEST_TYPE_LEN, REQUEST_ID_LEN,
    RESPONSE_RESULT_LEN, ERROR_CODE_LEN, PALOAD_MESSAGE_LEN, ERROR_MESSAGE_LEN]
  omega

theorem encode_eq {r : RpcResponse} (h : r.Valid) (output errorMessage : Bytes) :
    r.encode output errorMessage = (true, r.fields.flatten, errorMessage) := by
  have hlen : ¬ (r.payload_.length > UINT32_MAX ∨ r.errorMessage_.length > UINT32_MAX) := by
    have h1 := h.payload_le
    have h2 := h.errorMessage_le
    omega
  have hcode : ¬ r.errorCode_.value ≥ RpcErrorCode.ERROR_CODE_CNT.value :=
    UInt16.not_le.mpr h.code_lt
  rw [encode, if_neg hlen, if_neg h.no_traffic_error, if_neg h.legal_result, if_neg hcode,
    if_neg h.compatible_code]
  simp only [writeFields_eq _ _ (length_flatten_fields r).symm]

/-- What the encoder accepts is valid. -/
theorem valid_of_encode {r : RpcResponse} {output errorMessage : Bytes}
    (h : (r.encode output errorMessage).1 = true) : r.Valid := by
  unfold encode at h
  split_ifs at h with hlen htraffic hresult hcode hcompatible
  rw [not_or, not_lt, not_lt] at hlen
  simp only [not_or, not_and_or, not_not] at htraffic hcompatible
  have hresult : r.responseResult_ = kSuccess ∨ r.responseResult_ = kUnsuccess := by
    rwa [not_and_or, not_not, not_not] at hresult
  refine ⟨hlen.1, hlen.2, hresult, UInt16.not_le.mp hcode, ⟨fun heq => ?_, fun heq => ?_⟩,
    fun heq => ?_, fun heq => ?_⟩
  · exact hresult.resolve_right fun hun => hcompatible.2.elim (absurd hun) (absurd heq)
  · exact hcompatible.1.resolve_left fun hne => hne heq
  · exact htraffic.1.resolve_left fun hne => hne heq
  · exact htraffic.2.resolve_left fun hne => hne heq

/-- **Decoding an encoded response gives it back.** -/
theorem decode_encode {r : RpcResponse} (h : r.Valid) (self : RpcResponse) (errorMsg : Bytes) :
    self.decode r.fields.flatten errorMsg = (true, r, errorMsg) := by
  have hstart := ReadCursor.at_start r.fields.flatten
  rw [flatten_fields] at hstart
  obtain ⟨c₁, hrun₁, h₁⟩ := readHead_ok hstart (text "illegal response type")
  obtain ⟨c₂, hrun₂, h₂⟩ := read_netBytes h₁ (text "response result length error")
  obtain ⟨c₃, hrun₃, h₃⟩ := read_netBytes h₂ (text "response result length error")
  obtain ⟨c₄, hrun₄, h₄⟩ := loadString_ok h.payload_le h₃ (text "payload load error")
  obtain ⟨c₅, hrun₅, h₅⟩ := loadString_ok h.errorMessage_le h₄ (text "error message load error")
  -- the checks on the integers are the checks on the enumerations
  have hresultValue : hostValue 1 (netBytes 1 r.responseResult_.value.toNat) =
      r.responseResult_.value.toNat := by
    apply hostValue_netBytes
    rcases h.result with hres | hres <;> rw [hres] <;> decide
  have hcodeValue : hostValue 2 (netBytes 2 r.errorCode_.value.toNat) =
      r.errorCode_.value.toNat := hostValue_netBytes r.errorCode_.value.toNat_lt
  have hresult : ∀ x : ResponseResult,
      hostValue 1 (netBytes 1 r.responseResult_.value.toNat) = x.value.toNat ↔
        r.responseResult_ = x := by
    intro x
    rw [hresultValue, UInt32.toNat_inj, ResponseResult.ext_iff]
  have hcode : hostValue 2 (netBytes 2 r.errorCode_.value.toNat) =
      RpcErrorCode.NO_ERROR.value.toNat ↔ r.errorCode_ = .NO_ERROR := by
    rw [hcodeValue, UInt16.toNat_inj, RpcErrorCode.ext_iff]
  have hcheck₁ : ¬ (hostValue 1 (netBytes 1 r.responseResult_.value.toNat) ≠ kSuccess.value.toNat ∧
      hostValue 1 (netBytes 1 r.responseResult_.value.toNat) ≠ kUnsuccess.value.toNat) := by
    rw [ne_eq, ne_eq, hresult, hresult]
    exact h.legal_result
  have hcheck₂ : ¬ hostValue 2 (netBytes 2 r.errorCode_.value.toNat) ≥
      RpcErrorCode.ERROR_CODE_CNT.value.toNat := by
    rw [hcodeValue]
    exact not_le.mpr (UInt16.lt_iff_toNat_lt.mp h.code_lt)
  have hcheck₃ : ¬ ((hostValue 1 (netBytes 1 r.responseResult_.value.toNat) =
      kSuccess.value.toNat ∧ hostValue 2 (netBytes 2 r.errorCode_.value.toNat) ≠
        RpcErrorCode.NO_ERROR.value.toNat) ∨
      (hostValue 1 (netBytes 1 r.responseResult_.value.toNat) = kUnsuccess.value.toNat ∧
        hostValue 2 (netBytes 2 r.errorCode_.value.toNat) =
          RpcErrorCode.NO_ERROR.value.toNat)) := by
    rw [ne_eq, hresult, hresult, hcode]
    exact h.compatible_code
  have hcheck₄ : ¬ ((hostValue 1 (netBytes 1 r.responseResult_.value.toNat) =
      kSuccess.value.toNat ∧ r.errorMessage_ ≠ []) ∨
      (hostValue 1 (netBytes 1 r.responseResult_.value.toNat) = kUnsuccess.value.toNat ∧
        r.payload_ ≠ [])) := by
    rw [hresult, hresult]
    exact h.no_traffic_error
  have hrun : readFields.runFrom (.start r.fields.flatten) = (.ok r, c₅) := by
    rw [flatten_fields, readFields, Reader.run_bind_ok hrun₁, Reader.run_bind_ok hrun₂,
      Reader.run_bind_ok (Reader.failIf_ok hcheck₁ _ _), Reader.run_bind_ok hrun₃,
      Reader.run_bind_ok (Reader.failIf_ok hcheck₂ _ _),
      Reader.run_bind_ok (Reader.failIf_ok hcheck₃ _ _), Reader.run_bind_ok hrun₄,
      Reader.run_bind_ok hrun₅, Reader.run_bind_ok (leftLen_nil h₅),
      Reader.run_bind_ok (Reader.failIf_ok (by simp) _ _),
      Reader.run_bind_ok (Reader.failIf_ok hcheck₄ _ _), hresultValue, hcodeValue,
      UInt64.ofNat_toNat, UInt32.ofNat_toNat, UInt16.ofNat_toNat]
    rfl
  exact decodeWith_ok hrun _ _

theorem decodeHead_fields (r : RpcResponse) : decodeHead r.fields.flatten = some .kResponse := by
  rw [flatten_fields]
  exact decodeHead_headBytes _ _ _

end RpcResponse

/-! ### Cancels -/

namespace RpcCancel

theorem flatten_fields (r : RpcCancel) :
    r.fields.flatten = headBytes .kCancel r.requestId_ ++ [] := by
  simp only [fields, headBytes, List.flatten_cons, List.flatten_nil, List.append_assoc,
    VERSION_LEN, REQUEST_TYPE_LEN, REQUEST_ID_LEN]

theorem encode_eq (r : RpcCancel) (output errorMessage : Bytes) :
    r.encode output errorMessage = (true, r.fields.flatten, errorMessage) := by
  have hlen : VERSION_LEN + REQUEST_TYPE_LEN + REQUEST_ID_LEN = r.fields.flatten.length := by
    simp only [fields, List.flatten_cons, List.flatten_nil, List.length_append, length_netBytes,
      List.length_nil, VERSION_LEN, REQUEST_TYPE_LEN, REQUEST_ID_LEN]
  simp only [encode, writeFields_eq _ _ hlen]

/-- **Decoding an encoded cancel gives it back.** -/
theorem decode_encode (r self : RpcCancel) (errorMsg : Bytes) :
    self.decode r.fields.flatten errorMsg = (true, r, errorMsg) := by
  have hstart := ReadCursor.at_start r.fields.flatten
  rw [flatten_fields] at hstart
  obtain ⟨c₁, hrun₁, h₁⟩ := readHead_ok hstart (text "illegal cancel type")
  have hrun : readFields.runFrom (.start r.fields.flatten) = (.ok r, c₁) := by
    rw [flatten_fields, readFields, Reader.run_bind_ok hrun₁, Reader.run_bind_ok (leftLen_nil h₁),
      Reader.run_bind_ok (Reader.failIf_ok (by simp) _ _), UInt64.ofNat_toNat]
    rfl
  exact decodeWith_ok hrun _ _

theorem decodeHead_fields (r : RpcCancel) : decodeHead r.fields.flatten = some .kCancel := by
  rw [flatten_fields]
  exact decodeHead_headBytes _ _ _

end RpcCancel

/-! ### Frames -/

namespace RpcMessage

theorem ofFrame?_request {r : RpcRequest} (h : r.Encodable) :
    ofFrame? r.fields.flatten = some (.request r) := by
  unfold ofFrame?
  simp only [RpcRequest.decodeHead_fields, RpcRequest.decode_encode h]

theorem ofFrame?_response {r : RpcResponse} (h : r.Valid) :
    ofFrame? r.fields.flatten = some (.response r) := by
  unfold ofFrame?
  simp only [RpcResponse.decodeHead_fields, RpcResponse.decode_encode h]

theorem ofFrame?_cancel (r : RpcCancel) : ofFrame? r.fields.flatten = some (.cancel r) := by
  unfold ofFrame?
  simp only [RpcCancel.decodeHead_fields, RpcCancel.decode_encode]

end RpcMessage

theorem carriesRequest_request {r : RpcRequest} (h : r.Encodable) (id : UInt64) :
    carriesRequest id r.fields.flatten = decide (r.requestId_ = id) := by
  simp only [carriesRequest, RpcMessage.ofFrame?_request h]

theorem carriesCancel_request {r : RpcRequest} (h : r.Encodable) (id : UInt64) :
    carriesCancel id r.fields.flatten = false := by
  simp only [carriesCancel, RpcMessage.ofFrame?_request h]

theorem carriesRequest_cancel (r : RpcCancel) (id : UInt64) :
    carriesRequest id r.fields.flatten = false := by
  simp only [carriesRequest, RpcMessage.ofFrame?_cancel]

theorem carriesCancel_cancel (r : RpcCancel) (id : UInt64) :
    carriesCancel id r.fields.flatten = decide (r.requestId_ = id) := by
  simp only [carriesCancel, RpcMessage.ofFrame?_cancel]

theorem carriesResponse_response {r : RpcResponse} (h : r.Valid) (id : UInt64) :
    carriesResponse id r.fields.flatten = decide (r.requestId_ = id) := by
  simp only [carriesResponse, RpcMessage.ofFrame?_response h]

end MiniRpc
