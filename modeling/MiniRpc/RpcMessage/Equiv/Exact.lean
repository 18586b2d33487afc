import MiniRpc.Bytes.Delimited
import MiniRpc.RpcMessage.Equiv.RoundTrip

/-!
# The message formats are exact and unambiguous

For each message type the encoder and the decoder agree exactly (`requests_exact`,
`responses_exact`): what a decoder accepts is the encoding of a value that the encoder accepts, and
encoding the decoded value gives the message back.  No message is accepted by two decoders, and no
accepted message is a proper prefix of another (`wireFormat_unambiguous`).

Decoding is followed backwards, from a run that succeeded to the fields that were read
(`readHead_inv`, `loadString_inv`).
-/

namespace MiniRpc

/-! ### Fields that were read -/

theorem netBytes_hostValue {w : ℕ} {bs : Bytes} (h : bs.length = w) :
    netBytes w (hostValue w bs) = bs := by
  subst h
  have hvalue : hostValue bs.length bs = ofBE bs := swap_ofMemory host bs
  rw [netBytes_eq, hvalue, beBytes_ofBE]

theorem hostValue_lt {w : ℕ} {bs : Bytes} (h : bs.length = w) : hostValue w bs < 256 ^ w := by
  subst h
  have hvalue : hostValue bs.length bs = ofBE bs := swap_ofMemory host bs
  rw [hvalue]
  exact ofBE_lt bs

/-- An integer that was read is the front of what was left. -/
theorem readValue_inv {c c' : ReadCursor} {w : ℕ} {err net bs : Bytes} (hat : c.At bs)
    (h : (Reader.read w err).runFrom c = (.ok net, c')) :
    ∃ bs', hostValue w net < 256 ^ w ∧ bs = netBytes w (hostValue w net) ++ bs' ∧ c'.At bs' := by
  obtain ⟨bs', hlen, hbs, hat'⟩ := Reader.read_inv hat h
  exact ⟨bs', hostValue_lt hlen, by rw [netBytes_hostValue hlen, hbs], hat'⟩

/-- A head that was read is the front of what was left. -/
theorem readHead_inv {c c' : ReadCursor} {type : RpcMessageType} {illegalType bs : Bytes} {n : ℕ}
    (hat : c.At bs) (h : (readHead type illegalType).runFrom c = (.ok n, c')) :
    ∃ bs', bs = headBytes type (UInt64.ofNat n) ++ bs' ∧ c'.At bs' := by
  unfold readHead at h
  obtain ⟨_, _, hleft, h₁⟩ := Reader.run_bind_inv h
  obtain ⟨-, rfl⟩ := Reader.leftLen_inv hat hleft
  obtain ⟨_, _, hfail₁, h₂⟩ := Reader.run_bind_inv h₁
  obtain ⟨-, rfl⟩ := Reader.failIf_inv hfail₁
  obtain ⟨_, _, hread₁, h₃⟩ := Reader.run_bind_inv h₂
  obtain ⟨bs₁, -, rfl, hat₁⟩ := readValue_inv hat hread₁
  obtain ⟨_, _, hfail₂, h₄⟩ := Reader.run_bind_inv h₃
  obtain ⟨hversion, rfl⟩ := Reader.failIf_inv hfail₂
  obtain ⟨_, _, hread₂, h₅⟩ := Reader.run_bind_inv h₄
  obtain ⟨bs₂, -, rfl, hat₂⟩ := readValue_inv hat₁ hread₂
  obtain ⟨_, _, hfail₃, h₆⟩ := Reader.run_bind_inv h₅
  obtain ⟨htype, rfl⟩ := Reader.failIf_inv hfail₃
  obtain ⟨_, _, hread₃, h₇⟩ := Reader.run_bind_inv h₆
  obtain ⟨bs₃, hlt, rfl, hat₃⟩ := readValue_inv hat₂ hread₃
  obtain ⟨rfl, rfl⟩ := Reader.pure_inv h₇
  refine ⟨bs₃, ?_, hat₃⟩
  rw [headBytes, not_not.mp hversion, not_not.mp htype, UInt64.toNat_ofNat_of_lt' hlt,
    List.append_assoc, List.append_assoc]

/-- A string that was read is, after its length, the front of what was left. -/
theorem loadString_inv {c c' : ReadCursor} {err s bs : Bytes} (hat : c.At bs)
    (h : (loadString err).runFrom c = (.ok s, c')) :
    ∃ bs', s.length ≤ UINT32_MAX ∧ bs = netBytes 4 s.length ++ (s ++ bs') ∧ c'.At bs' := by
  unfold loadString at h
  obtain ⟨_, _, hread, h⟩ := Reader.run_bind_inv h
  obtain ⟨bs₁, hlt, rfl, hat₁⟩ := readValue_inv hat hread
  obtain ⟨bs₂, hlen, rfl, hat₂⟩ := Reader.read_inv hat₁ h
  rw [← hlen] at hlt ⊢
  exact ⟨bs₂, Nat.le_of_lt_succ hlt, rfl, hat₂⟩

/-- The message ends here. -/
theorem readEnd_inv {c c' : ReadCursor} {bs : Bytes} {n : ℕ} (hat : c.At bs)
    (h : Reader.leftLen.runFrom c = (.ok n, c')) (hn : n = 0) : bs = [] ∧ c = c' := by
  obtain ⟨hlen, hc⟩ := Reader.leftLen_inv hat h
  exact ⟨List.eq_nil_of_length_eq_zero (hlen.symm.trans hn), hc⟩

/-- A decoder that succeeds has read the fields of what it returns. -/
theorem decodeWith_inv {α : Type} {fields : Reader α} {self : α} {msg err : Bytes}
    (h : (decodeWith fields self msg err).1 = true) :
    ∃ c, fields.runFrom (.start msg) = (.ok (decodeWith fields self msg err).2.1, c) := by
  unfold decodeWith at h ⊢
  rcases hrun : fields.runFrom (.start msg) with ⟨res, c⟩
  rw [hrun] at h
  cases res with
  | error e => cases h
  | ok value => exact ⟨c, rfl⟩

/-! ### Requests and cancels -/

namespace RpcRequest

theorem readFields_inv {msg : Bytes} {r : RpcRequest} {c : ReadCursor}
    (h : readFields.runFrom (.start msg) = (.ok r, c)) : r.Encodable ∧ msg = r.fields.flatten := by
  unfold readFields at h
  -- each read takes its field off the front of what is left
  obtain ⟨n, _, hhead, h₁⟩ := Reader.run_bind_inv h
  obtain ⟨bs₁, rfl, hat₁⟩ := readHead_inv (ReadCursor.at_start msg) hhead
  obtain ⟨service, _, hload₁, h₂⟩ := Reader.run_bind_inv h₁
  obtain ⟨bs₂, hservice, rfl, hat₂⟩ := loadString_inv hat₁ hload₁
  obtain ⟨method, _, hload₂, h₃⟩ := Reader.run_bind_inv h₂
  obtain ⟨bs₃, hmethod, rfl, hat₃⟩ := loadString_inv hat₂ hload₂
  obtain ⟨payload, _, hload₃, h₄⟩ := Reader.run_bind_inv h₃
  obtain ⟨bs₄, hpayload, rfl, hat₄⟩ := loadString_inv hat₃ hload₃
  obtain ⟨left, _, hleft, h₅⟩ := Reader.run_bind_inv h₄
  obtain ⟨_, _, hfail, h₆⟩ := Reader.run_bind_inv h₅
  obtain ⟨hend, rfl⟩ := Reader.failIf_inv hfail
  obtain ⟨rfl, rfl⟩ := readEnd_inv hat₄ hleft (not_not.mp hend)
  have hr := (Reader.pure_inv h₆).1
  rw [← hr]
  constructor
  · exact ⟨hservice, hmethod, hpayload⟩
  · rw [flatten_fields]

theorem decode_inv {self : RpcRequest} {msg err : Bytes} (h : (self.decode msg err).1 = true) :
    (self.decode msg err).2.1.Encodable ∧ msg = (self.decode msg err).2.1.fields.flatten := by
  obtain ⟨c, hrun⟩ := decodeWith_inv h
  exact readFields_inv hrun

theorem encodable_of_encode {r : RpcRequest} {output err : Bytes}
    (h : (r.encode output err).1 = true) : r.Encodable := by
  by_contra hnot
  rw [encode_of_not_encodable hnot] at h
  cases h

end RpcRequest

namespace RpcCancel

theorem readFields_inv {msg : Bytes} {r : RpcCancel} {c : ReadCursor}
    (h : readFields.runFrom (.start msg) = (.ok r, c)) : msg = r.fields.flatten := by
  unfold readFields at h
  obtain ⟨n, _, hhead, h₁⟩ := Reader.run_bind_inv h
  obtain ⟨bs, rfl, hat⟩ := readHead_inv (ReadCursor.at_start msg) hhead
  obtain ⟨left, _, hleft, h₂⟩ := Reader.run_bind_inv h₁
  obtain ⟨_, _, hfail, h₃⟩ := Reader.run_bind_inv h₂
  obtain ⟨hend, rfl⟩ := Reader.failIf_inv hfail
  obtain ⟨rfl, rfl⟩ := readEnd_inv hat hleft (Nat.eq_zero_of_not_pos hend)
  have hr := (Reader.pure_inv h₃).1
  rw [← hr, flatten_fields]

theorem decode_inv {self : RpcCancel} {msg err : Bytes} (h : (self.decode msg err).1 = true) :
    msg = (self.decode msg err).2.1.fields.flatten := by
  obtain ⟨c, hrun⟩ := decodeWith_inv h
  exact readFields_inv hrun

/-- The length of every cancel. -/
def kCancelMessageLen : ℕ := VERSION_LEN + REQUEST_TYPE_LEN + REQUEST_ID_LEN

theorem length_flatten_fields (r : RpcCancel) : r.fields.flatten.length = kCancelMessageLen := by
  simp only [fields, List.flatten_cons, List.flatten_nil, List.length_append, length_netBytes,
    List.length_nil, kCancelMessageLen, VERSION_LEN, REQUEST_TYPE_LEN, REQUEST_ID_LEN]

end RpcCancel

/-- **Requests and cancels are parsed exactly.** -/
theorem requests_exact :
    ExactCodec RpcRequest.Encodable
      (fun r => RpcRequest.OutputMessageLen r.service_.length r.method_.length r.payload_.length)
      RpcRequest.encode RpcRequest.decode ∧
    ExactCodec (fun _ => True) (fun _ => RpcCancel.kCancelMessageLen)
      RpcCancel.encode RpcCancel.decode := by
  constructor
  · refine .of_encoding (fun r => r.fields.flatten) RpcRequest.length_flatten_fields ?_ ?_ ?_ ?_
    · exact fun r output err hr => RpcRequest.encode_eq hr output err
    · exact fun r output err => RpcRequest.encodable_of_encode
    · exact fun r self err hr => RpcRequest.decode_encode hr self err
    · exact fun self m err => RpcRequest.decode_inv
  · refine .of_encoding (fun r => r.fields.flatten) RpcCancel.length_flatten_fields ?_ ?_ ?_ ?_
    · exact fun r output err _ => RpcCancel.encode_eq r output err
    · exact fun _ _ _ _ => trivial
    · exact fun r self err _ => RpcCancel.decode_encode r self err
    · exact fun self m err h => ⟨trivial, RpcCancel.decode_inv h⟩

/-! ### Responses -/

namespace RpcResponse

/-- A result that was read and passed the checks is one of the two. -/
theorem result_of_legal {n : ℕ} (h : ¬ (n ≠ kSuccess.value.toNat ∧ n ≠ kUnsuccess.value.toNat)) :
    n = kSuccess.value.toNat ∨ n = kUnsuccess.value.toNat := by
  rwa [not_and_or, not_not, not_not] at h

/-- The integer read for a result is that of an enumerator exactly if it is the result. -/
theorem ofNat_eq_iff {n : ℕ} (hn : n = kSuccess.value.toNat ∨ n = kUnsuccess.value.toNat)
    (x : ResponseResult) : (⟨UInt32.ofNat n⟩ : ResponseResult) = x ↔ n = x.value.toNat := by
  have hlt : n < 2 ^ 32 := by rcases hn with rfl | rfl <;> decide
  rw [ResponseResult.ext_iff, ← UInt32.toNat_inj, UInt32.toNat_ofNat_of_lt' hlt]

/-- The checks of the decoder leave only valid responses. -/
theorem valid_of_checks {id : UInt64} {success errorCode : ℕ} {payload errorMessage : Bytes}
    (hcodeLt : errorCode < 256 ^ 2)
    (hresult : ¬ (success ≠ kSuccess.value.toNat ∧ success ≠ kUnsuccess.value.toNat))
    (hcode : ¬ errorCode ≥ RpcErrorCode.ERROR_CODE_CNT.value.toNat)
    (hcompatible : ¬ ((success = kSuccess.value.toNat ∧
        errorCode ≠ RpcErrorCode.NO_ERROR.value.toNat) ∨
      (success = kUnsuccess.value.toNat ∧ errorCode = RpcErrorCode.NO_ERROR.value.toNat)))
    (hpayload : payload.length ≤ UINT32_MAX) (herrorMessage : errorMessage.length ≤ UINT32_MAX)
    (hempty : ¬ ((success = kSuccess.value.toNat ∧ errorMessage ≠ []) ∨
      (success = kUnsuccess.value.toNat ∧ payload ≠ []))) :
    Valid ⟨id, ⟨UInt32.ofNat success⟩, ⟨UInt16.ofNat errorCode⟩, payload, errorMessage⟩ := by
  have hlegal := result_of_legal hresult
  have hvalue : (UInt16.ofNat errorCode).toNat = errorCode := UInt16.toNat_ofNat_of_lt' hcodeLt
  have hnoError : (⟨UInt16.ofNat errorCode⟩ : RpcErrorCode) = .NO_ERROR ↔
      errorCode = RpcErrorCode.NO_ERROR.value.toNat := by
    rw [RpcErrorCode.ext_iff, ← UInt16.toNat_inj, hvalue]
  simp only [not_or, not_and, not_not] at hcompatible hempty
  refine ⟨hpayload, herrorMessage, ?_, ?_, ?_, ?_, ?_⟩
  · exact hlegal.imp (ofNat_eq_iff hlegal _).mpr (ofNat_eq_iff hlegal _).mpr
  · show UInt16.ofNat errorCode < RpcErrorCode.ERROR_CODE_CNT.value
    rw [UInt16.lt_iff_toNat_lt, hvalue]
    exact not_le.mp hcode
  · rw [hnoError, ofNat_eq_iff hlegal]
    constructor
    · intro heq
      exact hlegal.resolve_right fun hun => hcompatible.2 hun heq
    · exact hcompatible.1
  · rw [ofNat_eq_iff hlegal]
    exact hempty.1
  · rw [ofNat_eq_iff hlegal]
    exact hempty.2

theorem readFields_inv {msg : Bytes} {r : RpcResponse} {c : ReadCursor}
    (h : readFields.runFrom (.start msg) = (.ok r, c)) : r.Valid ∧ msg = r.fields.flatten := by
  unfold readFields at h
  -- the head, the result and the error code, with the checks on the integers
  obtain ⟨n, _, hhead, h₁⟩ := Reader.run_bind_inv h
  obtain ⟨bs₁, rfl, hat₁⟩ := readHead_inv (ReadCursor.at_start msg) hhead
  obtain ⟨successByte, _, hread₁, h₂⟩ := Reader.run_bind_inv h₁
  obtain ⟨bs₂, hsuccessLt, rfl, hat₂⟩ := readValue_inv hat₁ hread₁
  obtain ⟨_, _, hfail₁, h₃⟩ := Reader.run_bind_inv h₂
  obtain ⟨hresult, rfl⟩ := Reader.failIf_inv hfail₁
  obtain ⟨errorCodeNet, _, hread₂, h₄⟩ := Reader.run_bind_inv h₃
  obtain ⟨bs₃, hcodeLt, rfl, hat₃⟩ := readValue_inv hat₂ hread₂
  obtain ⟨_, _, hfail₂, h₅⟩ := Reader.run_bind_inv h₄
  obtain ⟨hcode, rfl⟩ := Reader.failIf_inv hfail₂
  obtain ⟨_, _, hfail₃, h₆⟩ := Reader.run_bind_inv h₅
  obtain ⟨hcompatible, rfl⟩ := Reader.failIf_inv hfail₃
  -- the strings, the end of the message and the check on the strings
  obtain ⟨payload, _, hload₁, h₇⟩ := Reader.run_bind_inv h₆
  obtain ⟨bs₄, hpayload, rfl, hat₄⟩ := loadString_inv hat₃ hload₁
  obtain ⟨errorMessage, _, hload₂, h₈⟩ := Reader.run_bind_inv h₇
  obtain ⟨bs₅, herrorMessage, rfl, hat₅⟩ := loadString_inv hat₄ hload₂
  obtain ⟨left, _, hleft, h₉⟩ := Reader.run_bind_inv h₈
  obtain ⟨_, _, hfail₄, h₁₀⟩ := Reader.run_bind_inv h₉
  obtain ⟨hend, rfl⟩ := Reader.failIf_inv hfail₄
  obtain ⟨rfl, rfl⟩ := readEnd_inv hat₅ hleft (not_not.mp hend)
  obtain ⟨_, _, hfail₅, h₁₁⟩ := Reader.run_bind_inv h₁₀
  obtain ⟨hempty, rfl⟩ := Reader.failIf_inv hfail₅
  have hr := (Reader.pure_inv h₁₁).1
  -- a result of one byte and a code of two fit the enumerations
  have hsuccessLt : hostValue 1 successByte < 2 ^ 32 := hsuccessLt.trans (by decide)
  rw [← hr]
  constructor
  · exact valid_of_checks hcodeLt hresult hcode hcompatible hpayload herrorMessage hempty
  · rw [flatten_fields]
    dsimp only
    rw [UInt32.toNat_ofNat_of_lt' hsuccessLt, UInt16.toNat_ofNat_of_lt' hcodeLt]

theorem decode_inv {self : RpcResponse} {msg err : Bytes} (h : (self.decode msg err).1 = true) :
    (self.decode msg err).2.1.Valid ∧ msg = (self.decode msg err).2.1.fields.flatten := by
  obtain ⟨c, hrun⟩ := decodeWith_inv h
  exact readFields_inv hrun

end RpcResponse

/-- **Responses are parsed exactly**, and the encoder and the decoder agree on which are valid. -/
theorem responses_exact :
    ExactCodec RpcResponse.Valid
      (fun r => RpcResponse.OutputMessageLen r.payload_.length r.errorMessage_.length)
      RpcResponse.encode RpcResponse.decode := by
  refine .of_encoding (fun r => r.fields.flatten) RpcResponse.length_flatten_fields ?_ ?_ ?_ ?_
  · exact fun r output err hr => RpcResponse.encode_eq hr output err
  · exact fun r output err => RpcResponse.valid_of_encode
  · exact fun r self err hr => RpcResponse.decode_encode hr self err
  · exact fun self m err => RpcResponse.decode_inv

/-! ### The whole wire format -/

theorem delimited_netBytes (w : ℕ) : Delimited (fun n => n < 256 ^ w) (netBytes w) := by
  refine .of_length (fun n _ => length_netBytes w n) fun a b ha hb heq => ?_
  rw [← hostValue_netBytes ha, heq, hostValue_netBytes hb]

/-- A string after its length is delimited. -/
theorem string_inj {s s' x y : Bytes} (hs : s.length ≤ UINT32_MAX) (hs' : s'.length ≤ UINT32_MAX)
    (h : netBytes 4 s.length ++ (s ++ x) = netBytes 4 s'.length ++ (s' ++ y)) : s = s' ∧ x = y := by
  obtain ⟨hlen, hrest⟩ := delimited_netBytes 4 _ _ _ _ (Nat.lt_succ_of_le hs)
    (Nat.lt_succ_of_le hs') h
  exact List.append_inj hrest hlen

theorem value_injective {type type' : RpcMessageType} (h : type.value = type'.value) :
    type = type' := by
  cases type <;> cases type' <;> first | rfl | exact absurd h (by decide)

theorem delimited_headBytes :
    Delimited (fun _ => True) fun head : RpcMessageType × UInt64 => headBytes head.1 head.2 := by
  rintro ⟨type, id⟩ ⟨type', id'⟩ x y - - heq
  simp only [headBytes, List.append_assoc] at heq
  obtain ⟨-, heq⟩ := delimited_netBytes VERSION_LEN _ _ _ _ (by decide) (by decide) heq
  obtain ⟨htype, heq⟩ := delimited_netBytes REQUEST_TYPE_LEN _ _ _ _ (value_lt type)
    (value_lt type') heq
  obtain ⟨hid, heq⟩ := delimited_netBytes REQUEST_ID_LEN _ _ _ _ id.toNat_lt id'.toNat_lt heq
  rw [value_injective htype, UInt64.toNat_inj.mp hid]
  exact ⟨rfl, heq⟩

theorem RpcRequest.delimited : Delimited Encodable fun r => r.fields.flatten := by
  intro a b x y ha hb heq
  simp only [flatten_fields, List.append_assoc] at heq
  -- field by field, each of which is delimited
  obtain ⟨hhead, heq⟩ := delimited_headBytes (_, _) (_, _) _ _ trivial trivial heq
  obtain ⟨hservice, heq⟩ := string_inj ha.service hb.service heq
  obtain ⟨hmethod, heq⟩ := string_inj ha.method hb.method heq
  obtain ⟨hpayload, heq⟩ := string_inj ha.payload hb.payload heq
  exact ⟨RpcRequest.ext (Prod.mk.inj hhead).2 hservice hmethod hpayload, heq⟩

theorem RpcResponse.delimited : Delimited Valid fun r => r.fields.flatten := by
  intro a b x y ha hb heq
  have hresultLt : ∀ {r : RpcResponse}, r.Valid → r.responseResult_.value.toNat < 256 ^ 1 :=
    fun hr => by rcases hr.result with hres | hres <;> rw [hres] <;> decide
  simp only [flatten_fields, List.append_assoc] at heq
  obtain ⟨hhead, heq⟩ := delimited_headBytes (_, _) (_, _) _ _ trivial trivial heq
  obtain ⟨hresult, heq⟩ := delimited_netBytes 1 _ _ _ _ (hresultLt ha) (hresultLt hb) heq
  obtain ⟨hcode, heq⟩ := delimited_netBytes 2 _ _ _ _ a.errorCode_.value.toNat_lt
    b.errorCode_.value.toNat_lt heq
  obtain ⟨hpayload, heq⟩ := string_inj ha.payload_le hb.payload_le heq
  obtain ⟨hmessage, heq⟩ := string_inj ha.errorMessage_le hb.errorMessage_le heq
  have hresult := ResponseResult.ext (UInt32.toNat_inj.mp hresult)
  have hcode := RpcErrorCode.ext (UInt16.toNat_inj.mp hcode)
  exact ⟨RpcResponse.ext (Prod.mk.inj hhead).2 hresult hcode hpayload hmessage, heq⟩

theorem RpcCancel.delimited : Delimited (fun _ => True) fun r : RpcCancel => r.fields.flatten := by
  intro a b x y _ _ heq
  simp only [flatten_fields, List.append_assoc] at heq
  obtain ⟨hhead, heq⟩ := delimited_headBytes (_, _) (_, _) _ _ trivial trivial heq
  exact ⟨RpcCancel.ext (Prod.mk.inj hhead).2, heq⟩

/-- The decoder of a message type accepts the message, into some object. -/
def RpcMessageType.Accepts : RpcMessageType → Bytes → Prop
  | .kRequest, m => ∃ (self : RpcRequest) (err : Bytes), (self.decode m err).1 = true
  | .kResponse, m => ∃ (self : RpcResponse) (err : Bytes), (self.decode m err).1 = true
  | .kCancel, m => ∃ (self : RpcCancel) (err : Bytes), (self.decode m err).1 = true

/-- The words that a message type accepts. -/
def RpcMessageType.words (type : RpcMessageType) : Set Bytes := {m | type.Accepts m}

theorem prefixFree_words (type : RpcMessageType) : PrefixFree type.words := by
  intro m x hm hmx
  cases type with
  | kRequest =>
    obtain ⟨self, err, hm⟩ := hm
    obtain ⟨self', err', hmx⟩ := hmx
    exact RpcRequest.delimited.prefixFree m x ⟨_, RpcRequest.decode_inv hm⟩
      ⟨_, RpcRequest.decode_inv hmx⟩
  | kResponse =>
    obtain ⟨self, err, hm⟩ := hm
    obtain ⟨self', err', hmx⟩ := hmx
    exact RpcResponse.delimited.prefixFree m x ⟨_, RpcResponse.decode_inv hm⟩
      ⟨_, RpcResponse.decode_inv hmx⟩
  | kCancel =>
    obtain ⟨self, err, hm⟩ := hm
    obtain ⟨self', err', hmx⟩ := hmx
    exact RpcCancel.delimited.prefixFree m x ⟨_, trivial, RpcCancel.decode_inv hm⟩
      ⟨_, trivial, RpcCancel.decode_inv hmx⟩

/-- An accepted message starts with the head of its type. -/
theorem RpcMessageType.Accepts.head {type : RpcMessageType} {m : Bytes} (h : type.Accepts m) :
    ∃ id bs, m = headBytes type id ++ bs := by
  cases type with
  | kRequest =>
    obtain ⟨self, err, hm⟩ := h
    obtain ⟨-, hm⟩ := RpcRequest.decode_inv hm
    rw [RpcRequest.flatten_fields] at hm
    exact ⟨_, _, hm⟩
  | kResponse =>
    obtain ⟨self, err, hm⟩ := h
    obtain ⟨-, hm⟩ := RpcResponse.decode_inv hm
    rw [RpcResponse.flatten_fields] at hm
    exact ⟨_, _, hm⟩
  | kCancel =>
    obtain ⟨self, err, hm⟩ := h
    have hm := RpcCancel.decode_inv hm
    rw [RpcCancel.flatten_fields] at hm
    exact ⟨_, _, hm⟩

/-- The type of an accepted message can be told from its first bytes. -/
theorem RpcMessageType.Accepts.decodeHead {type : RpcMessageType} {m : Bytes}
    (h : type.Accepts m) (x : Bytes) : decodeHead (m ++ x) = some type := by
  obtain ⟨id, bs, rfl⟩ := h.head
  rw [List.append_assoc]
  exact decodeHead_headBytes type id (bs ++ x)

/-- Every message has one reading, and no message is the beginning of another. -/
structure UnambiguousWireFormat : Prop where
  unique : ∀ (m : Bytes) (type type' : RpcMessageType),
    type.Accepts m → type'.Accepts m → type = type'
  head : ∀ (m : Bytes) (type : RpcMessageType), type.Accepts m → decodeHead m = some type
  prefixFree : ∀ (m x : Bytes) (type type' : RpcMessageType),
    type.Accepts m → type'.Accepts (m ++ x) → x = []

/-- **The wire format is unambiguous.** -/
theorem wireFormat_unambiguous : UnambiguousWireFormat where
  unique m type type' h h' := Option.some.inj ((h.decodeHead []).symm.trans (h'.decodeHead []))
  head m type h := by
    have hhead := h.decodeHead []
    rwa [List.append_nil] at hhead
  prefixFree m x type type' h h' := by
    -- The longer message starts with the same head, so both have one type.
    have hhead' := h'.decodeHead []
    rw [List.append_nil, h.decodeHead x] at hhead'
    obtain rfl := Option.some.inj hhead'
    exact prefixFree_words type m x h h'

/-! ### Frames -/

namespace RpcMessage

/-- The result of encoding a message, into an empty string. -/
def encode : RpcMessage → Bool × Bytes × Bytes
  | .request r => r.encode [] []
  | .response r => r.encode [] []
  | .cancel r => r.encode [] []

theorem encode_request {r : RpcRequest} {msg : Bytes} :
    (RpcMessage.request r).encode = (true, msg, []) ↔ r.Encodable ∧ msg = r.fields.flatten := by
  constructor
  · intro h
    have hr : r.Encodable := RpcRequest.encodable_of_encode (congrArg Prod.fst h)
    have henc : (true, r.fields.flatten, []) = (true, msg, []) :=
      (RpcRequest.encode_eq hr [] []).symm.trans h
    exact ⟨hr, (Prod.mk.inj (Prod.mk.inj henc).2).1.symm⟩
  · rintro ⟨hr, rfl⟩
    exact RpcRequest.encode_eq hr [] []

theorem encode_response {r : RpcResponse} {msg : Bytes} :
    (RpcMessage.response r).encode = (true, msg, []) ↔ r.Valid ∧ msg = r.fields.flatten := by
  constructor
  · intro h
    have hr : r.Valid := RpcResponse.valid_of_encode (congrArg Prod.fst h)
    have henc : (true, r.fields.flatten, []) = (true, msg, []) :=
      (RpcResponse.encode_eq hr [] []).symm.trans h
    exact ⟨hr, (Prod.mk.inj (Prod.mk.inj henc).2).1.symm⟩
  · rintro ⟨hr, rfl⟩
    exact RpcResponse.encode_eq hr [] []

theorem encode_cancel {r : RpcCancel} {msg : Bytes} :
    (RpcMessage.cancel r).encode = (true, msg, []) ↔ msg = r.fields.flatten := by
  constructor
  · intro h
    have henc : (true, r.fields.flatten, []) = (true, msg, []) :=
      (RpcCancel.encode_eq r [] []).symm.trans h
    exact (Prod.mk.inj (Prod.mk.inj henc).2).1.symm
  · rintro rfl
    exact RpcCancel.encode_eq r [] []

/-- A frame carries a message exactly if it is its encoding. -/
theorem ofFrame?_eq_some_iff {msg : Bytes} {m : RpcMessage} :
    ofFrame? msg = some m ↔ m.encode = (true, msg, []) := by
  constructor
  · intro h
    unfold ofFrame? at h
    cases hhead : decodeHead msg with
    | none =>
      rw [hhead] at h
      cases h
    | some type =>
      rw [hhead] at h
      cases type with
      | kRequest =>
        have hdecode := @RpcRequest.decode_inv .empty msg []
        rcases hres : RpcRequest.empty.decode msg [] with ⟨_ | _, r, _ | _⟩
        all_goals rw [hres] at h hdecode
        case true.nil =>
          obtain rfl := Option.some.inj h
          exact encode_request.mpr (hdecode rfl)
        all_goals cases h
      | kResponse =>
        have hdecode := @RpcResponse.decode_inv .empty msg []
        rcases hres : RpcResponse.empty.decode msg [] with ⟨_ | _, r, _ | _⟩
        all_goals rw [hres] at h hdecode
        case true.nil =>
          obtain rfl := Option.some.inj h
          exact encode_response.mpr (hdecode rfl)
        all_goals cases h
      | kCancel =>
        have hdecode := @RpcCancel.decode_inv .empty msg []
        rcases hres : RpcCancel.empty.decode msg [] with ⟨_ | _, r, _ | _⟩
        all_goals rw [hres] at h hdecode
        case true.nil =>
          obtain rfl := Option.some.inj h
          exact encode_cancel.mpr (hdecode rfl)
        all_goals cases h
  · intro h
    cases m with
    | request r =>
      obtain ⟨hr, rfl⟩ := encode_request.mp h
      exact ofFrame?_request hr
    | response r =>
      obtain ⟨hr, rfl⟩ := encode_response.mp h
      exact ofFrame?_response hr
    | cancel r =>
      obtain rfl := encode_cancel.mp h
      exact ofFrame?_cancel r

end RpcMessage

end MiniRpc
