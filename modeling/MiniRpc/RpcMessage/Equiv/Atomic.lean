import MiniRpc.RpcMessage.Equiv.Exact

/-!
# Encoding and decoding are all or nothing

A routine of the codec takes its input, the value it is to overwrite and the error text so far.
`AllOrNothing` says that it either overwrites the value, in a way that depends on the input alone,
and leaves the text, or leaves the value and extends the text.  All six routines are so
(`codecs_allOrNothing`): each of them first computes an outcome from its input, a text that is not
empty or the new value, and then applies it (`AllOrNothing.of_outcome`).

For the decoders the outcome is what the reads return, and every check of theirs has a text
(`Reader.Reports`).  For the encoders it is the first check that fails, or the fields.
-/

namespace MiniRpc

/-- What the callers test after they passed an empty error text:
`!res || !errorMessage.empty()`. -/
def rejected {α : Type} (out : Bool × α × Bytes) : Bool := !out.1 || !out.2.2.isEmpty

/-- The routine `f`, of an input, a value to overwrite and an error text, is all or nothing. -/
structure AllOrNothing {ι α : Type} (f : ι → α → Bytes → Bool × α × Bytes) : Prop where
  /-- On success the text is what it was, and the value is overwritten: what it becomes depends
  on the input only. -/
  accepts : ∀ (i : ι) (a : α) (err : Bytes), (f i a err).1 = true →
    (f i a err).2.2 = err ∧
      ∀ (a' : α) (err' : Bytes), f i a' err' = (true, (f i a err).2.1, err')
  /-- On failure the value is what it was, and the text is extended. -/
  rejects : ∀ (i : ι) (a : α) (err : Bytes), (f i a err).1 = false →
    (f i a err).2.1 = a ∧ ∃ suffix : Bytes, suffix ≠ [] ∧ (f i a err).2.2 = err ++ suffix
  /-- The test of the callers sees exactly the failures. -/
  test : ∀ (i : ι) (a : α), rejected (f i a []) = !(f i a []).1

/-- Apply an outcome to a value and an error text. -/
def applyOutcome {α : Type} (outcome : Except Bytes α) (a : α) (err : Bytes) : Bool × α × Bytes :=
  match outcome with
  | .error suffix => (false, a, err ++ suffix)
  | .ok value => (true, value, err)

/-- A routine that only applies an outcome computed from its input is all or nothing when no error
is empty. -/
theorem AllOrNothing.of_outcome {ι α : Type} {f : ι → α → Bytes → Bool × α × Bytes}
    (outcome : ι → Except Bytes α)
    (hf : ∀ (i : ι) (a : α) (err : Bytes), f i a err = applyOutcome (outcome i) a err)
    (herr : ∀ (i : ι) (suffix : Bytes), outcome i = .error suffix → suffix ≠ []) :
    AllOrNothing f where
  accepts i a err h := by
    simp only [hf] at h ⊢
    cases houtcome : outcome i with
    | error suffix =>
      rw [houtcome] at h
      cases h
    | ok value => exact ⟨rfl, fun _ _ => rfl⟩
  rejects i a err h := by
    simp only [hf] at h ⊢
    cases houtcome : outcome i with
    | error suffix => exact ⟨rfl, suffix, herr i suffix houtcome, rfl⟩
    | ok value =>
      rw [houtcome] at h
      cases h
  test i a := by
    rw [hf]
    cases outcome i with
    | error suffix => rfl
    | ok value => rfl

/-! ### The reads of the decoders -/

theorem readHead_reports (type : RpcMessageType) {illegalType : Bytes} (h : illegalType ≠ []) :
    (readHead type illegalType).Reports := by
  unfold readHead
  apply Reader.reports_leftLen.bind
  intro left
  apply (Reader.reports_failIf (by decide)).bind
  intro _
  apply (Reader.reports_read (by decide)).bind
  intro versionNet
  apply (Reader.reports_failIf (by decide)).bind
  intro _
  apply (Reader.reports_read (by decide)).bind
  intro typeByte
  apply (Reader.reports_failIf h).bind
  intro _
  apply (Reader.reports_read (by decide)).bind
  intro requestIdNet
  exact Reader.reports_pure _

theorem loadString_reports {err : Bytes} (h : err ≠ []) : (loadString err).Reports := by
  unfold loadString
  apply (Reader.reports_read h).bind
  intro netLen
  exact Reader.reports_read h

namespace RpcRequest

theorem readFields_reports : readFields.Reports := by
  unfold readFields
  apply (readHead_reports _ (by decide)).bind
  intro requestIdHost
  apply (loadString_reports (by decide)).bind
  intro service
  apply (loadString_reports (by decide)).bind
  intro method
  apply (loadString_reports (by decide)).bind
  intro payload
  apply Reader.reports_leftLen.bind
  intro left
  apply (Reader.reports_failIf (by decide)).bind
  intro _
  exact Reader.reports_pure _

end RpcRequest

namespace RpcResponse

theorem readFields_reports : readFields.Reports := by
  unfold readFields
  apply (readHead_reports _ (by decide)).bind
  intro requestIdHost
  apply (Reader.reports_read (by decide)).bind
  intro successByte
  apply (Reader.reports_failIf (by decide)).bind
  intro _
  apply (Reader.reports_read (by decide)).bind
  intro errorCodeNet
  apply (Reader.reports_failIf (by decide)).bind
  intro _
  apply (Reader.reports_failIf (by decide)).bind
  intro _
  apply (loadString_reports (by decide)).bind
  intro payload
  apply (loadString_reports (by decide)).bind
  intro errorMessage
  apply Reader.reports_leftLen.bind
  intro left
  apply (Reader.reports_failIf (by decide)).bind
  intro _
  apply (Reader.reports_failIf (by decide)).bind
  intro _
  exact Reader.reports_pure _

end RpcResponse

namespace RpcCancel

theorem readFields_reports : readFields.Reports := by
  unfold readFields
  apply (readHead_reports _ (by decide)).bind
  intro requestIdHost
  apply Reader.reports_leftLen.bind
  intro left
  apply (Reader.reports_failIf (by decide)).bind
  intro _
  exact Reader.reports_pure _

end RpcCancel

/-- A decoder applies what its reads return. -/
theorem decodeWith_allOrNothing {α : Type} {fields : Reader α} (h : fields.Reports) :
    AllOrNothing fun (msg : Bytes) (self : α) err => decodeWith fields self msg err := by
  apply AllOrNothing.of_outcome fun msg => (fields.runFrom (.start msg)).1
  · intro msg self err
    rfl
  · intro msg suffix houtcome
    exact h _ _ _ (Prod.ext houtcome rfl)

/-! ### The checks of the encoders -/

theorem RpcRequest.encode_allOrNothing : AllOrNothing RpcRequest.encode := by
  classical
  apply AllOrNothing.of_outcome fun r : RpcRequest =>
    if r.Encodable then .ok r.fields.flatten
    else .error (text "service_ or method or payload out of capacity!")
  · intro r output err
    by_cases hr : r.Encodable
    · rw [if_pos hr, encode_eq hr]
      rfl
    · rw [if_neg hr, encode_of_not_encodable hr]
      rfl
  · intro r suffix houtcome
    by_cases hr : r.Encodable
    · rw [if_pos hr] at houtcome
      cases houtcome
    · rw [if_neg hr] at houtcome
      rw [← Except.error.inj houtcome]
      decide

/-- The text of the first check that a response fails, or its fields. -/
def RpcResponse.encoding (r : RpcResponse) : Except Bytes Bytes :=
  if r.payload_.length > UINT32_MAX ∨ r.errorMessage_.length > UINT32_MAX then
    .error (text "payload or error message out of capacity!")
  else if (r.responseResult_ = kSuccess ∧ r.errorMessage_ ≠ []) ∨
      (r.responseResult_ = kUnsuccess ∧ r.payload_ ≠ []) then
    .error (text "traffic error!")
  else if r.responseResult_ ≠ kSuccess ∧ r.responseResult_ ≠ kUnsuccess then
    .error (text "illegal response result")
  else if r.errorCode_.value ≥ RpcErrorCode.ERROR_CODE_CNT.value then
    .error (text "error code invalid")
  else if (r.responseResult_ = kSuccess ∧ r.errorCode_ ≠ .NO_ERROR) ∨
      (r.responseResult_ = kUnsuccess ∧ r.errorCode_ = .NO_ERROR) then
    .error (text "response result and error code not Compatible")
  else .ok r.fields.flatten

theorem RpcResponse.encode_allOrNothing : AllOrNothing RpcResponse.encode := by
  apply AllOrNothing.of_outcome RpcResponse.encoding
  · intro r output err
    unfold encode encoding
    simp only [writeFields_eq _ _ (length_flatten_fields r).symm]
    split_ifs <;> rfl
  · intro r suffix houtcome
    unfold encoding at houtcome
    split_ifs at houtcome
    all_goals
      rw [← Except.error.inj houtcome]
      decide

theorem RpcCancel.encode_allOrNothing : AllOrNothing RpcCancel.encode := by
  apply AllOrNothing.of_outcome fun r : RpcCancel => .ok r.fields.flatten
  · intro r output err
    rw [encode_eq]
    rfl
  · intro r suffix houtcome
    cases houtcome

/-- **Encoding and decoding are all or nothing**, for each of the three message types. -/
theorem codecs_allOrNothing :
    (AllOrNothing RpcRequest.encode ∧
      AllOrNothing fun (msg : Bytes) (self : RpcRequest) err => self.decode msg err) ∧
    (AllOrNothing RpcResponse.encode ∧
      AllOrNothing fun (msg : Bytes) (self : RpcResponse) err => self.decode msg err) ∧
    (AllOrNothing RpcCancel.encode ∧
      AllOrNothing fun (msg : Bytes) (self : RpcCancel) err => self.decode msg err) := by
  refine ⟨⟨?_, ?_⟩, ⟨?_, ?_⟩, ?_, ?_⟩
  · exact RpcRequest.encode_allOrNothing
  · exact decodeWith_allOrNothing RpcRequest.readFields_reports
  · exact RpcResponse.encode_allOrNothing
  · exact decodeWith_allOrNothing RpcResponse.readFields_reports
  · exact RpcCancel.encode_allOrNothing
  · exact decodeWith_allOrNothing RpcCancel.readFields_reports

end MiniRpc
