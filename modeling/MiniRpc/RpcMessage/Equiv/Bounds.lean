import MiniRpc.Bytes.Bounds
import MiniRpc.RpcMessage.Equiv.Exact

/-!
# The codec stays within its buffers

Every read of the three decoders, of `loadString` and of `decodeHead` lies within the message, and
where a count of the bytes left is kept it is right at each read and never goes below zero
(`readFields_keeps`, `loadString_keeps`, `decodeHead_within`).  Every encoder writes the bytes of
the resized output from the first to the last, in order and each once (`writes_cover`).
`codecs_inBounds` collects them.

`decodeHead` checks the length once and then copies without a count.  `readMessageType` is the
routine with its copies logged, and computes the same (`readMessageType_eq`).
-/

namespace MiniRpc

/-! ### The head -/

/-- `decodeHead` as it goes over the message: one check of the length, then two copies through an
index. -/
def readMessageType : Reader (Option RpcMessageType) := do
  let size ← Reader.size
  if size < VERSION_LEN + REQUEST_TYPE_LEN then
    return none
  else
    let versionNet ← Reader.copy VERSION_LEN
    let typeByte ← Reader.copy REQUEST_TYPE_LEN
    let version := hostValue VERSION_LEN versionNet
    let type := hostValue REQUEST_TYPE_LEN typeByte
    return if version ≠ kRpcProtocolVersion then none
      else if type = RpcMessageType.kRequest.value then some .kRequest
      else if type = RpcMessageType.kResponse.value then some .kResponse
      else if type = RpcMessageType.kCancel.value then some .kCancel
      else none

/-- The reads of `decodeHead`: none in a message that is too short, else the version and the
type. -/
theorem readMessageType_run (msg : Bytes) :
    (readMessageType.runFrom (.start msg)).1 = .ok (decodeHead msg) ∧
      (readMessageType.runFrom (.start msg)).2.reads =
        if msg.length < VERSION_LEN + REQUEST_TYPE_LEN then []
        else [⟨0, VERSION_LEN, none⟩, ⟨VERSION_LEN, REQUEST_TYPE_LEN, none⟩] := by
  have hsize : Reader.size.runFrom (.start msg) = (.ok msg.length, .start msg) := rfl
  rw [readMessageType, Reader.run_bind_ok hsize, decodeHead]
  by_cases hlen : msg.length < VERSION_LEN + REQUEST_TYPE_LEN
  · rw [if_pos hlen, if_pos hlen, if_pos hlen]
    exact ⟨rfl, rfl⟩
  · rw [if_neg hlen, if_neg hlen, if_neg hlen]
    exact ⟨rfl, rfl⟩

/-- The copies of `decodeHead` lie within the message. -/
theorem decodeHead_within (msg : Bytes) :
    ∀ a ∈ (readMessageType.runFrom (.start msg)).2.reads, a.Within msg.length := by
  rw [(readMessageType_run msg).2]
  intro a ha
  split_ifs at ha with hlen
  · cases ha
  · simp only [VERSION_LEN, REQUEST_TYPE_LEN, not_lt] at hlen
    simp only [List.mem_cons, List.not_mem_nil, or_false] at ha
    rcases ha with rfl | rfl
    · show 0 + 2 ≤ msg.length
      omega
    · show 2 + 1 ≤ msg.length
      omega

/-! ### The reads of the decoders -/

theorem readHead_keeps (type : RpcMessageType) (illegalType : Bytes) :
    (readHead type illegalType).Keeps := by
  unfold readHead
  apply Reader.keeps_leftLen.bind
  intro left
  apply (Reader.keeps_failIf _ _).bind
  intro _
  apply (Reader.keeps_read _ _).bind
  intro versionNet
  apply (Reader.keeps_failIf _ _).bind
  intro _
  apply (Reader.keeps_read _ _).bind
  intro typeByte
  apply (Reader.keeps_failIf _ _).bind
  intro _
  apply (Reader.keeps_read _ _).bind
  intro requestIdNet
  exact Reader.keeps_pure _

theorem loadString_keeps (err : Bytes) : (loadString err).Keeps := by
  unfold loadString
  apply (Reader.keeps_read _ _).bind
  intro netLen
  exact Reader.keeps_read _ _

theorem RpcRequest.readFields_keeps : RpcRequest.readFields.Keeps := by
  unfold readFields
  apply (readHead_keeps _ _).bind
  intro requestIdHost
  apply (loadString_keeps _).bind
  intro service
  apply (loadString_keeps _).bind
  intro method
  apply (loadString_keeps _).bind
  intro payload
  apply Reader.keeps_leftLen.bind
  intro left
  apply (Reader.keeps_failIf _ _).bind
  intro _
  exact Reader.keeps_pure _

theorem RpcResponse.readFields_keeps : RpcResponse.readFields.Keeps := by
  unfold readFields
  apply (readHead_keeps _ _).bind
  intro requestIdHost
  apply (Reader.keeps_read _ _).bind
  intro successByte
  apply (Reader.keeps_failIf _ _).bind
  intro _
  apply (Reader.keeps_read _ _).bind
  intro errorCodeNet
  apply (Reader.keeps_failIf _ _).bind
  intro _
  apply (Reader.keeps_failIf _ _).bind
  intro _
  apply (loadString_keeps _).bind
  intro payload
  apply (loadString_keeps _).bind
  intro errorMessage
  apply Reader.keeps_leftLen.bind
  intro left
  apply (Reader.keeps_failIf _ _).bind
  intro _
  apply (Reader.keeps_failIf _ _).bind
  intro _
  exact Reader.keeps_pure _

theorem RpcCancel.readFields_keeps : RpcCancel.readFields.Keeps := by
  unfold readFields
  apply (readHead_keeps _ _).bind
  intro requestIdHost
  apply Reader.keeps_leftLen.bind
  intro left
  apply (Reader.keeps_failIf _ _).bind
  intro _
  exact Reader.keeps_pure _

/-! ### The writes of the encoders -/

/-- The writes of an encoder that resizes `output` to `msgLen` and copies `fields` there. -/
structure WritesExactly (msgLen : ℕ) (output : Bytes) (fields : List Bytes) : Prop where
  /-- After any number of the copies the buffer has its size and nothing else was written. -/
  steps : ∀ k, ((⟨resize msgLen output, 0, []⟩ : WriteCursor).fill (fields.take k)).Sound msgLen
  /-- In the end every byte was written, in order and once. -/
  touched : touched ((⟨resize msgLen output, 0, []⟩ : WriteCursor).fill fields).writes =
    List.range msgLen

theorem writes_cover (output : Bytes) {fields : List Bytes} {msgLen : ℕ}
    (h : msgLen = fields.flatten.length) : WritesExactly msgLen output fields := by
  have hsteps : ∀ k,
      ((⟨resize msgLen output, 0, []⟩ : WriteCursor).fill (fields.take k)).Sound msgLen := by
    intro k
    apply (WriteCursor.sound_start msgLen output).fill
    have hsplit : (fields.take k).flatten.length + (fields.drop k).flatten.length =
        fields.flatten.length := by
      rw [← List.length_append, ← List.flatten_append, List.take_append_drop]
    show 0 + (fields.take k).flatten.length ≤ msgLen
    omega
  constructor
  · exact hsteps
  · have hall := (hsteps fields.length).touched
    rw [List.take_length] at hall
    rw [hall, WriteCursor.index_fill, h, Nat.zero_add]

/-! ### All accesses -/

/-- Every access of the codec is within its buffer. -/
structure CodecInBounds : Prop where
  /-- The decoders, on any message and whether they accept it or not. -/
  decode : ∀ msg : Bytes,
    (RpcRequest.readFields.runFrom (.start msg)).2.Sound msg ∧
      (RpcResponse.readFields.runFrom (.start msg)).2.Sound msg ∧
        (RpcCancel.readFields.runFrom (.start msg)).2.Sound msg
  /-- `loadString`, from any place of any message and for any length it finds there. -/
  loadString : ∀ (msg err : Bytes) (c : ReadCursor), c.Sound msg →
    ((loadString err).runFrom c).2.Sound msg
  decodeHead : ∀ msg : Bytes,
    (readMessageType.runFrom (.start msg)).1 = .ok (decodeHead msg) ∧
      ∀ a ∈ (readMessageType.runFrom (.start msg)).2.reads, a.Within msg.length
  encodeRequest : ∀ (r : RpcRequest) (output err : Bytes), r.Encodable →
    let msgLen := RpcRequest.OutputMessageLen r.service_.length r.method_.length r.payload_.length
    (r.encode output err).2.1 = writeFields msgLen output r.fields ∧
      WritesExactly msgLen output r.fields
  encodeResponse : ∀ (r : RpcResponse) (output err : Bytes), r.Valid →
    let msgLen := RpcResponse.OutputMessageLen r.payload_.length r.errorMessage_.length
    (r.encode output err).2.1 = writeFields msgLen output r.fields ∧
      WritesExactly msgLen output r.fields
  encodeCancel : ∀ (r : RpcCancel) (output err : Bytes),
    (r.encode output err).2.1 = writeFields RpcCancel.kCancelMessageLen output r.fields ∧
      WritesExactly RpcCancel.kCancelMessageLen output r.fields

/-- **The codec stays within its buffers.** -/
theorem codecs_inBounds : CodecInBounds where
  decode msg := by
    have hstart := ReadCursor.sound_start msg
    refine ⟨?_, ?_, ?_⟩
    · exact RpcRequest.readFields_keeps _ _ hstart
    · exact RpcResponse.readFields_keeps _ _ hstart
    · exact RpcCancel.readFields_keeps _ _ hstart
  loadString msg err c h := loadString_keeps err c msg h
  decodeHead msg := ⟨(readMessageType_run msg).1, decodeHead_within msg⟩
  encodeRequest r output err hr := by
    have hlen := (RpcRequest.length_flatten_fields r).symm
    refine ⟨?_, writes_cover output hlen⟩
    rw [RpcRequest.encode_eq hr, writeFields_eq _ _ hlen]
  encodeResponse r output err hr := by
    have hlen := (RpcResponse.length_flatten_fields r).symm
    refine ⟨?_, writes_cover output hlen⟩
    rw [RpcResponse.encode_eq hr, writeFields_eq _ _ hlen]
  encodeCancel r output err := by
    have hlen := (RpcCancel.length_flatten_fields r).symm
    refine ⟨?_, writes_cover output hlen⟩
    rw [RpcCancel.encode_eq, writeFields_eq _ _ hlen]

end MiniRpc
