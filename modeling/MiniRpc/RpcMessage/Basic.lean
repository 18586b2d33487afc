import MiniRpc.Bytes.Cursor

/-!
# The RPC messages and their codec

The three message types of the protocol with `encode` and `decode` as `RpcMessage.cc` computes
them: encoding resizes the output and copies the fields to it through a running index, decoding
reads them back through the pair `index`/`leftLen`.  `decode` takes the object it is called on and
the error text so far, and returns whether it succeeded, the object and the error text.

`ResponseResult` and `RpcErrorCode` are wrapped integers, since the C++ enumerations can hold
values that no enumerator names and the encoder checks for them.  Lengths are unbounded numbers:
a `size_t` sum of the lengths of strings that fit in memory does not wrap.
-/

namespace MiniRpc

/-- The bytes of a string literal. -/
def text (s : String) : Bytes := s.toUTF8.data.toList

/-- The byte order of the host.  What is sent does not depend on it (`toMemory_swap`). -/
def host : Endian := .little

/-- Host to network order for a `w`-byte integer. -/
def hton (w n : ℕ) : ℕ := swap host w n

/-- Network to host order for a `w`-byte integer. -/
def ntoh (w n : ℕ) : ℕ := hton w n

/-- What is copied into a message for a `w`-byte integer. -/
def netBytes (w n : ℕ) : Bytes := toMemory host w (hton w n)

/-- The `w`-byte integer whose bytes were copied out of a message. -/
def hostValue (w : ℕ) (bs : Bytes) : ℕ := ntoh w (ofMemory host bs)

def UINT32_MAX : ℕ := 4294967295

def kRpcProtocolVersion : ℕ := 2

def VERSION_LEN : ℕ := 2
def REQUEST_TYPE_LEN : ℕ := 1
def REQUEST_ID_LEN : ℕ := 8
def SERVICE_NAME_LEN : ℕ := 4
def METHOD_NAME_LEN : ℕ := 4
def RESPONSE_RESULT_LEN : ℕ := 1
def ERROR_CODE_LEN : ℕ := 2
def PALOAD_MESSAGE_LEN : ℕ := 4
def ERROR_MESSAGE_LEN : ℕ := 4

/-- `LengthHeaderCodec::kMaxMessageSize`: 64 MiB. -/
def kMaxMessageSize : ℕ := 67108864

/-! ### Enumerations -/

inductive RpcMessageType
  | kRequest
  | kResponse
  | kCancel
  deriving DecidableEq, Repr

/-- The value of a message type on the wire. -/
def RpcMessageType.value : RpcMessageType → ℕ
  | .kRequest => 0
  | .kResponse => 1
  | .kCancel => 2

/-- The result of a call, as the integer the C++ enumeration holds. -/
@[ext]
structure ResponseResult where
  value : UInt32
  deriving DecidableEq, Repr

def kSuccess : ResponseResult := ⟨0⟩
def kUnsuccess : ResponseResult := ⟨1⟩

/-- The error code of a response, as the integer the C++ enumeration holds. -/
@[ext]
structure RpcErrorCode where
  value : UInt16
  deriving DecidableEq, Repr

namespace RpcErrorCode

def NO_ERROR : RpcErrorCode := ⟨0⟩
def REQUEST_TIMEOUT : RpcErrorCode := ⟨1⟩
def REQUEST_CANCELED : RpcErrorCode := ⟨2⟩
def CONNECTION_CLOSED : RpcErrorCode := ⟨3⟩
def METHOD_NOT_FOUND : RpcErrorCode := ⟨4⟩
def BUSINESS_ERROR : RpcErrorCode := ⟨5⟩
def RECONNECT_TIMEOUT : RpcErrorCode := ⟨6⟩
def MESSAGE_TOO_LARGE : RpcErrorCode := ⟨7⟩
def RESOURCE_EXHAUSTED : RpcErrorCode := ⟨8⟩
def CONNECTION_UNAVAILABLE : RpcErrorCode := ⟨9⟩
def INTERNAL_ERROR : RpcErrorCode := ⟨10⟩
def ERROR_CODE_CNT : RpcErrorCode := ⟨11⟩

end RpcErrorCode

/-! ### The head of a message -/

/-- The type of a message of the supported version, `none` where the source returns `false`. -/
def decodeHead (msg : Bytes) : Option RpcMessageType :=
  if msg.length < VERSION_LEN + REQUEST_TYPE_LEN then none
  else
    let version := hostValue VERSION_LEN (msg.take VERSION_LEN)
    let type := hostValue REQUEST_TYPE_LEN ((msg.drop VERSION_LEN).take REQUEST_TYPE_LEN)
    if version ≠ kRpcProtocolVersion then none
    else if type = RpcMessageType.kRequest.value then some .kRequest
    else if type = RpcMessageType.kResponse.value then some .kResponse
    else if type = RpcMessageType.kCancel.value then some .kCancel
    else none

/-- The checks and reads the three decoders start with: version, type and request id. -/
def readHead (type : RpcMessageType) (illegalType : Bytes) : Reader ℕ := do
  let left ← Reader.leftLen
  Reader.failIf (left ≤ 0) (text "length <= 0")
  let versionNet ← Reader.read VERSION_LEN (text "version length error")
  Reader.failIf (hostValue VERSION_LEN versionNet ≠ kRpcProtocolVersion)
    (text "unsupported rpc protocol version")
  let typeByte ← Reader.read REQUEST_TYPE_LEN (text "type length error")
  Reader.failIf (hostValue REQUEST_TYPE_LEN typeByte ≠ type.value) illegalType
  let requestIdNet ← Reader.read REQUEST_ID_LEN (text "request id length error")
  return hostValue REQUEST_ID_LEN requestIdNet

/-- Read a length and that many bytes; `err` is what the caller reports when either is cut
short. -/
def loadString (err : Bytes) : Reader Bytes := do
  let netLen ← Reader.read 4 err
  Reader.read (hostValue 4 netLen) err

/-- The part common to the three `encode` routines: resize the output to `msgLen` and copy the
fields to it in order. -/
def writeFields (msgLen : ℕ) (output : Bytes) (fields : List Bytes) : Bytes :=
  ((⟨resize msgLen output, 0, []⟩ : WriteCursor).fill fields).data

/-- The part common to the three `decode` routines: the object and the error text after reading
`fields` from `msg`, and whether it succeeded. -/
def decodeWith {α : Type} (fields : Reader α) (self : α) (msg errorMsg : Bytes) :
    Bool × α × Bytes :=
  match (fields.runFrom (.start msg)).1 with
  | .error err => (false, self, errorMsg ++ err)
  | .ok value => (true, value, errorMsg)

/-! ### Requests -/

@[ext]
structure RpcRequest where
  requestId_ : UInt64
  service_ : Bytes
  method_ : Bytes
  payload_ : Bytes
  deriving DecidableEq, Repr

namespace RpcRequest

/-- The default-constructed request. -/
def empty : RpcRequest := ⟨0, [], [], []⟩

def OutputMessageLen (serviceNameLen methodNameLen payloadLen : ℕ) : ℕ :=
  VERSION_LEN + REQUEST_TYPE_LEN + REQUEST_ID_LEN + SERVICE_NAME_LEN + METHOD_NAME_LEN +
    PALOAD_MESSAGE_LEN + serviceNameLen + methodNameLen + payloadLen

/-- The fields in the order they are copied. -/
def fields (r : RpcRequest) : List Bytes :=
  [netBytes 2 kRpcProtocolVersion, netBytes 1 RpcMessageType.kRequest.value,
    netBytes 8 r.requestId_.toNat, netBytes 4 r.service_.length, r.service_,
    netBytes 4 r.method_.length, r.method_, netBytes 4 r.payload_.length, r.payload_]

def encode (r : RpcRequest) (output errorMessage : Bytes) : Bool × Bytes × Bytes :=
  if r.service_.length > UINT32_MAX ∨ r.method_.length > UINT32_MAX ∨
      r.payload_.length > UINT32_MAX then
    (false, output, errorMessage ++ text "service_ or method or payload out of capacity!")
  else
    let msgLen := OutputMessageLen r.service_.length r.method_.length r.payload_.length
    (true, writeFields msgLen output r.fields, errorMessage)

/-- The reads of `decode`, in order. -/
def readFields : Reader RpcRequest := do
  let requestIdHost ← readHead .kRequest (text "illegal request type")
  let service ← loadString (text "service load error")
  let method ← loadString (text "method load error")
  let payload ← loadString (text "payload load error")
  let left ← Reader.leftLen
  Reader.failIf (left ≠ 0) (text "msg length too much")
  return ⟨UInt64.ofNat requestIdHost, service, method, payload⟩

def decode (self : RpcRequest) (requestMsg errorMsg : Bytes) : Bool × RpcRequest × Bytes :=
  decodeWith readFields self requestMsg errorMsg

end RpcRequest

/-! ### Responses -/

@[ext]
structure RpcResponse where
  requestId_ : UInt64
  responseResult_ : ResponseResult
  errorCode_ : RpcErrorCode
  payload_ : Bytes
  errorMessage_ : Bytes
  deriving DecidableEq, Repr

namespace RpcResponse

/-- The default-constructed response. -/
def empty : RpcResponse := ⟨0, kUnsuccess, .INTERNAL_ERROR, [], []⟩

def OutputMessageLen (payloadLen errorMessageLen : ℕ) : ℕ :=
  VERSION_LEN + REQUEST_TYPE_LEN + REQUEST_ID_LEN + RESPONSE_RESULT_LEN + ERROR_CODE_LEN +
    PALOAD_MESSAGE_LEN + ERROR_MESSAGE_LEN + payloadLen + errorMessageLen

/-- The fields in the order they are copied. -/
def fields (r : RpcResponse) : List Bytes :=
  [netBytes 2 kRpcProtocolVersion, netBytes 1 RpcMessageType.kResponse.value,
    netBytes 8 r.requestId_.toNat, netBytes 1 r.responseResult_.value.toNat,
    netBytes 2 r.errorCode_.value.toNat, netBytes 4 r.payload_.length, r.payload_,
    netBytes 4 r.errorMessage_.length, r.errorMessage_]

def encode (r : RpcResponse) (output errorMessage : Bytes) : Bool × Bytes × Bytes :=
  if r.payload_.length > UINT32_MAX ∨ r.errorMessage_.length > UINT32_MAX then
    (false, output, errorMessage ++ text "payload or error message out of capacity!")
  else if (r.responseResult_ = kSuccess ∧ r.errorMessage_ ≠ []) ∨
      (r.responseResult_ = kUnsuccess ∧ r.payload_ ≠ []) then
    (false, output, errorMessage ++ text "traffic error!")
  else if r.responseResult_ ≠ kSuccess ∧ r.responseResult_ ≠ kUnsuccess then
    (false, output, errorMessage ++ text "illegal response result")
  else if r.errorCode_.value ≥ RpcErrorCode.ERROR_CODE_CNT.value then
    (false, output, errorMessage ++ text "error code invalid")
  else if (r.responseResult_ = kSuccess ∧ r.errorCode_ ≠ .NO_ERROR) ∨
      (r.responseResult_ = kUnsuccess ∧ r.errorCode_ = .NO_ERROR) then
    (false, output, errorMessage ++ text "response result and error code not Compatible")
  else
    let msgLen := OutputMessageLen r.payload_.length r.errorMessage_.length
    (true, writeFields msgLen output r.fields, errorMessage)

/-- The reads of `decode`, in order.  The result and the error code are checked as integers, the
first two checks before the strings are loaded and the last one after. -/
def readFields : Reader RpcResponse := do
  let requestIdHost ← readHead .kResponse (text "illegal response type")
  let successByte ← Reader.read 1 (text "response result length error")
  let success := hostValue 1 successByte
  Reader.failIf (success ≠ kSuccess.value.toNat ∧ success ≠ kUnsuccess.value.toNat)
    (text "illegal response result")
  let errorCodeNet ← Reader.read 2 (text "response result length error")
  let errorCode := hostValue 2 errorCodeNet
  Reader.failIf (errorCode ≥ RpcErrorCode.ERROR_CODE_CNT.value.toNat) (text "error code invalid")
  Reader.failIf
    ((success = kSuccess.value.toNat ∧ errorCode ≠ RpcErrorCode.NO_ERROR.value.toNat) ∨
      (success = kUnsuccess.value.toNat ∧ errorCode = RpcErrorCode.NO_ERROR.value.toNat))
    (text "response result and error code not Compatible")
  let payload ← loadString (text "payload load error")
  let errorMessage ← loadString (text "error message load error")
  let left ← Reader.leftLen
  Reader.failIf (left ≠ 0) (text "msg length too much")
  Reader.failIf
    ((success = kSuccess.value.toNat ∧ errorMessage ≠ []) ∨
      (success = kUnsuccess.value.toNat ∧ payload ≠ []))
    (text "数据格式出错")
  return ⟨UInt64.ofNat requestIdHost, ⟨UInt32.ofNat success⟩, ⟨UInt16.ofNat errorCode⟩, payload,
    errorMessage⟩

def decode (self : RpcResponse) (requestMsg errorMsg : Bytes) : Bool × RpcResponse × Bytes :=
  decodeWith readFields self requestMsg errorMsg

end RpcResponse

/-! ### Cancels -/

@[ext]
structure RpcCancel where
  requestId_ : UInt64
  deriving DecidableEq, Repr

namespace RpcCancel

/-- The default-constructed cancel. -/
def empty : RpcCancel := ⟨0⟩

/-- The fields in the order they are copied. -/
def fields (r : RpcCancel) : List Bytes :=
  [netBytes 2 kRpcProtocolVersion, netBytes 1 RpcMessageType.kCancel.value,
    netBytes 8 r.requestId_.toNat]

def encode (r : RpcCancel) (output errorMessage : Bytes) : Bool × Bytes × Bytes :=
  let kCancelMessageLen := VERSION_LEN + REQUEST_TYPE_LEN + REQUEST_ID_LEN
  (true, writeFields kCancelMessageLen output r.fields, errorMessage)

/-- The reads of `decode`, in order. -/
def readFields : Reader RpcCancel := do
  let requestIdHost ← readHead .kCancel (text "illegal cancel type")
  let left ← Reader.leftLen
  Reader.failIf (left > 0) (text "cancel length error")
  return ⟨UInt64.ofNat requestIdHost⟩

def decode (self : RpcCancel) (message errorMsg : Bytes) : Bool × RpcCancel × Bytes :=
  decodeWith readFields self message errorMsg

end RpcCancel

/-! ### Frames -/

/-- A message of one of the three types. -/
inductive RpcMessage
  | request (request : RpcRequest)
  | response (response : RpcResponse)
  | cancel (cancel : RpcCancel)
  deriving DecidableEq, Repr

/-- The message a frame carries, if the decoder of its type accepts it. -/
def RpcMessage.ofFrame? (frame : Bytes) : Option RpcMessage :=
  match decodeHead frame with
  | none => none
  | some .kRequest =>
    match RpcRequest.empty.decode frame [] with
    | (true, r, []) => some (.request r)
    | _ => none
  | some .kResponse =>
    match RpcResponse.empty.decode frame [] with
    | (true, r, []) => some (.response r)
    | _ => none
  | some .kCancel =>
    match RpcCancel.empty.decode frame [] with
    | (true, r, []) => some (.cancel r)
    | _ => none

/-- The frame carries a request with this id. -/
def carriesRequest (id : UInt64) (frame : Bytes) : Bool :=
  match RpcMessage.ofFrame? frame with
  | some (.request request) => request.requestId_ = id
  | _ => false

/-- The frame carries a cancel with this id. -/
def carriesCancel (id : UInt64) (frame : Bytes) : Bool :=
  match RpcMessage.ofFrame? frame with
  | some (.cancel cancel) => cancel.requestId_ = id
  | _ => false

/-- The frame carries a response with this id. -/
def carriesResponse (id : UInt64) (frame : Bytes) : Bool :=
  match RpcMessage.ofFrame? frame with
  | some (.response response) => response.requestId_ = id
  | _ => false

end MiniRpc
