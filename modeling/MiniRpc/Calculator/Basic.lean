import MiniRpc.RpcClient.Basic
import MiniRpc.RpcServer.Registrations

/-!
# The calculator

The messages of the calculator (`CalculatorProtocol`), the handler that `CalculatorService`
registers and the callback with which `CalculatorClient` reads the response.  An `int32_t` is an
`Int32`; in memory it is the unsigned integer with the same bits.
-/

namespace MiniRpc

/-! ### `CalculatorProtocol` -/

structure CalculatorProtocol where
  a_ : Int32
  b_ : Int32
  result_ : Int32
  deriving DecidableEq

namespace CalculatorProtocol

/-- The constructor with operands. -/
def ofOperands (a b : Int32) : CalculatorProtocol := ⟨a, b, 0⟩

/-- The default constructor. -/
def empty : CalculatorProtocol := ofOperands 0 0

/-- The bytes that are copied into a message for an `int32_t`. -/
def int32Bytes (x : Int32) : Bytes :=
  let net := if host = .little then hton 4 x.toUInt32.toNat else x.toUInt32.toNat
  toMemory host 4 net

/-- The `int32_t` whose bytes were copied out of a message. -/
def ofInt32Bytes (bs : Bytes) : Int32 :=
  let net := ofMemory host bs
  (UInt32.ofNat (if host = .little then hton 4 net else net)).toInt32

def requestEncode (p : CalculatorProtocol) : Bytes :=
  writeFields 8 [] [int32Bytes p.a_, int32Bytes p.b_]

/-- Whether the message was decoded, the object and the error text. -/
def requestDecode (self : CalculatorProtocol) (msg _errorMessage : Bytes) :
    Bool × CalculatorProtocol × Bytes :=
  let errorMessage := []
  if msg.length ≠ 8 then (false, self, errorMessage ++ text "invalid add request")
  else
    let a := ofInt32Bytes (msg.take 4)
    let b := ofInt32Bytes ((msg.drop 4).take 4)
    (true, { self with a_ := a, b_ := b }, errorMessage)

def resultEncode (p : CalculatorProtocol) : Bytes := writeFields 4 [] [int32Bytes p.result_]

def resultDecode (self : CalculatorProtocol) (msg _errorMessage : Bytes) :
    Bool × CalculatorProtocol × Bytes :=
  let errorMessage := []
  if msg.length ≠ 4 then (false, self, errorMessage ++ text "invalid result response")
  else (true, { self with result_ := ofInt32Bytes (msg.take 4) }, errorMessage)

end CalculatorProtocol

/-! ### `CalculatorService` -/

namespace CalculatorService

open RpcServer

/-- The handler of `Add`. -/
def add (payload : Bytes) : RpcResult :=
  let (res, calculatorAdd, errorMessage) := CalculatorProtocol.empty.requestDecode payload []
  if res = false ∨ errorMessage ≠ [] then
    .ofResult kUnsuccess [] (text "invalid add request")
  else
    let result : Int64 := calculatorAdd.a_.toInt64 + calculatorAdd.b_.toInt64
    if result > Int32.maxValue.toInt64 ∨ result < Int32.minValue.toInt64 then
      .ofResult kUnsuccess [] (text "integer overflow")
    else
      let calculatorAdd := { calculatorAdd with result_ := result.toInt32 }
      .ofResult kSuccess calculatorAdd.resultEncode []

/-- Register `add`, known to the server by the name `handler`. -/
def registerCalculatorService (server : Registrations) (handler : RpcHandler) :
    Bool × Registrations :=
  server.registerMethod (text "Calculator") (text "Add") (some handler)

end CalculatorService

/-! ### `CalculatorClient` -/

structure AddResult where
  status : ResponseResult
  errorCode : RpcErrorCode
  value : Int32
  errorMessage : Bytes
  deriving DecidableEq

namespace CalculatorClient

/-- What the callback of `wrapAddCallback` passes on for a response. -/
def wrapAddCallback (response : RpcResponse) : AddResult :=
  if response.responseResult_ = kSuccess then
    let (result, calculatorAdd, errorMessage) :=
      CalculatorProtocol.empty.resultDecode response.payload_ []
    if result = false ∨ errorMessage ≠ [] then ⟨kUnsuccess, .INTERNAL_ERROR, 0, errorMessage⟩
    else ⟨kSuccess, .NO_ERROR, calculatorAdd.result_, []⟩
  else ⟨kUnsuccess, response.errorCode_, 0, response.errorMessage_⟩

/-- The arguments with which `add` calls the client. -/
def add (cfg : RpcClient.Config) (a b : Int32) (callback : RpcClient.RpcCallback) :
    RpcClient.CallArgs :=
  cfg.callArgs (text "Calculator") (text "Add") (CalculatorProtocol.ofOperands a b).requestEncode
    callback

/-- The arguments of the overload of `add` with a timeout. -/
def addWithTimeout (cfg : RpcClient.Config) (a b : Int32) (callback : RpcClient.RpcCallback)
    (timeout : ℕ) : RpcClient.CallArgs :=
  cfg.callArgsWithTimeout (text "Calculator") (text "Add")
    (CalculatorProtocol.ofOperands a b).requestEncode callback timeout

end CalculatorClient

end MiniRpc
