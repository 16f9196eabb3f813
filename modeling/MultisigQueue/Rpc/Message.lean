/-
Module: MultisigQueue.Rpc.Message
Purpose: Requests to a node as documents, and what its responses mean.
Main exports:
  Rpc.Request, Rpc.HttpResponse, Rpc.callParams, RpcError.ofObject, Rpc.result, Rpc.callResult
-/
import MultisigQueue.Argument.Octets
import MultisigQueue.Json.Reader
import MultisigQueue.Json.Writer
import MultisigQueue.Text.Encoding

namespace MultisigQueue

/-!
A request names a method and its parameters under an id. A response is a document with an error or a
result; everything else breaks the protocol and is reported with what was found instead. Only a
document that is beyond the limits of reading is no fault of the node.
-/

/-- An error as a node gives it: an object with a code, a message and perhaps some data. -/
def RpcError.ofObject (given method requestId httpStatus : Value) : Except InputError RpcError :=
  match given with
  | .object fields => do
    let code ← ((Value.field? fields "code").getD (.int serverCode)).toInt
    let message := ((Value.field? fields "message").getD (.text "Unknown JSON-RPC error")).asText
    let data := (Value.field? fields "data").getD .null
    return { code, message, method, data, requestId, httpStatus }
  | other => .error (.noAttribute other.kindName "get")

namespace Rpc

/-- A request to a node. -/
structure Request where
  id : Int
  method : Value
  params : Value

/-- A response as it came over the wire. -/
structure HttpResponse where
  status : Int
  body : Bytes
deriving DecidableEq, Repr

/-- Whether a status promises that another attempt may succeed. -/
def isTransientStatus (status : Int) : Bool := [429, 502, 503, 504].contains status

/-- How a status is told in words. -/
def statusText (status : Int) : String := "HTTP " ++ Numeral.decimal status

/-- Parameters by position or by name; anything else is the only one by position. -/
def paramsOf : Value → Value
  | .null => .list []
  | .list items => .list items
  | .object fields => .object fields
  | single => .list [single]

namespace Request

/-- A request as a value. -/
def payload (r : Request) : Value :=
  .object
    [("jsonrpc", .text "2.0"), ("id", .int r.id), ("method", r.method),
     ("params", paramsOf r.params)]

/-- A request as a document. -/
def body (r : Request) : Except InputError String := Json.strict Json.compact r.payload

end Request

/-- A block by its number or by its name. -/
def blockParam : Value → Value
  | .int n => .text (Numeral.hexadecimal n)
  | .bool b => .text (Numeral.hexadecimal (if b then 1 else 0))
  | name => name

/-- The parameters of a read-only call. -/
def callParams (target : Address) (data : Bytes) (block : Value) : Value :=
  .list
    [.object [("to", .text target.checksummed), ("data", .text (Hex.ofBytes data))],
     blockParam block]

/-- An answer that breaks the protocol. -/
def broken (message : String) (method data httpStatus : Value) : RpcError :=
  { code := RpcError.internalCode, message := .text message, method, data, httpStatus }

/-- How much of a body is shown that is no document. -/
def shownLength : Nat := 256

/-- The document in a body, if it is one. -/
def document? (body : Bytes) : Except InputError (Option Value) :=
  match (Encoding.decode? body).map Json.parseChars with
  | none | some (.error .malformed) => .ok none
  | some (.error (.tooLong digits)) => .error (.tooManyDigits digits)
  | some (.error (.tooDeep isObject)) => .error (.tooDeep isObject)
  | some (.ok value) => .ok (some value)

/-- The result in a response to a method. -/
def result (method : Value) (r : HttpResponse) : Except Fault Value := do
  let found : Option Value ← document? r.body
  match found with
  | none =>
    let start := String.ofList ((Utf8.decodeLossy r.body).take shownLength)
    throw (.rpc (broken "Non-JSON response from RPC" method
      (.text (statusText r.status ++ ": " ++ start)) (.int r.status)))
  | some (.object fields) =>
    match Value.field? fields "error" with
    | none | some .null =>
      match Value.field? fields "result" with
      | some value => return value
      | none => throw (.rpc (broken "Malformed JSON-RPC response" method (.object fields) .null))
    | some given =>
      let id := (Value.field? fields "id").getD .null
      throw (.rpc (← RpcError.ofObject given method id (.int r.status)))
  | some other =>
    throw (.rpc (broken "Invalid JSON-RPC response type" method (.text other.kindName) .null))

/-- The name of the method of read-only calls. -/
def callMethod : Value := .text "eth_call"

/-- The return data in the result of a read-only call. -/
def callResult (result : Value) : Except RpcError Bytes :=
  match result with
  | .text _ | .unpaired _ =>
    match result.hexBytes with
    | .ok bytes => .ok bytes
    | .error _ => .error (broken "eth_call result is not valid hex" callMethod result .null)
  | other => .error (broken "eth_call result is not a hex string" callMethod other .null)

/-- The chain id in the result of a request for it. -/
def chainIdResult (result : Value) : Except InputError Int :=
  let text := result.asText
  match text with
  | .unpaired codePoints => text.ofNumeral 16 (codePoints.map Text.charOf)
  | other => text.ofNumeral 16 other.plain.toList

end Rpc

end MultisigQueue
