/-
Module: MultisigQueue.Error.Report
Purpose: Errors as they are reported: their parts, and all of it in one line.
Main exports:
  Report, Report.text, RpcError.report, AbiError.report, codeName?
-/
import MultisigQueue.Error
import MultisigQueue.Value.Equality

namespace MultisigQueue

/-!
A report can also be put together by hand, so its parts are loosely typed. What is missing, or
counts as missing, is left out of the line.
-/

/-- An error as it is reported. -/
inductive Report where
  | rpc (transport : Bool) (code message method data requestId httpStatus : Value)
  | abi (authorization : Bool) (message function details : Value)
  | config (message field : Value)

/-- The codes of node errors that have a name. -/
def codeNames : List (Int × String) :=
  [(-32700, "PARSE_ERROR"), (-32600, "INVALID_REQUEST"), (-32601, "METHOD_NOT_FOUND"),
   (-32602, "INVALID_PARAMS"), (-32603, "INTERNAL_ERROR"), (-32000, "SERVER_ERROR"),
   (-32098, "TRANSPORT_FAILED"), (3, "EXECUTION_REVERTED")]

/-- The name of a code that is the number of one with a name. -/
def codeName? (code : Value) : Option String :=
  (codeNames.find? fun entry => code.equals (.int entry.1)).map Prod.snd

namespace Report

/-- The families that an error belongs to, from its own to the one of all. -/
def families : Report → List String
  | rpc true .. => ["TransportError", "RpcError", "HarbourSdkError"]
  | rpc false .. => ["RpcError", "HarbourSdkError"]
  | abi true .. => ["EncodingError", "AbiError", "HarbourSdkError"]
  | abi false .. => ["AbiError", "HarbourSdkError"]
  | config .. => ["ConfigError", "HarbourSdkError"]

/-- The name of an error's own family. -/
def family (r : Report) : String := r.families.head?.getD ""

/-- A part of the line that is left out where the value is missing. -/
def part (label : String) (spell : Value → List Nat) : Value → List Nat
  | .null => []
  | value => Text.points label ++ spell value

/-- The code points of the error in one line. -/
def points (r : Report) : List Nat :=
  match r with
  | rpc _ code message method data requestId httpStatus =>
    let place := if method.isTrue then method.plainPoints else Text.points "-"
    let shown := fun value => Text.points (Value.shown value)
    Text.points "RPC[" ++ place ++ Text.points "] code=" ++ code.plainPoints ++
      Text.points " msg=" ++ shown message ++ part " id=" Value.plainPoints requestId ++
      part " http=" Value.plainPoints httpStatus ++ part " data=" shown data
  | abi _ message function details =>
    let place :=
      if function.isTrue then Text.points " [fn=" ++ function.plainPoints ++ Text.points "]" else []
    let tail :=
      if details.isTrue then Text.points " (" ++ details.plainPoints ++ Text.points ")" else []
    Text.points r.family ++ place ++ Text.points ": " ++ message.plainPoints ++ tail
  | config message _ => message.plainPoints

/-- The error in one line. -/
def text (r : Report) : Value := .ofPoints r.points

end Report

/-- A text that may be missing, as a value. -/
def Value.ofText? (text : Option String) : Value := (text.map Value.text).getD .null

/-- A node error as it is reported. -/
def RpcError.report (e : RpcError) : Report :=
  .rpc e.transport (.int e.code) e.message e.method e.data e.requestId e.httpStatus

/-- A failed encoding or decoding as it is reported. -/
def AbiError.report (e : AbiError) : Report :=
  .abi e.authorization (.text e.message) (.ofText? e.function) (.ofText? e.details)

end MultisigQueue
