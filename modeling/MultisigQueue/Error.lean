/-
Module: MultisigQueue.Error
Purpose: Everything else that can go wrong, by cause, and all of it in one type.
Main exports:
  AbiError, RpcError, FieldFailure, ConfigError, Fault
-/
import MultisigQueue.Error.Input

namespace MultisigQueue

/-!
There are four families. `InputError` is an argument that cannot be read; `AbiError` is a request or
a reply that cannot be encoded or decoded; `RpcError` is an answer of a node that is an error, or no
answer at all; `ConfigError` is a refused change of the settings. `Fault` joins them for operations
that can meet several.
-/

/-- What failed about a request or reply as a whole. -/
inductive AbiFailure where
  /-- A function takes another number of arguments. -/
  | argumentCount (expected got : Nat)
  /-- The arguments do not fit the types of the inputs. -/
  | arguments
  /-- The return data is not an encoding of the outputs. -/
  | returnData
  /-- Calldata starts with the selector of another function. -/
  | selectorMismatch (found : Bytes)
  /-- The calldata is not an encoding of the inputs. -/
  | calldata
  /-- The values do not fit the types of the outputs. -/
  | returnValues
  /-- A batch came back with another number of results than the one expected, as it is written. -/
  | resultCount (got : Nat) (expected : String)
  /-- There is nothing to authorise with. -/
  | noSignatures
  /-- Any other failure, in its own words. -/
  | other (message : String) (details : Option String)
deriving DecidableEq, Repr

/-- A request or reply that cannot be encoded or decoded. -/
structure AbiError where
  failure : AbiFailure
  function : Option String := none
  /-- Whether an authorization was to be encoded. -/
  authorization : Bool := false
deriving DecidableEq, Repr

namespace AbiError

/-- The wording of each failure. -/
def message (e : AbiError) : String :=
  match e.failure with
  | .argumentCount expected got => s!"expected {expected} arguments, got {got}"
  | .arguments => "argument encoding failed"
  | .returnData => "return data decoding failed"
  | .selectorMismatch _ => "selector mismatch"
  | .calldata => "calldata decoding failed"
  | .returnValues => "return encoding failed"
  | .resultCount got expected => s!"aggregate3 returned {got} results for {expected} calls"
  | .noSignatures => "cannot encode an authorization without signatures"
  | .other message _ => message

/-- What else is known about a failure; nothing is known in general about a codec's refusal. -/
def details (e : AbiError) : Option String :=
  match e.failure with
  | .selectorMismatch found => some (Hex.bare found)
  | .other _ details => details
  | _ => none

/-- Whether the codec refused, rather than a check before or after it. -/
def isCodecRefusal (e : AbiError) : Bool :=
  match e.failure with
  | .arguments | .returnData | .calldata | .returnValues => true
  | _ => false

end AbiError

/-- An error that a node answered, or the absence of an answer. A node chooses the words of its
error, and a caller the name of the method, so both may be anything. -/
structure RpcError where
  code : Int
  message : Value
  method : Value := .null
  data : Value := .null
  requestId : Value := .null
  httpStatus : Value := .null
  /-- Whether the round trip itself failed. -/
  transport : Bool := false
deriving Inhabited

namespace RpcError

/-- The code of an answer that breaks the protocol. -/
def internalCode : Int := -32603

/-- The code of a server that names none. -/
def serverCode : Int := -32000

/-- The code of a failed round trip. -/
def transportCode : Int := -32098

/-- The code of a reverted call. -/
def revertedCode : Int := 3

/-- What a failed round trip is told in. -/
def transportMessage : Value := .text "RPC transport failed"

/-- A failed round trip. -/
def transportFailed (method data : Value) : RpcError :=
  { code := transportCode, message := transportMessage, method, data, transport := true }

/-- A reverted call. -/
def reverted (message : String) : RpcError :=
  { code := revertedCode, message := .text message, method := .text "eth_call" }

end RpcError

/-- Why the value of a setting is refused. -/
inductive FieldCause where
  | textKind
  | textOctets
  | integerKind
  | integerText
  | integerSize
  | integerFromReal
  | realKind
  | realText
  | notFinite
  | tooSmall
  | belowLeast
  | aboveGreatest
  | rule
deriving DecidableEq, Repr

/-- The short name of a cause. -/
def FieldCause.name : FieldCause → String
  | textKind => "string_type"
  | textOctets => "string_unicode"
  | integerKind => "int_type"
  | integerText => "int_parsing"
  | integerSize => "int_parsing_size"
  | integerFromReal => "int_from_float"
  | realKind => "float_type"
  | realText => "float_parsing"
  | notFinite => "finite_number"
  | tooSmall => "greater_than"
  | belowLeast => "greater_than_equal"
  | aboveGreatest => "less_than_equal"
  | rule => "value_error"

/-- One refused setting. -/
structure FieldFailure where
  field : String
  cause : FieldCause
deriving DecidableEq, Repr

/-- A refused change of the settings. -/
inductive ConfigError where
  /-- There are no settings of these names. -/
  | unknown (names : List String)
  /-- The changed settings are not valid. -/
  | invalid (failures : List FieldFailure)
  /-- Any other refusal, in its own words. -/
  | other (message : String) (field : Option String)
deriving DecidableEq, Repr

namespace ConfigError

/-- The wording of a refusal that has one. -/
def message? : ConfigError → Option String
  | unknown names => some ("unknown settings: " ++ (Value.list (names.map Value.text)).shown)
  | invalid _ => none
  | other message _ => some message

/-- The setting that a refusal is about. -/
def field? : ConfigError → Option String
  | unknown names => names.head?
  | invalid _ => none
  | other _ field => field

end ConfigError

/-- A failure of any family. -/
inductive Fault where
  | input (e : InputError)
  | abi (e : AbiError)
  | rpc (e : RpcError)
  | config (e : ConfigError)
  /-- Settings that are not valid, with every refused one. -/
  | settings (failures : List FieldFailure)
  /-- A number does not fit the type under which it is to be hashed. -/
  | quantityRange
  /-- Another party failed in a way of which only the name is known. -/
  | foreign (name : String)
  /-- The time for the operation was over. -/
  | timeout

namespace Fault

/-- Whether an argument has an admissible kind but not an admissible value; that a text cannot be
encoded is a fault of its value. -/
def isBadValue : Fault → Bool
  | input e => e.sort = .value || e.sort = .encoding
  | _ => false

/-- Whether a request or reply cannot be encoded or decoded. -/
def isAbi : Fault → Bool
  | abi _ => true
  | _ => false

end Fault

instance : MonadLift (Except InputError) (Except Fault) := ⟨Except.mapError Fault.input⟩

instance : MonadLift (Except AbiError) (Except Fault) := ⟨Except.mapError Fault.abi⟩

end MultisigQueue
