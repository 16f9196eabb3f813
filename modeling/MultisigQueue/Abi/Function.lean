/-
Module: MultisigQueue.Abi.Function
Purpose: Contract functions: calldata and return data of each.
Main exports:
  AbiFunction, AbiFunction.selector, AbiFunction.encode, AbiFunction.decode,
  AbiFunction.decodeInput, AbiFunction.encodeOutput, AbiFunction.decodeGiven,
  AbiFunction.decodeInputGiven
-/
import MultisigQueue.Abi.Argument
import MultisigQueue.Abi.Decoding
import MultisigQueue.Abi.Encoding
import MultisigQueue.Argument.Octets

namespace MultisigQueue

/-!
Calldata is the selector, the first four octets of the digest of the function's signature, followed
by the frame of the arguments. Return data is the frame of the results. Either may be given as
anything that stands for octets: what does not is undecodable return data, but no calldata at all.
The case of the letters in an address is checked, unless an encoder is asked not to.
-/

/-- A contract function. -/
structure AbiFunction where
  name : String
  inputs : List AbiType := []
  outputs : List AbiType := []

namespace AbiFunction

/-- The name with the canonical names of the inputs. -/
def signature (f : AbiFunction) : String :=
  f.name ++ "(" ++ String.intercalate "," (AbiType.names f.inputs) ++ ")"

/-- The first four octets of the digest of the signature. -/
def selector (f : AbiFunction) : Bytes := (keccak256Text f.signature).bytes.take 4

/-- A failure of this function's data. -/
def fail (f : AbiFunction) (failure : AbiFailure) : AbiError :=
  { failure, function := some f.name }

/-- Calldata for typed arguments. -/
def calldata (f : AbiFunction) (args : AbiType.Vals f.inputs) : Bytes :=
  f.selector ++ AbiType.encodeAll f.inputs args

/-- Calldata for loosely typed arguments. -/
def encode (f : AbiFunction) (args : List Value) (rule : Address.CaseRule := .checked) :
    Except AbiError Bytes :=
  if args.length ≠ f.inputs.length then
    .error (f.fail (.argumentCount f.inputs.length args.length))
  else
    match AbiType.acceptAll? rule f.inputs args with
    | some values => .ok (f.calldata values)
    | none => .error (f.fail .arguments)

/-- The results that return data holds. -/
def decode (f : AbiFunction) (data : Bytes) : Except AbiError (AbiType.Vals f.outputs) :=
  match AbiType.decodeAll? f.outputs data with
  | some values => .ok values
  | none => .error (f.fail .returnData)

/-- The arguments that calldata holds. -/
def decodeInput (f : AbiFunction) (data : Bytes) : Except AbiError (AbiType.Vals f.inputs) :=
  if data.take 4 ≠ f.selector then .error (f.fail (.selectorMismatch (data.take 4)))
  else
    match AbiType.decodeAll? f.inputs (data.drop 4) with
    | some values => .ok values
    | none => .error (f.fail .calldata)

/-- The results that loosely typed return data holds. -/
def decodeGiven (f : AbiFunction) (data : Value) : Except AbiError (AbiType.Vals f.outputs) :=
  match data.toOctets with
  | .ok b => f.decode b
  | .error _ => .error (f.fail .returnData)

/-- The arguments that loosely typed calldata holds. -/
def decodeInputGiven (f : AbiFunction) (data : Value) : Except Fault (AbiType.Vals f.inputs) := do
  f.decodeInput (← data.toOctets)

@[simp] theorem decodeGiven_bytes (f : AbiFunction) (b : Bytes) :
    f.decodeGiven (.bytes b) = f.decode b := rfl

/-- Return data for loosely typed results. -/
def encodeOutput (f : AbiFunction) (results : List Value)
    (rule : Address.CaseRule := .checked) : Except AbiError Bytes :=
  match AbiType.acceptAll? rule f.outputs results with
  | some values => .ok (AbiType.encodeAll f.outputs values)
  | none => .error (f.fail .returnValues)

end AbiFunction

end MultisigQueue
