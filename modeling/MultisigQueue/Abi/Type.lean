/-
Module: MultisigQueue.Abi.Type
Purpose: The types of contract arguments and results, and the values that belong to each.
Main exports:
  AbiType, AbiType.Val, AbiType.Vals, AbiType.name, AbiType.ofName?, AbiType.isDynamic,
  AbiType.headWords
-/
import MultisigQueue.Address

namespace MultisigQueue

/-!
Values are typed by their `AbiType`: an unsigned integer of 256 bits is a number below `2 ^ 256`, an
array a list of values of its item type, a tuple one value of each field's type. A value that exists
therefore fits.
-/

/-- The type of an argument or result. -/
inductive AbiType where
  | address
  | bool
  /-- A byte string of any length. -/
  | bytes
  /-- A string of 32 octets. -/
  | bytes32
  /-- An unsigned integer of so many bits. -/
  | uint (bits : Nat)
  /-- A list of any length. -/
  | array (item : AbiType)
  | tuple (fields : List AbiType)

namespace AbiType

mutual

/-- The values of a type. -/
def Val : AbiType → Type
  | .address => Address
  | .bool => Bool
  | .bytes => Bytes
  | .bytes32 => Word
  | .uint bits => Fin (2 ^ bits)
  | .array item => List (Val item)
  | .tuple fields => Vals fields

/-- One value of each type of a list. -/
def Vals : List AbiType → Type
  | [] => Unit
  | t :: ts => Val t × Vals ts

end

mutual

/-- A type's canonical name. -/
def name : AbiType → String
  | .address => "address"
  | .bool => "bool"
  | .bytes => "bytes"
  | .bytes32 => "bytes32"
  | .uint bits => "uint" ++ toString bits
  | .array item => name item ++ "[]"
  | .tuple fields => "(" ++ String.intercalate "," (names fields) ++ ")"

/-- The canonical names of a list of types. -/
def names : List AbiType → List String
  | [] => []
  | t :: ts => name t :: names ts

end

mutual

/-- Whether the encoded length depends on the value. -/
def isDynamic : AbiType → Bool
  | .bytes | .array _ => true
  | .tuple fields => anyDynamic fields
  | _ => false

/-- Whether the encoded length of some value depends on it. -/
def anyDynamic : List AbiType → Bool
  | [] => false
  | t :: ts => isDynamic t || anyDynamic ts

end

mutual

/-- The words that a value takes up in the head of the frame around it. -/
def headWords : AbiType → Nat
  | .bytes | .array _ => 1
  | .tuple fields => if anyDynamic fields then 1 else frameWords fields
  | _ => 1

/-- The words of the head of a frame. -/
def frameWords : List AbiType → Nat
  | [] => 0
  | t :: ts => headWords t + frameWords ts

end

/-- The type of an elementary name. -/
def elementary? (name : List Char) : Option AbiType :=
  match name with
  | 'u' :: 'i' :: 'n' :: 't' :: digits =>
    if digits.isEmpty || !digits.all Char.isDigit then none
    else some (.uint (digits.foldl (fun n c => n * 10 + (c.toNat - 48)) 0))
  | _ =>
    match String.ofList name with
    | "address" => some .address
    | "bool" => some .bool
    | "bytes" => some .bytes
    | "bytes32" => some .bytes32
    | _ => none

/-- What has been read of a name: the types of each open tuple in reverse, and the type or the
letters just before the next character. -/
structure Reading where
  frames : List (List AbiType)
  last : Option AbiType
  letters : List Char

/-- The type just before the next character. -/
def Reading.closeLast? (r : Reading) : Option AbiType :=
  match r.last with
  | some t => if r.letters.isEmpty then some t else none
  | none => elementary? r.letters.reverse

/-- Reads the rest of a name. -/
def Reading.run? : Reading → List Char → Option AbiType
  | r, [] => if r.frames.isEmpty then r.closeLast? else none
  | r, '[' :: ']' :: rest => do
    let t ← r.closeLast?
    run? { r with last := some (.array t), letters := [] } rest
  | r, '(' :: rest =>
    if r.last.isNone && r.letters.isEmpty then run? { r with frames := [] :: r.frames } rest
    else none
  | r, ',' :: rest => do
    let t ← r.closeLast?
    match r.frames with
    | fields :: outer => run? ⟨(t :: fields) :: outer, none, []⟩ rest
    | [] => none
  | r, ')' :: rest => do
    let t ← r.closeLast?
    match r.frames with
    | fields :: outer => run? ⟨outer, some (.tuple (t :: fields).reverse), []⟩ rest
    | [] => none
  | r, c :: rest => if r.last.isSome then none else run? { r with letters := c :: r.letters } rest

/-- The type of a name. -/
def ofName? (name : String) : Option AbiType := Reading.run? ⟨[], none, []⟩ name.toList

end AbiType

end MultisigQueue
