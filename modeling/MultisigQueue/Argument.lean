/-
Module: MultisigQueue.Argument
Purpose: Reading loosely typed arguments as bytes, words, integers and addresses.
Main exports:
  Value.toBytes, Value.toWord, Value.toInt, Value.toAddress, Value.normalAddress,
  Value.addressOctets, AddressLike, IntegerLike
-/
import MultisigQueue.Address
import MultisigQueue.Error

namespace MultisigQueue

namespace Value

/-- The bytes that the characters of a hexadecimal text spell. -/
def hexChars (chars : List Char) : Except InputError Bytes :=
  (Hex.parseChars chars).mapError fun
    | .oddLength => .oddHex
    | .badDigit position => .badHex position

/-- The bytes that a hexadecimal text spells. -/
def hexBytes : Value → Except InputError Bytes
  | .text s => hexChars s.toList
  | .unpaired codePoints => hexChars (codePoints.map Text.charOf)
  | _ => .error .hexNotText

/-- A byte string, or the bytes that a hexadecimal text spells. -/
def toBytes : Value → Except InputError Bytes
  | .bytes b => .ok b
  | .text s => hexBytes (.text s)
  | .unpaired codePoints => hexBytes (.unpaired codePoints)
  | other => .error (.notBytes other.kindName)

/-- An integer as a word, if it fits. -/
def wordOfInt (n : Int) : Except InputError Word :=
  if 0 ≤ n ∧ n < 2 ^ (256 : Nat) then .ok (FixedBytes.ofNat 32 n.toNat) else .error .wordRange

/-- A word given as an integer, as 32 octets or as hexadecimal text of them. -/
def toWord : Value → Except InputError Word
  | .int n => wordOfInt n
  | .bool b => wordOfInt (if b then 1 else 0)
  | other => do
    let bytes ← other.toBytes
    match FixedBytes.ofBytes? 32 bytes with
    | some word => .ok word
    | none => .error (.wordLength bytes.length)

/-- The character that an octet of ASCII stands for; any other octet stands for one of no numeral.
-/
def asciiChar (x : UInt8) : Char := if x < 128 then Char.ofNat x.toNat else '\ufffd'

/-- The integer that a numeral given as this value spells. -/
def ofNumeral (given : Value) (base : Nat) (chars : List Char) : Except InputError Int :=
  (Numeral.parseChars base chars).mapError fun
    | .malformed => .notNumeral base given
    | .tooLong digits => .tooManyDigits digits

/-- An integer; a truth value counts as one, a real number loses its fraction, a text is read. -/
def toInt : Value → Except InputError Int
  | .int n => .ok n
  | .bool b => .ok (if b then 1 else 0)
  | .real x =>
    match Real.toInt? x with
    | some n => .ok n
    | none => .error (.notFinite (x != x))
  | .text s => ofNumeral (.text s) 10 s.toList
  | .unpaired codePoints => ofNumeral (.unpaired codePoints) 10 (codePoints.map Text.charOf)
  | .bytes b => ofNumeral (.bytes b) 10 (b.map asciiChar)
  | other => .error (.notNumber other.kindName)

/-- An address given as 20 octets or as text. -/
def toAddress : Value → Except InputError Address
  | .bytes b =>
    match FixedBytes.ofBytes? 20 b with
    | some address => .ok address
    | none => .error (.addressLength b.length)
  | .text s =>
    match Address.ofText? s with
    | some address => .ok address
    | none => .error (.notAddress (.text s))
  | other => .error (.notAddress other)

/-- The checksummed spelling of an address given as 20 octets or as text. -/
def normalAddress (v : Value) : Except InputError String := do return (← v.toAddress).checksummed

/-- The octets of an address, as its checksummed spelling has them. -/
def addressOctets (v : Value) : Except InputError Bytes := do hexBytes (.text (← v.normalAddress))

/-- The address in a storage word given as bytes or as hexadecimal text. -/
def storedAddress (v : Value) : Except InputError Address := do
  let bytes ← v.toBytes
  match FixedBytes.ofBytes? 32 bytes with
  | some word => .ok (Address.ofWord word)
  | none => .error .storageWordLength

end Value

/-- Something that stands for an address, perhaps in a spelling that has to be read first. -/
class AddressLike (α : Type) where
  toAddress : α → Except InputError Address

export AddressLike (toAddress)

instance : AddressLike Address := ⟨.ok⟩

instance : AddressLike Value := ⟨Value.toAddress⟩

instance : AddressLike String := ⟨fun s => Value.toAddress (.text s)⟩

@[simp] theorem toAddress_address (a : Address) : toAddress a = .ok a := rfl

/-- Something that stands for an integer, perhaps in a spelling that has to be read first. -/
class IntegerLike (ν : Type) where
  toInteger : ν → Except InputError Int

export IntegerLike (toInteger)

instance : IntegerLike Int := ⟨.ok⟩

instance : IntegerLike Value := ⟨Value.toInt⟩

@[simp] theorem toInteger_int (n : Int) : toInteger n = .ok n := rfl

end MultisigQueue
