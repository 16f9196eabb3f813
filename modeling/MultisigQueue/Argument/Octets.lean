/-
Module: MultisigQueue.Argument.Octets
Purpose: Loosely typed arguments as octets, as lists of items, and by their length.
Main exports:
  OctetRun, Value.toOctetRun, Value.toOctets, Value.encoded, Value.toItems, Value.length
-/
import MultisigQueue.Argument

namespace MultisigQueue

/-!
Where octets are wanted and no hexadecimal text is read, a number stands for so many zeros and a
list for its items, which must be numbers below 256. A run of zeros is not written out until it is
used: to know that there is one is often enough.
-/

/-- Octets: so many zeros, or the ones given. -/
inductive OctetRun where
  | zeros (count : Nat)
  | given (b : Bytes)
deriving DecidableEq, Repr

/-- The octets written out. -/
def OctetRun.bytes : OctetRun → Bytes
  | zeros count => Bytes.zeros count
  | given b => b

namespace Value

/-- The bound that a counted length stays below. -/
def countBound : Int := 2 ^ (63 : Nat)

/-- The longest run that there is room for. -/
def roomBound : Int := 2 ^ (40 : Nat)

/-- An octet given as a number. -/
def toOctet (v : Value) : Except InputError UInt8 :=
  match v with
  | .int n => if 0 ≤ n ∧ n < 256 then .ok (UInt8.ofNat n.toNat) else .error .octetRange
  | .bool b => .ok (if b then 1 else 0)
  | other => .error (.notIndex other.kindName)

/-- So many zeros. -/
def zeroRun (count : Int) : Except InputError OctetRun :=
  if countBound ≤ count ∨ count < -countBound then .error .countTooBig
  else if count < 0 then .error .negativeCount
  else if roomBound < count then .error .noMemory
  else .ok (.zeros count.toNat)

/-- The octets that a value stands for; texts are not read. -/
def toOctetRun : Value → Except InputError OctetRun
  | .bytes b => .ok (.given b)
  | .int n => zeroRun n
  | .bool b => zeroRun (if b then 1 else 0)
  | .list items => (items.mapM toOctet).map .given
  | .object fields => ((fields.map Prod.fst).mapM fun key => toOctet (.text key)).map .given
  | .text _ | .unpaired _ => .error .textNotBytes
  | other => .error (.notOctets other.kindName)

/-- The octets that a value stands for, written out. -/
def toOctets (v : Value) : Except InputError Bytes := do return (← v.toOctetRun).bytes

@[simp] theorem toOctets_bytes (b : Bytes) : toOctets (.bytes b) = .ok b := rfl

/-- The octets that encode a text. -/
def encoded : Value → Except InputError Bytes
  | .text s => .ok s.toUTF8.toList
  | .unpaired codePoints =>
    match Charset.utf8.refusal? codePoints with
    | some e => .error e
    | none => .ok (Text.lossy codePoints).toUTF8.toList
  | other => .error (.noAttribute other.kindName "encode")

/-- The items of a value that has some: of a text its characters, of an object its keys. -/
def toItems : Value → Except InputError (List Value)
  | .list items => .ok items
  | .text s => .ok (s.toList.map fun c => .text (String.singleton c))
  | .unpaired codePoints => .ok (codePoints.map fun codePoint => ofPoints [codePoint])
  | .bytes b => .ok (b.map fun x => .int x.toNat)
  | .object fields => .ok ((fields.map Prod.fst).map .text)
  | other => .error (.notIterable other.kindName)

/-- The number of items of a value that has some. -/
def length (v : Value) : Except InputError Nat :=
  match v.toItems with
  | .ok items => .ok items.length
  | .error _ => .error (.noLength v.kindName)

end Value

end MultisigQueue
