/-
Module: MultisigQueue.Abi.Decoding
Purpose: Contract data read back as typed values.
Main exports:
  Abi.Payload, Abi.slice, Abi.wordAt?, Abi.slot?, AbiType.decodeAt?, AbiType.decodeAll?
-/
import MultisigQueue.Abi.Type

namespace MultisigQueue

/-!
A value is read at a place of the payload; octets behind it do not matter, and values in the tail
may overlap. What a word has in front of a short value must be zero, and so must the filling after a
byte string, which has to be there. A distance must lead to an octet of the payload, and not into
the words that the values of its frame take up at the least, which is one word each. The payload is
an array, because a batch leads to as many places as it has calls.
-/

namespace Abi

/-- The data from which values are read. -/
abbrev Payload : Type := Array UInt8

/-- Up to `count` octets of a payload from a place on. -/
def slice (data : Payload) (place count : Nat) : Bytes :=
  (data.extract place (place + count)).toList

theorem slice_eq (data : Payload) (place count : Nat) :
    slice data place count = (data.toList.drop place).take count := by
  simp [slice, Array.toList_extract, List.extract_eq_take_drop]

/-- The number in the word at a place. -/
def wordAt? (data : Payload) (place : Nat) : Option Nat :=
  if place + 32 ≤ data.size then some (slice data place 32).toNat else none

/-- A byte string with its length in front and zeros up to the next word behind. -/
def lengthMarkedAt? (data : Payload) (place : Nat) : Option Bytes := do
  let length ← wordAt? data place
  let filling := Bytes.padding length
  if place + 32 + length + filling ≤ data.size ∧
      slice data (place + 32 + length) filling = Bytes.zeros filling then
    some (slice data (place + 32) length)
  else none

/-- A value of a frame. The frame starts at place `frame` and holds so many values; this one's part
of the head is at place `head`. -/
def slot? {α : Type} (data : Payload) (isDynamic : Bool) (values : Nat) (decode : Nat → Option α)
    (frame head : Nat) : Option α :=
  if isDynamic then do
    let distance ← wordAt? data head
    if 32 * values ≤ distance ∧ frame + distance < data.size then decode (frame + distance)
    else none
  else decode head

/-- The items of an array, of which `count` are left; `stride` is the length of one in the head. -/
def items? {α : Type} (stride : Nat) (slot : Nat → Option α) : Nat → Nat → Option (List α)
  | 0, _ => some []
  | count + 1, head => do
    let item ← slot head
    let rest ← items? stride slot count (head + stride)
    return item :: rest

end Abi

namespace AbiType

open Abi

mutual

/-- The value of a type at a place. -/
def decodeAt? (data : Payload) : (t : AbiType) → Nat → Option t.Val
  | .address, place => do
    let n ← wordAt? data place
    if n < 2 ^ (160 : Nat) then some (Address.ofNat n) else none
  | .bool, place => do
    let n ← wordAt? data place
    if n = 0 then some false else if n = 1 then some true else none
  | .bytes, place => lengthMarkedAt? data place
  | .bytes32, place => FixedBytes.ofBytes? 32 (slice data place 32)
  | .uint bits, place => do
    let n ← wordAt? data place
    if h : n < 2 ^ bits then some ⟨n, h⟩ else none
  | .array item, place => do
    let count ← wordAt? data place
    let frame := place + 32
    items? (32 * item.headWords)
      (slot? data item.isDynamic count (decodeAt? data item) frame) count frame
  | .tuple fields, place => fieldsAt? data fields fields.length place place

/-- The values of a frame from the next one on. -/
def fieldsAt? (data : Payload) : (ts : List AbiType) → Nat → Nat → Nat → Option (Vals ts)
  | [], _, _, _ => some ()
  | t :: ts, count, frame, head => do
    let value ← slot? data t.isDynamic count (decodeAt? data t) frame head
    let rest ← fieldsAt? data ts count frame (head + 32 * t.headWords)
    return (value, rest)

end

/-- The values of one frame. -/
def decodeAll? (ts : List AbiType) (data : Bytes) : Option (Vals ts) :=
  fieldsAt? data.toArray ts ts.length 0 0

end AbiType

end MultisigQueue
