/-
Module: MultisigQueue.Abi.Argument
Purpose: Loosely typed arguments checked against contract types, and typed values shown again.
Main exports:
  AbiType.accept?, AbiType.acceptAll?, AbiType.present, AbiType.presentAll
-/
import MultisigQueue.Abi.Type
import MultisigQueue.Argument

namespace MultisigQueue.AbiType

/-!
Acceptance is strict: no truth value passes for a number and no text for bytes. An address is 20
octets or a text that spells one in letters that a rule allows; a string of fewer than 32 octets is
filled up with zeros on the right; lists have as many items as a tuple has fields. Presenting a
typed value gives its normal form, which every rule accepts as the same value.
-/

open Address (CaseRule)

mutual

/-- The value of a type that an argument stands for. -/
def accept? (rule : CaseRule) : (t : AbiType) → Value → Option t.Val
  | .address, .bytes b => FixedBytes.ofBytes? 20 b
  | .address, .text s => Address.ofCased? rule s
  | .bool, .bool b => some b
  | .bytes, .bytes b => some b
  | .bytes32, .bytes b => FixedBytes.ofBytes? 32 (Bytes.padRight 32 b)
  | .uint bits, .int n =>
    if h : 0 ≤ n ∧ n < 2 ^ bits then
      some ⟨n.toNat, (Int.toNat_lt h.1).2 (by simpa using h.2)⟩
    else none
  | .array item, .list values => List.mapM (accept? rule item) values
  | .tuple fields, .list values => acceptAll? rule fields values
  | _, _ => none

/-- The values of a list of types that as many arguments stand for. -/
def acceptAll? (rule : CaseRule) : (ts : List AbiType) → List Value → Option (Vals ts)
  | [], [] => some ()
  | t :: ts, v :: vs => do
    let value ← accept? rule t v
    let rest ← acceptAll? rule ts vs
    return (value, rest)
  | _, _ => none

end

mutual

/-- A typed value in normal form: addresses in lowercase, tuples as lists. -/
def present : (t : AbiType) → t.Val → Value
  | .address, a => .text (Address.lowercase a)
  | .bool, b => .bool b
  | .bytes, b => .bytes b
  | .bytes32, w => .bytes (FixedBytes.bytes w)
  | .uint _, n => .int (Fin.val n)
  | .array item, values => .list (List.map (present item) values)
  | .tuple fields, values => .list (presentAll fields values)

/-- Typed values in normal form. -/
def presentAll : (ts : List AbiType) → Vals ts → List Value
  | [], _ => []
  | t :: ts, values => present t (Prod.fst values) :: presentAll ts (Prod.snd values)

end

end MultisigQueue.AbiType
