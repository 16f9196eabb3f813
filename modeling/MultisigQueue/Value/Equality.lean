/-
Module: MultisigQueue.Value.Equality
Purpose: Loosely typed values as truth values, as numbers, and compared for equality.
Main exports:
  Value.isTrue, Value.number?, Value.equals, Value.isHashable
-/
import MultisigQueue.Number
import MultisigQueue.Value

namespace MultisigQueue.Value

/-!
Every value can be asked whether it is true: the missing one, zero and everything empty are not. A
truth value is also the number one or zero, and numbers are equal if they are the same number,
whatever their kind. Other values are equal only to values of their own kind.
-/

/-- Whether a value counts as true. -/
def isTrue : Value → Bool
  | .null => false
  | .bool b => b
  | .int n => n != 0
  | .real x => x != 0.0
  | .text s => !s.isEmpty
  | .unpaired codePoints => !codePoints.isEmpty
  | .bytes b => !b.isEmpty
  | .list items => !items.isEmpty
  | .object fields => !fields.isEmpty

/-- The number that a value is, if it is one. -/
def number? : Value → Option Number
  | .bool b => some (.int (if b then 1 else 0))
  | .int n => some (.int n)
  | .real x => some (.real x)
  | _ => none

/-- Whether two values that may be numbers are the same number. -/
def equalNumbers (a b : Value) : Bool :=
  match a.number?, b.number? with
  | some x, some y => x.equals y
  | _, _ => false

mutual

/-- Whether two values are equal. -/
def equals : Value → Value → Bool
  | .null, .null => true
  | .text s, .text t => s == t
  | .unpaired s, .unpaired t => s == t
  | .bytes a, .bytes b => a == b
  | .list items, .list others => equalItems items others
  | .object fields, .object others => fields.length == others.length && equalFields fields others
  | a, b => equalNumbers a b

/-- Whether two lists have equal items. -/
def equalItems : List Value → List Value → Bool
  | [], [] => true
  | a :: rest, b :: others => equals a b && equalItems rest others
  | _, _ => false

/-- Whether each of some fields is among others with an equal value. -/
def equalFields : List (String × Value) → List (String × Value) → Bool
  | [], _ => true
  | (key, a) :: rest, others =>
    (match field? others key with
      | some b => equals a b
      | none => false) && equalFields rest others

end

instance : BEq Value := ⟨equals⟩

/-- Whether a value can be a key: a list or an object cannot. -/
def isHashable : Value → Bool
  | .list _ | .object _ => false
  | _ => true

/-- Integers are equal values exactly if they are equal. -/
@[simp] theorem equals_int (m n : Int) : equals (.int m) (.int n) = decide (m = n) := by
  simp [equals, equalNumbers, number?]

end MultisigQueue.Value
