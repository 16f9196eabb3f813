/-
Module: MultisigQueue.Argument.Order
Purpose: Loosely typed arguments compared with numbers and added to them.
Main exports:
  Value.relate, Value.plus, Value.relate_int
-/
import MultisigQueue.Argument
import MultisigQueue.Value.Equality

namespace MultisigQueue.Value

/-!
Only numbers are in an order, truth values among them. To anything else the question itself is the
failure, and so is a sum.
-/

/-- Whether one value has a relation to another; both have to be numbers. -/
def relate (r : Relation) (a b : Value) : Except InputError Bool :=
  match a.number?, b.number? with
  | some x, some y => .ok (r.holds x y)
  | _, _ => .error (.incomparable r a.kindName b.kindName)

/-- Integers are always in an order. -/
@[simp] theorem relate_int (r : Relation) (m n : Int) :
    relate r (.int m) (.int n) = .ok (r.holds (.int m) (.int n)) := rfl

/-- An integer as the nearest real number, unless that is infinite. -/
def finiteReal (n : Int) : Except InputError Float :=
  let x := Real.ofInt n
  if x.isInf then .error .integerOverflow else .ok x

/-- The sum of a value and an integer; the value has to be a number. -/
def plus (v : Value) (n : Int) : Except InputError Value :=
  match v with
  | .int m => .ok (.int (m + n))
  | .bool b => .ok (.int ((if b then 1 else 0) + n))
  | .real x => do return .real (x + (← finiteReal n))
  | .text _ | .unpaired _ | .list _ | .bytes _ => .error (.notJoined v.kindName "int")
  | other => .error (.badOperands "+" other.kindName "int")

end MultisigQueue.Value
