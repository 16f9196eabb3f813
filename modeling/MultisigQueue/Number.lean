/-
Module: MultisigQueue.Number
Purpose: Integers and floating-point numbers on one line, compared exactly.
Main exports:
  Number, Number.compare?, Number.equals, Relation, Relation.holds
-/
import MultisigQueue.Decimal.Real

namespace MultisigQueue

/-!
An integer and a floating-point number are compared by their exact values: neither is rounded to the
other's type. An undefined number compares with nothing.
-/

/-- An integer or a floating-point number. -/
inductive Number where
  | int (n : Int)
  | real (x : Float)

namespace Number

/-- Where a number stands: infinite ones stand to each side of all others, and the others are
counted in multiples of the least positive one. -/
def place? : Number → Option (Int × Int)
  | int n => some (0, n * 2 ^ Real.finestPlaces)
  | real x =>
    match Real.multiple? x with
    | some multiple => some (0, multiple)
    | none => if x.isInf then some (if Real.isNegative x then -1 else 1, 0) else none

/-- How two numbers compare, if both are defined. -/
def compare? (a b : Number) : Option Ordering := do
  let (side, multiple) ← a.place?
  let (otherSide, otherMultiple) ← b.place?
  return (compare side otherSide).then (compare multiple otherMultiple)

/-- Whether two numbers are the same. -/
def equals (a b : Number) : Bool := a.compare? b == some .eq

theorem compare?_int (m n : Int) : compare? (.int m) (.int n) = some (compare m n) := by
  have scale : (0 : Int) < 2 ^ Real.finestPlaces := Int.pow_pos (by decide)
  have same : compare (m * 2 ^ Real.finestPlaces) (n * 2 ^ Real.finestPlaces) = compare m n := by
    simp only [compare, compareOfLessAndEq, Int.mul_lt_mul_right scale,
      Int.mul_eq_mul_right_iff (Int.ne_of_gt scale)]
  simp [compare?, place?, same]

/-- Integers are the same number exactly if they are equal. -/
@[simp] theorem equals_int (m n : Int) : equals (.int m) (.int n) = decide (m = n) := by
  simp only [equals, compare?_int, compare, compareOfLessAndEq]
  by_cases less : m < n
  · simp [less, Int.ne_of_lt less]
  · by_cases same : m = n <;> simp [less, same]

end Number

/-- A relation that one number can be asked to have to another. -/
inductive Relation where
  | less
  | atMost
  | atLeast
  | more
deriving DecidableEq, Repr

namespace Relation

/-- The sign of a relation. -/
def sign : Relation → String
  | less => "<"
  | atMost => "<="
  | atLeast => ">="
  | more => ">"

/-- Whether a relation holds between two numbers that compare in a way, or in none. -/
def admits : Relation → Option Ordering → Bool
  | less, some .lt => true
  | atMost, some .lt => true
  | atMost, some .eq => true
  | atLeast, some .gt => true
  | atLeast, some .eq => true
  | more, some .gt => true
  | _, _ => false

/-- Whether a relation holds between two numbers. -/
def holds (r : Relation) (a b : Number) : Bool := r.admits (a.compare? b)

/-- Whether a relation holds between integers is told by how they compare. -/
theorem holds_int (r : Relation) (m n : Int) :
    r.holds (.int m) (.int n) = r.admits (some (compare m n)) :=
  congrArg r.admits (Number.compare?_int m n)

theorem holds_less_int (m n : Int) : less.holds (.int m) (.int n) = decide (m < n) := by
  rw [holds_int, Bool.eq_iff_iff, decide_eq_true_iff, ← Int.compare_eq_lt]
  cases compare m n <;> decide

theorem holds_atMost_int (m n : Int) : atMost.holds (.int m) (.int n) = decide (m ≤ n) := by
  rw [holds_int, Bool.eq_iff_iff, decide_eq_true_iff, ← Int.isLE_compare]
  cases compare m n <;> decide

theorem holds_atLeast_int (m n : Int) : atLeast.holds (.int m) (.int n) = decide (n ≤ m) := by
  rw [holds_int, Bool.eq_iff_iff, decide_eq_true_iff, ← Int.isGE_compare]
  cases compare m n <;> decide

theorem holds_more_int (m n : Int) : more.holds (.int m) (.int n) = decide (n < m) := by
  rw [holds_int, Bool.eq_iff_iff, decide_eq_true_iff, ← Int.compare_eq_gt]
  cases compare m n <;> decide

end Relation

end MultisigQueue
