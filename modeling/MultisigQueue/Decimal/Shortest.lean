/-
Module: MultisigQueue.Decimal.Shortest
Purpose: The shortest decimal that reads back as a given binary floating-point number.
Main exports:
  Binary64, Binary64.ofBits?, Decimal, Decimal.shortest
-/
import MultisigQueue.Power

namespace MultisigQueue

/-!
A positive finite number is `significand * 2 ^ exponent`. The reals that round to it form an
interval, whose ends belong to it exactly if the significand is even. For one digit, two digits and
so on, the two neighbours of the number on that decimal grid are tested against the interval: the
first grid with a hit wins, and of two hits the nearer one. All arithmetic is exact.
-/

/-- A positive finite binary number. -/
structure Binary64 where
  significand : Nat
  exponent : Int
  /-- Whether the number below is only half as far away as the one above. -/
  narrowBelow : Bool
deriving DecidableEq, Repr

/-- The number that 63 bits of magnitude encode, if it is positive and finite. -/
def Binary64.ofBits? (bits : Nat) : Option Binary64 :=
  let fraction : Nat := bits % 2 ^ (52 : Nat)
  let biased : Nat := bits / 2 ^ (52 : Nat) % 2 ^ (11 : Nat)
  if biased = 2047 then none
  else if biased = 0 then
    if fraction = 0 then none else some ⟨fraction, -1074, false⟩
  else some ⟨fraction + 2 ^ (52 : Nat), (biased : Int) - 1075, fraction = 0 && biased ≠ 1⟩

/-- A decimal number `digits * 10 ^ exponent`. -/
structure Decimal where
  digits : Nat
  exponent : Int
deriving DecidableEq, Repr

namespace Decimal

/-- A natural number as a list of decimal digits. -/
def digitList (n : Nat) : List Char := Nat.toDigits 10 n

/-- The exponent of the leading decimal digit of a positive fraction. -/
def leadingExponent (numerator denominator : Nat) : Int :=
  if denominator ≤ numerator then ((digitList (numerator / denominator)).length : Int) - 1
  else
    let places := (digitList (denominator / numerator)).length - 1
    if denominator ≤ numerator * 10 ^ places then -(places : Int) else -(places : Int) - 1

/-- The numerator of a fraction after a shift by decimal places to the left. -/
def scaled (n : Nat) (places : Int) : Nat := n * 10 ^ places.toNat

/-- The nearest of the two grid neighbours of `b` that round to it, on the grid of `10 ^ exponent`.
-/
def onGrid? (b : Binary64) (exponent : Int) : Option Nat :=
  -- All quantities are multiples of a quarter unit of `b`, over one denominator.
  let unit := 2 ^ (b.exponent - 2).toNat
  let denominator := scaled (2 ^ (2 - b.exponent).toNat) exponent
  let value := scaled (4 * b.significand * unit) (-exponent)
  let low := scaled ((4 * b.significand - if b.narrowBelow then 1 else 2) * unit) (-exponent)
  let high := scaled ((4 * b.significand + 2) * unit) (-exponent)
  let closed := b.significand % 2 == 0
  let hits (n : Nat) : Bool :=
    let point := n * denominator
    if closed then low ≤ point && point ≤ high else low < point && point < high
  let below := value / denominator
  let belowGap := value - below * denominator
  let aboveGap := (below + 1) * denominator - value
  match hits below && below != 0, hits (below + 1) with
  | true, true =>
    if belowGap < aboveGap then some below
    else if aboveGap < belowGap then some (below + 1)
    else if below % 2 == 0 then some below else some (below + 1)
  | true, false => some below
  | false, true => some (below + 1)
  | false, false => none

/-- Tries grids of growing fineness; `attempts` bounds how many. -/
def shortestFrom (b : Binary64) : Nat → Int → Decimal
  | 0, exponent => ⟨b.significand, exponent⟩
  | attempts + 1, exponent =>
    match onGrid? b exponent with
    | some n => ⟨n, exponent⟩
    | none => shortestFrom b attempts (exponent - 1)

/-- The shortest decimal that reads back as `b`, the nearest such one. -/
def shortest (b : Binary64) : Decimal :=
  let top := leadingExponent (b.significand * 2 ^ b.exponent.toNat) (2 ^ (-b.exponent).toNat)
  shortestFrom b 17 top

end Decimal

end MultisigQueue
