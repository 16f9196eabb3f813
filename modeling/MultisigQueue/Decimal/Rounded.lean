/-
Module: MultisigQueue.Decimal.Rounded
Purpose: Floating-point numbers written with a given number of digits.
Main exports:
  roundDiv, Real.Form, Real.rounded
-/
import MultisigQueue.Decimal.Real

namespace MultisigQueue

/-!
A finite number is an exact fraction, so the digits that are not written are rounded away exactly,
and a tie goes to the even neighbour. A number is written with a fixed number of places, or with an
exponent and a fixed number of digits, or in the one of these two ways that suits its size.
-/

/-- A quotient as the nearest integer, of two equally near ones the even one. -/
def roundDiv (n d : Nat) : Nat :=
  if 2 * (n % d) < d ∨ (2 * (n % d) = d ∧ n / d % 2 = 0) then n / d else n / d + 1

namespace Real

/-- How the digits of a number are laid out. -/
inductive Form where
  /-- With so many places. -/
  | fixed
  /-- With so many places and an exponent. -/
  | scientific
  /-- In so many digits, of which zeros at the end are left out, and with an exponent where it is
  small or large. -/
  | general
deriving DecidableEq, Repr

/-- The multiple of the least positive number that one is. -/
def unit : Nat := 2 ^ finestPlaces

/-- A whole part and a fraction, with the point between them where there is a fraction or it is
kept. -/
def withPoint (keepPoint : Bool) (whole fraction : List Char) : List Char :=
  if fraction.isEmpty && !keepPoint then whole else whole ++ '.' :: fraction

/-- So many multiples of the least positive number, with so many places. -/
def fixedText (keepPoint : Bool) (places multiple : Nat) : List Char :=
  let digits := Decimal.digitList (roundDiv (multiple * 10 ^ places) unit)
  let all := List.replicate (places + 1 - digits.length) '0' ++ digits
  withPoint keepPoint (all.take (all.length - places)) (all.drop (all.length - places))

/-- The first digits of so many multiples, one more than `places`, and the exponent of the first
one. -/
def leadingDigits (places multiple : Nat) : List Char × Int :=
  if multiple = 0 then (List.replicate (places + 1) '0', 0)
  else
    let top := Decimal.leadingExponent multiple unit
    let shift : Int := places - top
    let n := roundDiv (Decimal.scaled multiple shift) (Decimal.scaled unit (-shift))
    if n = 10 ^ (places + 1) then (Decimal.digitList (n / 10), top + 1)
    else (Decimal.digitList n, top)

/-- Digits with a point after the first one, and their exponent. -/
def withExponent (keepPoint : Bool) (digits : List Char) (exponent : Int) : List Char :=
  withPoint keepPoint (digits.take 1) (digits.drop 1) ++ 'e' :: exponentText layout exponent

/-- Digits without the zeros at their end, at least one. -/
def withoutFinalZeros (digits : List Char) : List Char :=
  match (dropZeros digits.reverse).reverse with
  | [] => ['0']
  | kept => kept

/-- So many multiples in so many digits, in the way that suits their size. -/
def generalText (keepZeros : Bool) (precision multiple : Nat) : List Char :=
  let precision := max precision 1
  let (digits, top) := leadingDigits (precision - 1) multiple
  let digits := if keepZeros then digits else withoutFinalZeros digits
  if top < layout.least ∨ (precision : Int) ≤ top then withExponent keepZeros digits top
  else if top < 0 then
    withPoint keepZeros ['0'] (List.replicate (-top - 1).toNat '0' ++ digits)
  else
    let count := top.toNat + 1
    let whole := digits.take count
    withPoint keepZeros (whole ++ List.replicate (count - whole.length) '0') (digits.drop count)

/-- A number in a form with a precision; its point or its zeros may have to stay. -/
def rounded (form : Form) (precision : Nat) (keep : Bool) (x : Float) : List Char :=
  let sign := if isNegative x && x == x then ['-'] else []
  match multiple? x with
  | none => sign ++ if x == x then ['i', 'n', 'f'] else ['n', 'a', 'n']
  | some multiple =>
    let size := multiple.natAbs
    sign ++
      match form with
      | .fixed => fixedText keep precision size
      | .scientific =>
        let (digits, top) := leadingDigits precision size
        withExponent keep digits top
      | .general => generalText keep precision size

end Real

end MultisigQueue
