/-
Module: MultisigQueue.Decimal.Real
Purpose: Floating-point numbers written in and read from decimal text.
Main exports:
  Real.shown, Real.ofDecimal, Real.parseChars?, Real.multiple?, Real.toInt?, Real.isWhole
-/
import MultisigQueue.Decimal.Shortest
import MultisigQueue.Text.Blank

namespace MultisigQueue.Real

/-- How a decimal is laid out: the exponents written positionally, and the exponent mark. -/
structure Layout where
  /-- The least exponent of the leading digit that is written positionally. -/
  least : Int
  /-- The first exponent of the leading digit that is not. -/
  bound : Int
  /-- The fewest digits of a written exponent. -/
  exponentDigits : Nat

/-- Positional from `0.0001` up to below `10 ^ 16`, and exponents of at least two digits. -/
def layout : Layout := ⟨-4, 16, 2⟩

/-- Drops trailing zeros; the input lists digits from the last to the first. -/
def dropZeros (reversed : List Char) : List Char := reversed.dropWhile (· == '0')

/-- The digits of a decimal without trailing zeros, and the exponent of the first one. -/
def significant (d : Decimal) : List Char × Int :=
  let all := Decimal.digitList d.digits
  ((dropZeros all.reverse).reverse, d.exponent + all.length - 1)

/-- The digits of an exponent with its sign. -/
def exponentText (l : Layout) (exponent : Int) : List Char :=
  let digits := Nat.toDigits 10 exponent.natAbs
  (if exponent < 0 then '-' else '+') ::
    (List.replicate (l.exponentDigits - digits.length) '0' ++ digits)

/-- A positive decimal in the given layout. -/
def decimalText (l : Layout) (d : Decimal) : List Char :=
  let (digits, top) := significant d
  if l.least ≤ top ∧ top < l.bound then
    if top < 0 then '0' :: '.' :: (List.replicate (-top - 1).toNat '0' ++ digits)
    else
      let whole := top.toNat + 1
      let front := digits.take whole
      let back := digits.drop whole
      let places := if back.isEmpty then ['0'] else back
      front ++ List.replicate (whole - front.length) '0' ++ '.' :: places
  else
    match digits with
    | [] => ['0']
    | first :: rest =>
      first :: ((if rest.isEmpty then [] else '.' :: rest) ++ 'e' :: exponentText l top)

/-- The bits of a number without its sign. -/
def magnitude (x : Float) : Nat := x.toBits.toNat % 2 ^ (63 : Nat)

/-- Whether the sign bit is set. -/
def isNegative (x : Float) : Bool := 2 ^ (63 : Nat) ≤ x.toBits.toNat

/-- A number in as few digits as read back as it. -/
def shown (x : Float) : String :=
  let sign := if isNegative x then ['-'] else []
  if magnitude x = 0 then String.ofList (sign ++ ['0', '.', '0'])
  else
    match Binary64.ofBits? (magnitude x) with
    | some b => String.ofList (sign ++ decimalText layout (Decimal.shortest b))
    | none => if x.isInf then String.ofList (sign ++ ['i', 'n', 'f']) else "nan"

/-- The number nearest to `mantissa * 10 ^ exponent`. -/
def ofDecimal (negative : Bool) (mantissa : Nat) (exponent : Int) : Float :=
  let digits : Int := (Decimal.digitList mantissa).length
  let size : Float :=
    if mantissa = 0 ∨ exponent + digits < -400 then 0.0
    else if 400 < exponent + digits then 1.0 / 0.0
    else Float.ofScientific mantissa (exponent < 0) exponent.natAbs
  if negative then -size else size

/-- The number nearest to an integer. -/
def ofInt (n : Int) : Float := ofDecimal (n < 0) n.natAbs 0

/-- The value of a list of ASCII digits. -/
def digitsValue (digits : List Char) : Nat :=
  digits.foldl (fun n c => n * 10 + (c.toNat - 48)) 0

/-- The longest initial run of ASCII digits, and what follows it. -/
def spanDigits (chars : List Char) : List Char × List Char :=
  (chars.takeWhile Char.isDigit, chars.dropWhile Char.isDigit)

/-- An exponent after its letter: an optional sign and at least one digit, up to the end. -/
def exponentValue? (chars : List Char) : Option Int :=
  let (negative, digits) :=
    match chars with
    | '-' :: rest => (true, rest)
    | '+' :: rest => (false, rest)
    | rest => (false, rest)
  if digits.isEmpty || !digits.all Char.isDigit then none
  else some (if negative then -(digitsValue digits : Int) else digitsValue digits)

/-- An unsigned decimal numeral: digits with an optional point among them, and an exponent. -/
def unsigned? (negative : Bool) (chars : List Char) : Option Float := do
  let (whole, rest) := spanDigits chars
  let (fraction, rest) :=
    match rest with
    | '.' :: rest => spanDigits rest
    | rest => ([], rest)
  if whole.isEmpty && fraction.isEmpty then none
  let exponent ←
    match rest with
    | [] => some 0
    | e :: rest => if e == 'e' || e == 'E' then exponentValue? rest else none
  return ofDecimal negative (digitsValue (whole ++ fraction)) (exponent - fraction.length)

/-- The special numbers by name, in any case. -/
def named? (negative : Bool) (chars : List Char) : Option Float :=
  let name := String.ofList (chars.map Char.toLower)
  let size : Option Float :=
    if name == "inf" || name == "infinity" then some (1.0 / 0.0)
    else if name == "nan" then some (Float.ofBits 0x7ff8000000000000)
    else none
  size.map fun x => if negative then -x else x

/-- The number that some characters spell: a sign, and a numeral or a special name. -/
def parseChars? (chars : List Char) : Option Float :=
  let (negative, chars) :=
    match chars with
    | '-' :: rest => (true, rest)
    | '+' :: rest => (false, rest)
    | rest => (false, rest)
  (unsigned? negative chars).or (named? negative chars)

/-- The places behind the binary point of the least positive number. -/
def finestPlaces : Nat := 1074

/-- A finite number as a multiple of the least positive one. -/
def multiple? (x : Float) : Option Int :=
  if magnitude x = 0 then some 0
  else
    (Binary64.ofBits? (magnitude x)).map fun b =>
      let size : Nat := b.significand * 2 ^ (b.exponent + (finestPlaces : Int)).toNat
      if isNegative x then -(size : Int) else size

/-- The whole part of a finite number, rounded toward zero. -/
def toInt? (x : Float) : Option Int := (multiple? x).map fun m => m.tdiv (2 ^ finestPlaces)

/-- Whether a number is finite and has no fraction. -/
def isWhole (x : Float) : Bool :=
  match multiple? x with
  | some m => m % 2 ^ finestPlaces == 0
  | none => false

end MultisigQueue.Real
