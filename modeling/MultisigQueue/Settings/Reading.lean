/-
Module: MultisigQueue.Settings.Reading
Purpose: Loosely typed values of settings read as text, integers and real numbers.
Main exports:
  Setting.text, Setting.integer, Setting.real, Setting.atLeast, Setting.moreThan, Setting.atMost
-/
import MultisigQueue.Error
import MultisigQueue.Text.Encoding

namespace MultisigQueue.Setting

/-!
A setting may come as text even where a number is wanted. An integer may then have white space
around it, a sign, zeros in front, single underscores between its digits, and a fraction of zeros
only. A truth value counts as one or zero, and a real number passes for an integer if it has no
fraction. A byte string is the text that it encodes.
-/

/-- A setting read as a value, or the cause why it cannot be. -/
abbrev Reading (α : Type) : Type := Except FieldCause α

/-- The text that a byte string encodes, or the cause given. -/
def encodedText (cause : FieldCause) (b : Bytes) : Reading String :=
  match Utf8.decodeStrict? b with
  | some s => .ok s
  | none => .error cause

/-- A text as it stands. -/
def text : Value → Reading String
  | .text s => .ok s
  | .unpaired _ => .error .textOctets
  | .bytes b => encodedText .textOctets b
  | _ => .error .textKind

/-- Whether a character may stand among the zeros in front of a numeral. -/
def isLeading (c : Char) : Bool := c == '0' || c == '_'

/-- A numeral without the zeros in front of it, and without the underscores among these. The last of
them stays where no digit follows. -/
def withoutLeadingZeros (chars : List Char) : List Char :=
  if chars.head? != some '0' then chars
  else
    let zeros := chars.takeWhile isLeading
    let behind := chars.drop zeros.length
    if behind.isEmpty || behind.head? == some '.' then zeros.getLast?.toList ++ behind else behind

/-- A numeral without its fraction, if that consists of zeros. -/
def withoutZeroFraction (chars : List Char) : List Char :=
  let fraction := (chars.dropWhile (· != '.')).drop 1
  if !fraction.isEmpty && fraction.all (· == '0') then chars.takeWhile (· != '.') else chars

/-- The number that digits of ASCII spell, with single underscores between them. -/
def digits? (chars : List Char) : Option Nat :=
  if chars.all (fun c => c.isDigit || c == '_') then Numeral.digits? 10 chars else none

/-- The number that an unsigned numeral spells. -/
def unsigned? (chars : List Char) : Option Nat := do
  let digits := withoutZeroFraction (withoutLeadingZeros chars)
  let n ← digits? digits
  if Numeral.digitLimit < Numeral.digitCount digits then none else return n

/-- The length of the integer in its plain form, a minus sign perhaps and digits, that some
characters start with. -/
def plainLength (chars : List Char) : Nat :=
  let (sign, digits) :=
    match chars with
    | '-' :: rest => (1, rest)
    | rest => (0, rest)
  if digits.head? == some '0' then 0 else sign + (digits.takeWhile Char.isDigit).length

/-- The integer that a text spells. Only of one in its plain form is it told that it is too long. -/
def integerText (s : String) : Reading Int :=
  let chars := s.toList
  if Numeral.digitLimit < plainLength chars then .error .integerSize
  else
    let read : Option Int :=
      match Text.trim Text.isWhiteSpace chars with
      | '-' :: rest => (unsigned? rest).map fun n => -(n : Int)
      | '+' :: rest => (unsigned? rest).map fun n => (n : Int)
      | rest => (unsigned? rest).map fun n => (n : Int)
    match read with
    | some n => .ok n
    | none => .error .integerText

/-- The bound that the size of a real number given as an integer stays below. -/
def integerBound : Int := 2 ^ (63 : Nat)

/-- The integer that a real number is. -/
def integerOfReal (x : Float) : Reading Int :=
  match Real.toInt? x with
  | none => .error .notFinite
  | some n =>
    if !Real.isWhole x then .error .integerFromReal
    else if n.natAbs < integerBound.natAbs then .ok n
    else .error .integerSize

/-- An integer. -/
def integer : Value → Reading Int
  | .int n => .ok n
  | .bool b => .ok (if b then 1 else 0)
  | .real x => integerOfReal x
  | .text s => integerText s
  | .unpaired _ => .error .textOctets
  | .bytes b => do integerText (← encodedText .integerText b)
  | _ => .error .integerKind

/-- Characters without the underscores among them, if these stand alone and neither first nor last.
-/
def withoutUnderscores? (chars : List Char) : Option (List Char) :=
  let doubled := (chars.zip chars.tail).any fun (a, b) => a == '_' && b == '_'
  if chars.head? == some '_' || chars.getLast? == some '_' || doubled then none
  else some (chars.filter (· != '_'))

/-- The real number that a text spells: with white space around it, or else with underscores in it.
-/
def realText (s : String) : Reading Float :=
  let trimmed := Text.trim Text.isWhiteSpace s.toList
  let joined := (withoutUnderscores? s.toList).bind Real.parseChars?
  match (Real.parseChars? trimmed).or joined with
  | some x => .ok x
  | none => .error .realText

/-- A real number; an integer has to be near to one. -/
def real : Value → Reading Float
  | .real x => .ok x
  | .int n => if (Real.ofInt n).isInf then .error .realKind else .ok (Real.ofInt n)
  | .bool b => .ok (if b then 1.0 else 0.0)
  | .text s => realText s
  | .unpaired _ => .error .textOctets
  | .bytes b => do realText (← encodedText .realText b)
  | _ => .error .realKind

/-- A number above a bound. -/
def moreThan (bound n : Int) : Reading Int := if bound < n then .ok n else .error .tooSmall

/-- A number not below a bound. -/
def atLeast (bound n : Int) : Reading Int := if bound ≤ n then .ok n else .error .belowLeast

/-- A number not above a bound. -/
def atMost (bound n : Int) : Reading Int := if n ≤ bound then .ok n else .error .aboveGreatest

/-- A real number above zero, which an undefined one is not. -/
def positive (x : Float) : Reading Float := if 0.0 < x then .ok x else .error .tooSmall

end MultisigQueue.Setting
