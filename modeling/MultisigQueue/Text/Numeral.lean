/-
Module: MultisigQueue.Text.Numeral
Purpose: Integers written in positional notation, and integers and digits written out.
Main exports:
  NumeralError, Numeral.parse, Numeral.decimal, Numeral.hexadecimal
-/
import MultisigQueue.Text.Blank
import MultisigQueue.Text.Hex

namespace MultisigQueue

/-!
A numeral may have white space around it and a sign in front. Its digits may be of any script;
single underscores may stand between digits. In base 16 the letters of ASCII are digits as well, and
a mark `0x` may stand before the digits, itself followed by at most one underscore. Reading a long
numeral in base 10 takes more than linear time, so its digits are limited in number.
-/

/-- Why a text is not an integer. -/
inductive NumeralError where
  /-- The text is no numeral of the base. -/
  | malformed
  /-- The numeral has so many digits, which are too many. -/
  | tooLong (digits : Nat)
deriving DecidableEq, Repr

namespace Numeral

/-- The value of a digit below the base. -/
def digit? (base : Nat) (c : Char) : Option Nat :=
  match Text.decimalDigit? c, Hex.value? c with
  | some d, _ => if d < base then some d else none
  | none, some d => if d < base then some d else none
  | none, none => none

/-- Digits with single underscores between them, continued from the value already read. -/
def continued? (base : Nat) : Nat → List Char → Option Nat
  | value, [] => some value
  | value, '_' :: c :: rest => do continued? base (value * base + (← digit? base c)) rest
  | value, c :: rest => do continued? base (value * base + (← digit? base c)) rest

/-- One digit or more with single underscores between them. -/
def digits? (base : Nat) : List Char → Option Nat
  | [] => none
  | c :: rest => do continued? base (← digit? base c) rest

/-- Whether two characters are the mark of base 16; its zero may be of any script. -/
def isMark (zero mark : Char) : Bool :=
  Text.decimalDigit? zero == some 0 && (mark == 'x' || mark == 'X')

/-- The digits after the mark of the base, or all of them where there is none. -/
def unmark (base : Nat) (chars : List Char) : List Char :=
  match chars with
  | zero :: mark :: '_' :: rest => if base == 16 && isMark zero mark then rest else chars
  | zero :: mark :: rest => if base == 16 && isMark zero mark then rest else chars
  | _ => chars

/-- The most digits that are read of a numeral in base 10. -/
def digitLimit : Nat := 4300

/-- Whether a character may stand among the digits of a numeral. -/
def isInner (base : Nat) (c : Char) : Bool := c == '_' || (digit? base c).isSome

/-- The number of digits among the characters of a numeral. -/
def digitCount (chars : List Char) : Nat := chars.countP (· != '_')

/-- The natural number that an unsigned numeral spells. That its digits are too many is found out
before anything behind them is looked at. -/
def unsigned (base : Nat) (chars : List Char) : Except NumeralError Nat :=
  let body := unmark base chars
  let inner := body.takeWhile (isInner base)
  match digits? base inner with
  | none => .error .malformed
  | some n =>
    if base = 10 ∧ digitLimit < digitCount inner then .error (.tooLong (digitCount inner))
    else if inner.length < body.length then .error .malformed
    else .ok n

/-- The integer that a numeral spells. -/
def parseChars (base : Nat) (chars : List Char) : Except NumeralError Int :=
  match Text.trim Text.isWhiteSpace chars with
  | '-' :: rest => (unsigned base rest).map fun n => -(n : Int)
  | '+' :: rest => (unsigned base rest).map fun n => (n : Int)
  | rest => (unsigned base rest).map fun n => (n : Int)

/-- The integer that a text spells in a base. -/
def parse (base : Nat) (text : String) : Except NumeralError Int := parseChars base text.toList

/-- An integer in decimal digits. -/
def decimal (n : Int) : String :=
  match n with
  | .ofNat n => String.ofList (Nat.toDigits 10 n)
  | .negSucc n => String.ofList ('-' :: Nat.toDigits 10 (n + 1))

/-- An integer in lowercase hexadecimal digits after `0x`. -/
def hexadecimal (n : Int) : String :=
  match n with
  | .ofNat n => String.ofList ('0' :: 'x' :: Nat.toDigits 16 n)
  | .negSucc n => String.ofList ('-' :: '0' :: 'x' :: Nat.toDigits 16 (n + 1))

end Numeral

end MultisigQueue
