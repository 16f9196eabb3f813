/-
Module: MultisigQueue.Text.Hex
Purpose: Hexadecimal text, printed in lowercase and read in either case.
Main exports:
  Hex.digit, Hex.value?, Hex.ofBytes, Hex.unmark, Hex.pairs, Hex.parse, HexError
-/
import MultisigQueue.Bytes

namespace MultisigQueue

/-!
A byte is written as two digits. Reading takes an optional leading `0x` or `0X`, wants an even
number of code points after it, and then accepts white space of ASCII before, between and after the
pairs, but not inside one. A failure names the place of the first character that breaks a pair.
-/

/-- Why a text is not a hexadecimal byte string. -/
inductive HexError where
  /-- The text has an odd number of code points. -/
  | oddLength
  /-- The code point at this index, counted after the mark, is not the digit that is due. -/
  | badDigit (position : Nat)
deriving DecidableEq, Repr

namespace Hex

/-- The lowercase digit of a number below 16. -/
def digit (n : Nat) : Char :=
  if n < 10 then Char.ofNat (n + 48) else Char.ofNat (n + 87)

/-- The value of a digit of either case. -/
def value? (c : Char) : Option Nat :=
  if '0' ≤ c ∧ c ≤ '9' then some (c.toNat - 48)
  else if 'a' ≤ c ∧ c ≤ 'f' then some (c.toNat - 87)
  else if 'A' ≤ c ∧ c ≤ 'F' then some (c.toNat - 55)
  else none

/-- The digits of a byte string. -/
def digits : Bytes → List Char
  | [] => []
  | x :: xs => digit (x.toNat / 16) :: digit (x.toNat % 16) :: digits xs

/-- A byte string as bare lowercase digits. -/
def bare (b : Bytes) : String := String.ofList (digits b)

/-- A byte string as lowercase digits after `0x`. -/
def ofBytes (b : Bytes) : String := String.ofList ('0' :: 'x' :: digits b)

/-- The characters after a leading `0x` or `0X`, or all of them where there is none. -/
def unmark : List Char → List Char
  | '0' :: 'x' :: rest => rest
  | '0' :: 'X' :: rest => rest
  | chars => chars

/-- White space of ASCII. -/
def isSpace (c : Char) : Bool :=
  c == ' ' || c == '\t' || c == '\n' || c == '\x0b' || c == '\x0c' || c == '\r'

/-- Digit pairs with white space around them; `position` counts the characters already read. -/
def pairs : Nat → List Char → Except Nat Bytes
  | _, [] => .ok []
  | position, [c] =>
    if isSpace c then .ok []
    else if (value? c).isSome then .error (position + 1)
    else .error position
  | position, c :: d :: rest =>
    if isSpace c then pairs (position + 1) (d :: rest)
    else
      match value? c, value? d with
      | none, _ => .error position
      | some _, none => .error (position + 1)
      | some high, some low => do
        let bytes ← pairs (position + 2) rest
        return UInt8.ofNat (high * 16 + low) :: bytes

/-- The bytes that a list of characters spells. A character outside ASCII is reported first. -/
def parseChars (chars : List Char) : Except HexError Bytes :=
  let body := unmark chars
  if body.length % 2 ≠ 0 then .error .oddLength
  else
    match body.findIdx? (fun c => 128 ≤ c.toNat) with
    | some position => .error (.badDigit position)
    | none => (pairs 0 body).mapError HexError.badDigit

/-- The bytes that a text spells. -/
def parse (text : String) : Except HexError Bytes := parseChars text.toList

@[simp] theorem length_digits (b : Bytes) : (digits b).length = 2 * b.length := by
  induction b with
  | nil => rfl
  | cons x xs ih => simp only [digits, List.length_cons, ih]; omega

end Hex

end MultisigQueue
