/-
Module: MultisigQueue.Text.Half
Purpose: Halves of characters, joined where two of them fit and told apart where one stands alone.
Main exports:
  Text.isHighHalf, Text.isLowHalf, Text.joinHalves, Text.charOf, Text.lossy, Text.points
-/

namespace MultisigQueue.Text

/-!
A code point above 16 bits is written in units of 16 bits as two halves. Documents and encodings can
hold a half on its own, which is a code point but not a character.
-/

/-- Whether a unit is the first half of a code point. -/
def isHighHalf (unit : Nat) : Bool := 0xd800 ≤ unit && unit < 0xdc00

/-- Whether a unit is the second half of a code point. -/
def isLowHalf (unit : Nat) : Bool := 0xdc00 ≤ unit && unit < 0xe000

/-- Whether a code point is a half on its own. -/
def isHalf (codePoint : Nat) : Bool := isHighHalf codePoint || isLowHalf codePoint

/-- Units as code points, with two fitting halves joined. -/
def joinHalves : List Nat → List Nat
  | [] => []
  | [unit] => [unit]
  | high :: low :: rest =>
    if isHighHalf high && isLowHalf low then
      (0x10000 + (high - 0xd800) * 0x400 + (low - 0xdc00)) :: joinHalves rest
    else high :: joinHalves (low :: rest)

/-- The character of a code point; a half on its own becomes the replacement character. -/
def charOf (codePoint : Nat) : Char := if isHalf codePoint then '\ufffd' else Char.ofNat codePoint

/-- The text of code points, with a replacement character for each half on its own. -/
def lossy (codePoints : List Nat) : String := String.ofList (codePoints.map charOf)

/-- The code points of a text. -/
def points (s : String) : List Nat := s.toList.map Char.toNat

end MultisigQueue.Text
