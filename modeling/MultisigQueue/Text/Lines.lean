/-
Module: MultisigQueue.Text.Lines
Purpose: Texts cut into lines.
Main exports:
  Text.endsLine, Text.lines
-/

namespace MultisigQueue.Text

/-!
Besides the line feed, a line ends at a carriage return, of which a line feed behind it is a part,
at a vertical tab or a form feed, at three of the information separators of ASCII, and at the three
characters that Unicode has for it.
-/

/-- Whether a code point ends a line. -/
def endsLine (n : Nat) : Bool :=
  (0xa ≤ n && n ≤ 0xd) || (0x1c ≤ n && n ≤ 0x1e) || n == 0x85 || n == 0x2028 || n == 0x2029

/-- Lines, given the one that has been begun, in reverse. What the last end of a line leaves is no
line of its own if it is empty. -/
def linesFrom (begun : List Nat) : List Nat → List (List Nat)
  | [] => if begun.isEmpty then [] else [begun.reverse]
  | 0xd :: 0xa :: rest => begun.reverse :: linesFrom [] rest
  | n :: rest =>
    if endsLine n then begun.reverse :: linesFrom [] rest else linesFrom (n :: begun) rest

/-- The lines of a text, which is given by its code points. -/
def lines (text : List Nat) : List (List Nat) := linesFrom [] text

end MultisigQueue.Text
