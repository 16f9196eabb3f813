/-
Module: MultisigQueue.Text.Quoted
Purpose: Texts and byte strings between quotes, as they appear inside messages.
Main exports:
  Text.quoted, Text.quotedPoints, Text.quotedBytes, Text.escaped
-/
import MultisigQueue.Text.Half
import MultisigQueue.Text.Hex
import MultisigQueue.Text.Printable

namespace MultisigQueue.Text

/-!
A text stands between single quotes, or between double quotes if it holds a single quote and no
double one. The quote in use, the backslash, line feed, carriage return and tab are escaped by a
backslash; every other character that cannot be shown is written as its code point in two, four or
eight hexadecimal digits.
-/

/-- The quote that encloses a text. -/
def quoteFor (chars : List Char) : Char :=
  if chars.contains '\x27' && !chars.contains '\x22' then '\x22' else '\x27'

/-- The last `count` hexadecimal digits of a number. -/
def hexDigits : Nat → Nat → List Char
  | 0, _ => []
  | count + 1, n => Hex.digit (n / 16 ^ count % 16) :: hexDigits count n

/-- A code point as an escape of two, four or eight digits. -/
def codePointEscape (n : Nat) : List Char :=
  if n < 0x100 then '\\' :: 'x' :: hexDigits 2 n
  else if n < 0x10000 then '\\' :: 'u' :: hexDigits 4 n
  else '\\' :: 'U' :: hexDigits 8 n

/-- One character of a quoted text. -/
def quotedChar (quote c : Char) : List Char :=
  if c == quote || c == '\\' then ['\\', c]
  else if c == '\n' then ['\\', 'n']
  else if c == '\r' then ['\\', 'r']
  else if c == '\t' then ['\\', 't']
  else if isPrintable c then [c]
  else codePointEscape c.toNat

/-- A text between quotes. -/
def quoted (text : String) : String :=
  let chars := text.toList
  let quote := quoteFor chars
  String.ofList (quote :: (chars.flatMap (quotedChar quote) ++ [quote]))

/-- One code point of a quoted text; a half of a character on its own cannot be shown. -/
def quotedPoint (quote : Char) (codePoint : Nat) : List Char :=
  if isHalf codePoint then codePointEscape codePoint else quotedChar quote (charOf codePoint)

/-- A text given by its code points, between quotes. -/
def quotedPoints (codePoints : List Nat) : String :=
  let quote := quoteFor (codePoints.map charOf)
  String.ofList (quote :: (codePoints.flatMap (quotedPoint quote) ++ [quote]))

/-- A text in which every character outside ASCII is written as its code point. -/
def escaped (text : String) : String :=
  String.ofList
    (text.toList.flatMap fun c => if c.toNat < 128 then [c] else codePointEscape c.toNat)

/-- One octet of a quoted byte string: an ASCII character where it is a printable one. -/
def quotedByte (quote : Char) (x : UInt8) : List Char :=
  if x < 128 then quotedChar quote (Char.ofNat x.toNat) else codePointEscape x.toNat

/-- A byte string between quotes, marked with a leading `b`. -/
def quotedBytes (bytes : Bytes) : String :=
  let quote := quoteFor (bytes.map fun x => Char.ofNat x.toNat)
  String.ofList ('b' :: quote :: (bytes.flatMap (quotedByte quote) ++ [quote]))

end MultisigQueue.Text
