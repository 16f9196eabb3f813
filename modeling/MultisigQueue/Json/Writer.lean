/-
Module: MultisigQueue.Json.Writer
Purpose: Loosely typed values written as JSON documents.
Main exports:
  Json.Style, Json.compact, Json.spaced, Json.points, Json.write, Json.strict
-/
import MultisigQueue.Error.Input

namespace MultisigQueue.Json

/-- How a document is laid out. -/
structure Style where
  /-- Between two items. -/
  comma : String
  /-- Between a key and its value. -/
  colon : String
  /-- Whether characters outside ASCII are escaped. -/
  asciiOnly : Bool
  /-- Whether the fields of an object are sorted by key. -/
  sorted : Bool
deriving DecidableEq, Repr

/-- No blanks, every character raw that may be, fields in their order. -/
def compact : Style := ⟨",", ":", false, false⟩

/-- A blank after each comma and colon, ASCII only, fields sorted by key. -/
def spaced : Style := ⟨", ", ": ", true, true⟩

/-- A unit of 16 bits as an escape. -/
def unitEscape (unit : Nat) : List Char := '\\' :: 'u' :: Text.hexDigits 4 unit

/-- A code point as one escape, or as two above 16 bits. -/
def codePointEscape (n : Nat) : List Char :=
  if n < 0x10000 then unitEscape n
  else
    let offset := n - 0x10000
    unitEscape (0xd800 + offset / 0x400) ++ unitEscape (0xdc00 + offset % 0x400)

/-- One character of a text. -/
def textChar (asciiOnly : Bool) (c : Char) : List Char :=
  if c == '\x22' || c == '\\' then ['\\', c]
  else if c == '\n' then ['\\', 'n']
  else if c == '\r' then ['\\', 'r']
  else if c == '\t' then ['\\', 't']
  else if c == '\x0c' then ['\\', 'f']
  else if c == '\x08' then ['\\', 'b']
  else if c.toNat < 32 || (asciiOnly && 127 ≤ c.toNat) then codePointEscape c.toNat
  else [c]

/-- One code point of a text. A half of a character on its own is escaped only for the sake of
ASCII. -/
def textPoint (asciiOnly : Bool) (codePoint : Nat) : List Nat :=
  if Text.isHalf codePoint then
    if asciiOnly then (unitEscape codePoint).map Char.toNat else [codePoint]
  else (textChar asciiOnly (Text.charOf codePoint)).map Char.toNat

/-- A text between quotes. -/
def quoted (asciiOnly : Bool) (text : List Nat) : List Nat :=
  let quote := '\x22'.toNat
  quote :: (text.flatMap (textPoint asciiOnly) ++ [quote])

/-- A real number; the special ones are bare words. -/
def realText (x : Float) : String :=
  if x != x then "NaN"
  else if x.isInf then (if x < 0 then "-Infinity" else "Infinity")
  else Real.shown x

/-- Pairs in ascending order of their keys. -/
def byKey {α : Type} (pairs : List (String × α)) : List (String × α) :=
  pairs.mergeSort fun a b => !(b.1 < a.1)

/-- Parts between brackets, with something between every two of them. -/
def enclosed (left right between : String) (parts : List (List Nat)) : List Nat :=
  Text.points left ++ (Text.points between).intercalate parts ++ Text.points right

mutual

/-- The code points of a value as a document. Bytes have no place in one and are written as the text
that shows them. -/
def points (style : Style) : Value → List Nat
  | .null => Text.points "null"
  | .bool true => Text.points "true"
  | .bool false => Text.points "false"
  | .int n => Text.points (Numeral.decimal n)
  | .real x => Text.points (realText x)
  | .text s => quoted style.asciiOnly (Text.points s)
  | .unpaired codePoints => quoted style.asciiOnly codePoints
  | .bytes b => quoted style.asciiOnly (Text.points (Text.quotedBytes b))
  | .list items => enclosed "[" "]" style.comma (itemPoints style items)
  | .object fields =>
    let pairs := fieldPoints style fields
    let entries := (if style.sorted then byKey pairs else pairs).map fun (key, value) =>
      quoted style.asciiOnly (Text.points key) ++ Text.points style.colon ++ value
    enclosed "\x7b" "\x7d" style.comma entries

/-- Each item of a list as a document. -/
def itemPoints (style : Style) : List Value → List (List Nat)
  | [] => []
  | item :: rest => points style item :: itemPoints style rest

/-- Each field's key with its value as a document. -/
def fieldPoints (style : Style) : List (String × Value) → List (String × List Nat)
  | [] => []
  | (key, value) :: rest => (key, points style value) :: fieldPoints style rest

end

/-- A value as a document. Halves of characters are kept only by a style that escapes them. -/
def write (style : Style) (value : Value) : String := Text.lossy (points style value)

mutual

/-- Whether there are bytes somewhere in a value. -/
def hasBytes : Value → Bool
  | .bytes _ => true
  | .list items => anyHasBytes items
  | .object fields => anyFieldHasBytes fields
  | _ => false

/-- Whether there are bytes somewhere in a list. -/
def anyHasBytes : List Value → Bool
  | [] => false
  | item :: rest => hasBytes item || anyHasBytes rest

/-- Whether there are bytes somewhere in an object. -/
def anyFieldHasBytes : List (String × Value) → Bool
  | [] => false
  | (_, value) :: rest => hasBytes value || anyFieldHasBytes rest

end

/-- A value as a document, if there are no bytes in it and it can be encoded. -/
def strict (style : Style) (value : Value) : Except InputError String :=
  if hasBytes value then .error (.notDocument (Value.bytes []).kindName)
  else
    let document := points style value
    match Charset.utf8.refusal? document with
    | some e => .error e
    | none => .ok (Text.lossy document)

end MultisigQueue.Json
