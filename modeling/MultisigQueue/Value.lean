/-
Module: MultisigQueue.Value
Purpose: Loosely typed values, as callers pass them and as documents contain them.
Main exports:
  Value, Value.ofPoints, Value.field?, Value.setField, Value.kindName, Value.shown, Value.plain,
  Value.plainPoints
-/
import MultisigQueue.Decimal.Real
import MultisigQueue.Text.Numeral
import MultisigQueue.Text.Quoted

namespace MultisigQueue

/-!
Arguments may arrive as text, as bytes or as numbers, and the answers of a node are documents of any
shape. Both are values of one type. The fields of an object keep their order. A text is a string of
characters; only a document can hold a text with a half of a character in it, which is kept apart.
-/

/-- A loosely typed value. -/
inductive Value where
  | null
  | bool (b : Bool)
  | int (n : Int)
  | real (x : Float)
  | text (s : String)
  /-- A text, given by its code points, in which some half of a character stands alone. -/
  | unpaired (codePoints : List Nat)
  | bytes (b : Bytes)
  | list (items : List Value)
  | object (fields : List (String × Value))
deriving Inhabited

namespace Value

/-- The text of some code points. -/
def ofPoints (codePoints : List Nat) : Value :=
  if codePoints.any Text.isHalf then .unpaired codePoints
  else .text (String.ofList (codePoints.map Text.charOf))

/-- The value of a field, if the object has it. -/
def field? (fields : List (String × Value)) (key : String) : Option Value :=
  (fields.find? fun entry => entry.1 == key).map (·.2)

/-- Fields with one set: in place where the key is there already, else at the end. -/
def setField (fields : List (String × Value)) (key : String) (value : Value) :
    List (String × Value) :=
  if fields.any fun entry => entry.1 == key then
    fields.map fun entry => if entry.1 == key then (key, value) else entry
  else fields ++ [(key, value)]

/-- The name of a value's kind, as messages give it. -/
def kindName : Value → String
  | .null => "NoneType"
  | .bool _ => "bool"
  | .int _ => "int"
  | .real _ => "float"
  | .text _ | .unpaired _ => "str"
  | .bytes _ => "bytes"
  | .list _ => "list"
  | .object _ => "dict"

mutual

/-- A value as messages show it: texts between quotes, everything else bare. -/
def shown : Value → String
  | .null => "None"
  | .bool true => "True"
  | .bool false => "False"
  | .int n => Numeral.decimal n
  | .real x => Real.shown x
  | .text s => Text.quoted s
  | .unpaired codePoints => Text.quotedPoints codePoints
  | .bytes b => Text.quotedBytes b
  | .list items => "[" ++ String.intercalate ", " (shownItems items) ++ "]"
  | .object fields => "\x7b" ++ String.intercalate ", " (shownFields fields) ++ "\x7d"

/-- Each item of a list as messages show it. -/
def shownItems : List Value → List String
  | [] => []
  | item :: rest => shown item :: shownItems rest

/-- Each field of an object as messages show it. -/
def shownFields : List (String × Value) → List String
  | [] => []
  | (key, value) :: rest => (Text.quoted key ++ ": " ++ shown value) :: shownFields rest

end

/-- A value as plain text: a text is itself, everything else is as messages show it. -/
def plain : Value → String
  | .text s => s
  | .unpaired codePoints => Text.lossy codePoints
  | other => other.shown

/-- The code points of a value as plain text. -/
def plainPoints : Value → List Nat
  | .unpaired codePoints => codePoints
  | other => Text.points other.plain

/-- A value as a text value: a text is itself, everything else is as messages show it. -/
def asText : Value → Value
  | .unpaired codePoints => .unpaired codePoints
  | other => .text other.plain

end Value

end MultisigQueue
