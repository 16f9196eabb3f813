/-
Module: MultisigQueue.Json.Reader
Purpose: JSON documents read into loosely typed values.
Main exports:
  Json.ReadError, Json.parseChars
-/
import MultisigQueue.Value

namespace MultisigQueue.Json

/-!
The grammar is that of JSON with three more numbers, `NaN`, `Infinity` and `-Infinity`. A number
without fraction and exponent is an integer of any size, every other one is a real. Of fields with
one key the last one counts, at the place of the first. Raw control characters in texts, commas
before a closing bracket and anything after the document but blanks are refused. The digits of an
integer and the levels of nesting are limited; what is too much is found out on the way.

Each reader takes the characters left and gives back those that it did not use.
-/

/-- Why a document cannot be read. -/
inductive ReadError where
  /-- It does not follow the grammar. -/
  | malformed
  /-- An integer has so many digits, which are too many. -/
  | tooLong (digits : Nat)
  /-- A list or an object stands at too deep a level. -/
  | tooDeep (isObject : Bool)
deriving DecidableEq, Repr

/-- What has been read, which is against the grammar where there is nothing. -/
def orMalformed {α : Type} : Option α → Except ReadError α
  | some read => .ok read
  | none => .error .malformed

/-- The four blank characters of the grammar. -/
def isBlank (c : Char) : Bool := c == ' ' || c == '\t' || c == '\n' || c == '\r'

/-- The characters from the first that is not blank. -/
def skipBlank (chars : List Char) : List Char := chars.dropWhile isBlank

/-- The number that four hexadecimal digits spell. -/
def fourDigits? (a b c d : Char) : Option Nat := do
  let a ← Hex.value? a
  let b ← Hex.value? b
  let c ← Hex.value? c
  let d ← Hex.value? d
  return ((a * 16 + b) * 16 + c) * 16 + d

/-- The character of a one-letter escape. -/
def escaped? (c : Char) : Option Char :=
  if c == '\x22' || c == '\\' || c == '/' then some c
  else if c == 'b' then some '\x08'
  else if c == 'f' then some '\x0c'
  else if c == 'n' then some '\n'
  else if c == 'r' then some '\r'
  else if c == 't' then some '\t'
  else none

/-- The units of a text up to its closing quote: code points, or halves of one where escapes say so.
They are collected in reverse order. -/
def textUnits? (units : List Nat) : List Char → Option (List Nat × List Char)
  | [] => none
  | '\x22' :: rest => some (units, rest)
  | '\\' :: 'u' :: a :: b :: c :: d :: rest => do
    let unit ← fourDigits? a b c d
    textUnits? (unit :: units) rest
  | '\\' :: c :: rest => do
    let c ← escaped? c
    textUnits? (c.toNat :: units) rest
  | c :: rest => if c.toNat < 32 then none else textUnits? (c.toNat :: units) rest

/-- The code points of a text after its opening quote. -/
def text? (chars : List Char) : Option (List Nat × List Char) :=
  (textUnits? [] chars).map fun (units, rest) => (Text.joinHalves units.reverse, rest)

/-- The digits of a whole part: a single zero, or digits that do not start with one. -/
def wholePart? (chars : List Char) : Option (List Char × List Char) :=
  match chars with
  | '0' :: rest => some (['0'], rest)
  | c :: _ => if c.isDigit then some (Real.spanDigits chars) else none
  | [] => none

/-- The digits of a fraction, if a point and a digit come next. -/
def fractionPart (chars : List Char) : List Char × List Char :=
  match chars with
  | '.' :: rest =>
    let (digits, after) := Real.spanDigits rest
    if digits.isEmpty then ([], chars) else (digits, after)
  | _ => ([], chars)

/-- The sign and digits of an exponent, if a whole exponent comes next. -/
def exponentPart (chars : List Char) : List Char × List Char :=
  match chars with
  | e :: rest =>
    if e == 'e' || e == 'E' then
      let (sign, body) :=
        match rest with
        | '-' :: body => (['-'], body)
        | '+' :: body => ([], body)
        | body => ([], body)
      let (digits, after) := Real.spanDigits body
      if digits.isEmpty then ([], chars) else (sign ++ digits, after)
    else ([], chars)
  | [] => ([], [])

/-- A number without its sign. -/
def unsigned (negative : Bool) (chars : List Char) : Except ReadError (Value × List Char) := do
  let (whole, rest) ← orMalformed (wholePart? chars)
  let (fraction, rest) := fractionPart rest
  let (exponent, rest) := exponentPart rest
  let size := Real.digitsValue (whole ++ fraction)
  if fraction.isEmpty && exponent.isEmpty then
    if Numeral.digitLimit < whole.length then throw (.tooLong whole.length)
    return (.int (if negative then -(size : Int) else size), rest)
  let power := (Real.exponentValue? exponent).getD 0
  return (.real (Real.ofDecimal negative size (power - fraction.length)), rest)

/-- A fixed word, which stands for a value. -/
def word (spelling : String) (value : Value) (chars : List Char) :
    Except ReadError (Value × List Char) :=
  if spelling.toList.isPrefixOf chars then .ok (value, chars.drop spelling.length)
  else .error .malformed

/-- A fixed word or a number. -/
def scalar (chars : List Char) : Except ReadError (Value × List Char) :=
  match chars with
  | 'n' :: _ => word "null" .null chars
  | 't' :: _ => word "true" (.bool true) chars
  | 'f' :: _ => word "false" (.bool false) chars
  | 'N' :: _ => word "NaN" (.real (Float.ofBits 0x7ff8000000000000)) chars
  | 'I' :: _ => word "Infinity" (.real (1.0 / 0.0)) chars
  | '-' :: 'I' :: _ => word "-Infinity" (.real (-1.0 / 0.0)) chars
  | '-' :: rest => unsigned true rest
  | rest => unsigned false rest

mutual

/-- A value that starts at the first character, with so many levels of lists and objects below it.
-/
def value (levels : Nat) : Nat → List Char → Except ReadError (Value × List Char)
  | 0, _ => .error .malformed
  | fuel + 1, chars =>
    match chars with
    | '\x22' :: rest => do
      let (codePoints, rest) ← orMalformed (text? rest)
      return (.ofPoints codePoints, rest)
    | '[' :: rest =>
      if levels = 0 then .error (.tooDeep false)
      else
        match skipBlank rest with
        | ']' :: rest => .ok (.list [], rest)
        | rest => do
          let (read, rest) ← items (levels - 1) fuel [] rest
          return (.list read, rest)
    | '\x7b' :: rest =>
      if levels = 0 then .error (.tooDeep true)
      else
        match skipBlank rest with
        | '\x7d' :: rest => .ok (.object [], rest)
        | rest => do
          let (read, rest) ← fields (levels - 1) fuel [] rest
          return (.object read, rest)
    | rest => scalar rest

/-- The items of a list from the next one on; `before` holds the earlier ones in reverse. -/
def items (levels : Nat) :
    Nat → List Value → List Char → Except ReadError (List Value × List Char)
  | 0, _, _ => .error .malformed
  | fuel + 1, before, chars => do
    let (item, rest) ← value levels fuel chars
    match skipBlank rest with
    | ',' :: rest => items levels fuel (item :: before) (skipBlank rest)
    | ']' :: rest => .ok ((item :: before).reverse, rest)
    | _ => .error .malformed

/-- The fields of an object from the next one on, added to the earlier ones. -/
def fields (levels : Nat) :
    Nat → List (String × Value) → List Char → Except ReadError (List (String × Value) × List Char)
  | 0, _, _ => .error .malformed
  | fuel + 1, before, '\x22' :: chars => do
    let (codePoints, rest) ← orMalformed (text? chars)
    let key := Text.lossy codePoints
    match skipBlank rest with
    | ':' :: rest =>
      let (item, rest) ← value levels fuel (skipBlank rest)
      match skipBlank rest with
      | ',' :: rest => fields levels fuel (Value.setField before key item) (skipBlank rest)
      | '\x7d' :: rest => .ok (Value.setField before key item, rest)
      | _ => .error .malformed
    | _ => .error .malformed
  | _ + 1, _, _ => .error .malformed

end

/-- The most levels of lists and objects that a document may have. -/
def levelLimit : Nat := 980

/-- The value of a whole document. Every reader uses up a character, so the document's length bounds
their number. -/
def parseChars (chars : List Char) : Except ReadError Value := do
  let (value, rest) ← value levelLimit (chars.length + 1) (skipBlank chars)
  if (skipBlank rest).isEmpty then return value else throw .malformed

end MultisigQueue.Json
