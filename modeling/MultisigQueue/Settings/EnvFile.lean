/-
Module: MultisigQueue.Settings.EnvFile
Purpose: Files that assign values to names, one assignment a line.
Main exports:
  EnvFile.Reading, EnvFile.assignment, EnvFile.parse, EnvFile.expand
-/
import MultisigQueue.Text.Blank

namespace MultisigQueue.EnvFile

/-!
A line assigns a value to a name: `NAME=value`, perhaps after the word `export`. A value between
single or double quotes may go over several lines and may hold escapes; any other value ends with
its line or before a `#` that follows a blank, and loses the blanks at its end. A line that is no
assignment is skipped from the place on where it stops being one. A value may refer to variables
between `${` and `}`, with what stands in for a missing one after `:-`.
-/

/-- Text in which every end of line is a single newline. -/
def unifyLineEnds : List Char → List Char
  | '\r' :: '\n' :: rest => '\n' :: unifyLineEnds rest
  | '\r' :: rest => '\n' :: unifyLineEnds rest
  | c :: rest => c :: unifyLineEnds rest
  | [] => []

/-- Whether a character ends a line. -/
def isLineEnd (c : Char) : Bool := c == '\n'

/-- A blank that does not end a line. -/
def isInnerBlank (c : Char) : Bool := Text.isBlank c && !isLineEnd c

/-- What has been read of a line: something, and the characters behind it. -/
abbrev Reading (α : Type) : Type := α × List Char

/-- The characters after the word `export` and the blanks behind it, or all where there is none. -/
def skipExport (chars : List Char) : List Char :=
  match chars with
  | 'e' :: 'x' :: 'p' :: 'o' :: 'r' :: 't' :: c :: rest =>
    if isInnerBlank c then rest.dropWhile isInnerBlank else chars
  | _ => chars

/-- Whether a character may stand in a name without quotes. -/
def isNameChar (c : Char) : Bool := !(c == '=' || c == '#' || Text.isBlank c)

/-- A name, which is missing in front of a comment. Where there is none although one is due, the
characters that are left are the error. -/
def name? (chars : List Char) : Except (List Char) (Reading (Option String)) :=
  match chars with
  | '#' :: _ => .ok (none, chars)
  | '\x27' :: rest =>
    let name := rest.takeWhile (· != '\x27')
    match rest.drop name.length with
    | _ :: behind => if name.isEmpty then .error chars else .ok (some (String.ofList name), behind)
    | [] => .error chars
  | _ =>
    let name := chars.takeWhile isNameChar
    if name.isEmpty then .error chars
    else .ok (some (String.ofList name), chars.drop name.length)

/-- The characters up to a closing quote, and those behind it. A backslash takes the character
behind it along, whatever that is, so that it does not close; it cannot stand at the end of a line.
-/
def upToQuote? (quote : Char) : List Char → Option (Reading (List Char))
  | [] => none
  | c :: rest =>
    if c == quote then some ([], rest)
    else if c == '\\' then
      match rest with
      | [] => none
      | d :: rest =>
        if isLineEnd d then none
        else do
          let (inner, behind) ← upToQuote? quote rest
          return (c :: d :: inner, behind)
    else do
      let (inner, behind) ← upToQuote? quote rest
      return (c :: inner, behind)

/-- The character that an escape between double quotes stands for. -/
def doubleEscape? (c : Char) : Option Char :=
  match c with
  | '\\' => some '\\'
  | '\x27' => some '\x27'
  | '\x22' => some '\x22'
  | 'a' => some '\x07'
  | 'b' => some '\x08'
  | 'f' => some '\x0c'
  | 'n' => some '\n'
  | 'r' => some '\r'
  | 't' => some '\t'
  | 'v' => some '\x0b'
  | _ => none

/-- The character that an escape between single quotes stands for. -/
def singleEscape? (c : Char) : Option Char :=
  if c == '\\' || c == '\x27' then some c else none

/-- Characters with each escape replaced by what it stands for. -/
def unescape (escape? : Char → Option Char) : List Char → List Char
  | '\\' :: c :: rest =>
    match escape? c with
    | some d => d :: unescape escape? rest
    | none => '\\' :: unescape escape? (c :: rest)
  | c :: rest => c :: unescape escape? rest
  | [] => []
termination_by chars => chars.length

/-- A value without quotes, before a comment: a blank and a `#`. -/
def beforeComment : List Char → List Char
  | [] => []
  | c :: rest =>
    let behind := rest.dropWhile Text.isBlank
    if Text.isBlank c && behind.head? == some '#' then [] else c :: beforeComment rest

/-- Characters without the blanks at their ends. -/
def trimmed (chars : List Char) : List Char := Text.trim Text.isBlank chars

/-- A value after the sign of equality, with blanks in front of it perhaps. -/
def value? (chars : List Char) : Except (List Char) (Reading String) :=
  let inner := chars.dropWhile isInnerBlank
  match inner with
  | '\x27' :: rest =>
    match upToQuote? '\x27' rest with
    | some (quoted, behind) => .ok (String.ofList (unescape singleEscape? quoted), behind)
    | none => .error inner
  | '\x22' :: rest =>
    match upToQuote? '\x22' rest with
    | some (quoted, behind) => .ok (String.ofList (unescape doubleEscape? quoted), behind)
    | none => .error inner
  | _ =>
    let line := chars.takeWhile (!isLineEnd ·)
    .ok (String.ofList (trimmed (beforeComment line)), chars.drop line.length)

/-- The characters behind a comment, with the blanks before it, if there is one. -/
def skipComment (chars : List Char) : List Char :=
  match chars.dropWhile isInnerBlank with
  | '#' :: rest => rest.dropWhile (!isLineEnd ·)
  | _ => chars

/-- The characters behind an end of line, of which blanks only may be in front. -/
def lineEnd? (chars : List Char) : Except (List Char) (List Char) :=
  match chars.dropWhile isInnerBlank with
  | [] => .ok []
  | c :: rest => if isLineEnd c then .ok rest else .error chars

/-- One line: the name and the value that it assigns, if it does. -/
def assignment (chars : List Char) :
    Except (List Char) (Reading (Option (String × Option String))) := do
  let (name, chars) ← name? (skipExport chars)
  let chars := chars.dropWhile isInnerBlank
  let (value, chars) ←
    match chars with
    | '=' :: rest => (value? rest).map fun (value, behind) => (some value, behind)
    | _ => .ok (none, chars)
  let behind ← lineEnd? (skipComment chars)
  return (name.map fun name => (name, value), behind)

/-- The characters of the next line. -/
def nextLine (chars : List Char) : List Char := (chars.dropWhile (!isLineEnd ·)).drop 1

/-- The assignments of so many lines at most; a name alone is assigned nothing. -/
def assignments : Nat → List Char → List (String × Option String)
  | 0, _ => []
  | lines + 1, chars =>
    match chars.dropWhile Text.isBlank with
    | [] => []
    | chars =>
      match assignment chars with
      | .ok (some entry, rest) => entry :: assignments lines rest
      | .ok (none, rest) => assignments lines rest
      | .error rest => assignments lines (nextLine rest)

/-- Characters without the mark of the byte order in front of them. -/
def withoutMark : List Char → List Char
  | '\ufeff' :: rest => rest
  | chars => chars

/-- The assignments in a file, in order. -/
def parse (file : String) : List (String × Option String) :=
  assignments (file.length + 1) (unifyLineEnds (withoutMark file.toList))

/-- A reference after its opening brace: the name, what stands in for a missing variable, and the
number of characters up to and with the closing brace. -/
def reference? (chars : List Char) : Option (String × String × Nat) :=
  let name := chars.takeWhile fun c => c != '\x7d' && c != ':'
  match chars.drop name.length with
  | '\x7d' :: _ => some (String.ofList name, "", name.length + 1)
  | ':' :: '-' :: rest =>
    let standIn := rest.takeWhile (· != '\x7d')
    if standIn.length < rest.length then
      some (String.ofList name, String.ofList standIn, name.length + standIn.length + 3)
    else none
  | _ => none

/-- The characters of a value with its references replaced; the first `skip` ones belong to a
reference that has been replaced already. -/
def expandFrom (value? : String → Option String) : Nat → List Char → List Char
  | _, [] => []
  | skip + 1, _ :: rest => expandFrom value? skip rest
  | 0, c :: rest =>
    match c, rest with
    | '$', '\x7b' :: inner =>
      match reference? inner with
      | some (name, standIn, length) =>
        ((value? name).getD standIn).toList ++ expandFrom value? (length + 1) rest
      | none => c :: expandFrom value? 0 rest
    | _, _ => c :: expandFrom value? 0 rest

/-- A value with its references replaced by the values of the variables. -/
def expand (value? : String → Option String) (value : String) : String :=
  String.ofList (expandFrom value? 0 value.toList)

end MultisigQueue.EnvFile
