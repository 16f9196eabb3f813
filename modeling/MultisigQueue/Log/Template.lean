/-
Module: MultisigQueue.Log.Template
Purpose: Messages with places for arguments, and the arguments filled into them.
Main exports:
  Log.Template.Conversion, Log.Template.parse?, Log.Template.fill?
-/
import MultisigQueue.Argument
import MultisigQueue.Decimal.Rounded

namespace MultisigQueue.Log.Template

/-!
A place for an argument is a percent sign, perhaps a key between parentheses, flags, a width, a
precision after a point, and a letter that says how the argument is written. Without keys the
arguments are used up in order, all of them; a width or a precision may be an argument as well. With
keys they are the fields of one object. A message whose places and arguments do not fit has no text.
-/

/-- The flags of a place. -/
structure Flags where
  /-- Blanks that fill the width go to the right. -/
  left : Bool := false
  /-- A number that is not negative has a plus sign. -/
  plus : Bool := false
  /-- A number without a sign has a blank instead. -/
  blank : Bool := false
  /-- An integer is marked with its base; a real number keeps its point and zeros. -/
  marked : Bool := false
  /-- Zeros instead of blanks fill the width of a number. -/
  zero : Bool := false
deriving DecidableEq, Repr

/-- A width or a precision: a number, or the next argument. -/
inductive Measure where
  | fixed (n : Nat)
  | argument
deriving DecidableEq, Repr

/-- A place for an argument. -/
structure Conversion where
  key : Option String
  flags : Flags
  width : Option Measure
  precision : Option Measure
  letter : Char
deriving DecidableEq, Repr

/-- A part of a message. -/
inductive Piece where
  | literal (codePoint : Nat)
  | place (c : Conversion)
deriving DecidableEq, Repr

/-- The characters of a key, up to the parenthesis that closes it, and those behind it. -/
def key? : Nat → List Char → Option (List Char × List Char)
  | _, [] => none
  | depth, ')' :: rest =>
    match depth with
    | 0 => some ([], rest)
    | depth + 1 => (key? depth rest).map fun (key, behind) => (')' :: key, behind)
  | depth, '(' :: rest => (key? (depth + 1) rest).map fun (key, behind) => ('(' :: key, behind)
  | depth, c :: rest => (key? depth rest).map fun (key, behind) => (c :: key, behind)

/-- The flags with one more, if the character is one. -/
def Flags.with? (f : Flags) (c : Char) : Option Flags :=
  match c with
  | '-' => some { f with left := true }
  | '+' => some { f with plus := true }
  | ' ' => some { f with blank := true }
  | '#' => some { f with marked := true }
  | '0' => some { f with zero := true }
  | _ => none

/-- The flags at the front, and the characters behind them. -/
def flags (f : Flags) : List Char → Flags × List Char
  | [] => (f, [])
  | c :: rest =>
    match f.with? c with
    | some f => flags f rest
    | none => (f, c :: rest)

/-- A measure at the front, if there is one, and the characters behind it. -/
def measure (chars : List Char) : Option Measure × List Char :=
  match chars with
  | '*' :: rest => (some .argument, rest)
  | _ =>
    let (digits, behind) := Real.spanDigits chars
    (if digits.isEmpty then none else some (.fixed (Real.digitsValue digits)), behind)

/-- A precision at the front, if there is one; without digits it is zero. -/
def precision (chars : List Char) : Option Measure × List Char :=
  match chars with
  | '.' :: rest =>
    let (found, behind) := measure rest
    (some (found.getD (.fixed 0)), behind)
  | _ => (none, chars)

/-- The letters that say how an argument is written. -/
def letters : List Char :=
  ['d', 'i', 'u', 'o', 'x', 'X', 'e', 'E', 'f', 'F', 'g', 'G', 'c', 's', 'r', 'a']

/-- The letters that may stand in front of these without a meaning. -/
def idleLetters : List Char := ['h', 'l', 'L']

/-- A place after its percent sign, and the characters behind it. -/
def place? (chars : List Char) : Option (Conversion × List Char) := do
  let (key, rest) ←
    match chars with
    | '(' :: rest => (key? 0 rest).map fun (key, behind) => (some (String.ofList key), behind)
    | _ => some (none, chars)
  let (flags, rest) := flags {} rest
  let (width, rest) := measure rest
  let (precision, rest) := precision rest
  let rest :=
    match rest with
    | c :: behind => if idleLetters.contains c then behind else rest
    | [] => []
  match rest with
  | letter :: behind =>
    if letters.contains letter then some ({ key, flags, width, precision, letter }, behind)
    else none
  | [] => none

/-- The pieces of a message of so many code points at most, if it is well formed. -/
def pieces? : Nat → List Nat → Option (List Piece)
  | _, [] => some []
  | 0, _ :: _ => none
  | bound + 1, codePoint :: rest =>
    if codePoint ≠ '%'.toNat then (pieces? bound rest).map (.literal codePoint :: ·)
    else if rest.head? = some codePoint then
      (pieces? bound (rest.drop 1)).map (.literal codePoint :: ·)
    else do
      let (conversion, behind) ← place? (rest.map Text.charOf)
      return .place conversion :: (← pieces? bound (rest.drop (rest.length - behind.length)))

/-- The pieces of a message, if it is well formed. -/
def parse? (message : List Nat) : Option (List Piece) := pieces? message.length message

/-! ### Single arguments -/

/-- A number in parts: its sign, the mark of its base, and its digits. -/
structure Parts where
  sign : List Char
  mark : List Char
  digits : List Char
deriving DecidableEq, Repr

/-- The sign of a number by its flags. -/
def Flags.sign (f : Flags) (negative : Bool) : List Char :=
  if negative then ['-'] else if f.plus then ['+'] else if f.blank then [' '] else []

/-- The parts in a width, filled with zeros behind the mark or with blanks at either end. -/
def Parts.filled (p : Parts) (f : Flags) (width : Nat) : List Char :=
  let room := width - (p.sign.length + p.mark.length + p.digits.length)
  if f.left then p.sign ++ p.mark ++ p.digits ++ List.replicate room ' '
  else if f.zero then p.sign ++ p.mark ++ List.replicate room '0' ++ p.digits
  else List.replicate room ' ' ++ p.sign ++ p.mark ++ p.digits

/-- Characters in capitals of ASCII. -/
def capitals (chars : List Char) : List Char := chars.map Char.toUpper

/-- The integer that is written for an argument; only in base 10 a real number loses its fraction.
-/
def integer? (letter : Char) : Value → Option Int
  | .int n => some n
  | .bool b => some (if b then 1 else 0)
  | .real x => if ['d', 'i', 'u'].contains letter then Real.toInt? x else none
  | _ => none

/-- The base that a letter stands for, and the mark of it. -/
def base : Char → Nat × List Char
  | 'o' => (8, ['0', 'o'])
  | 'x' => (16, ['0', 'x'])
  | 'X' => (16, ['0', 'X'])
  | _ => (10, [])

/-- An integer in at least as many digits as the precision says. -/
def integerParts (c : Conversion) (precision : Option Nat) (n : Int) : Parts :=
  let (base, mark) := base c.letter
  let digits := Nat.toDigits base n.natAbs
  let all := List.replicate (precision.getD 0 - digits.length) '0' ++ digits
  { sign := c.flags.sign (n < 0)
    mark := if c.flags.marked then mark else []
    digits := if c.letter = 'X' then capitals all else all }

/-- The form of a real number that a letter stands for. -/
def form : Char → Real.Form
  | 'e' | 'E' => .scientific
  | 'g' | 'G' => .general
  | _ => .fixed

/-- The places of a real number where no precision is given. -/
def usualPrecision : Nat := 6

/-- The real number that is written for an argument. -/
def real? : Value → Option Float
  | .real x => some x
  | .int n => if (Real.ofInt n).isInf then none else some (Real.ofInt n)
  | .bool b => some (if b then 1.0 else 0.0)
  | _ => none

/-- A real number with as many digits as the precision says. -/
def realParts (c : Conversion) (precision : Option Nat) (x : Float) : Parts :=
  let all := Real.rounded (form c.letter) (precision.getD usualPrecision) c.flags.marked x
  let negative := all.head? == some '-'
  let digits := if negative then all.drop 1 else all
  { sign := c.flags.sign negative
    mark := []
    digits := if c.letter.isUpper then capitals digits else digits }

/-- A text in a width, filled with blanks. -/
def padded (f : Flags) (width : Nat) (text : List Nat) : List Nat :=
  let room := List.replicate (width - text.length) ' '.toNat
  if f.left then text ++ room else room ++ text

/-- The code point of a character that an argument is, or the code point that it is. -/
def codePoint? : Value → Option Nat
  | .int n => if 0 ≤ n ∧ n < 0x110000 then some n.toNat else none
  | .bool b => some (if b then 1 else 0)
  | .text s =>
    match Text.points s with
    | [codePoint] => some codePoint
    | _ => none
  | .unpaired [codePoint] => some codePoint
  | _ => none

/-- The code points of an argument in its place. -/
def written? (c : Conversion) (flags : Flags) (width : Nat) (precision : Option Nat) (v : Value) :
    Option (List Nat) :=
  let cut := fun text : List Nat => padded flags width (text.take (precision.getD text.length))
  let number := fun parts : Parts => (parts.filled flags width).map Char.toNat
  match c.letter with
  | 's' => some (cut v.plainPoints)
  | 'r' => some (cut (Text.points v.shown))
  | 'a' => some (cut (Text.points (Text.escaped v.shown)))
  | 'c' => (codePoint? v).map fun codePoint => padded flags width [codePoint]
  | letter =>
    if ['d', 'i', 'u', 'o', 'x', 'X'].contains letter then
      (integer? letter v).map fun n => number (integerParts c precision n)
    else (real? v).map fun x => number (realParts c precision x)

/-! ### Arguments in order -/

/-- The arguments that are left, while a message is being filled. -/
abbrev Filling (α : Type) : Type := StateT (List Value) Option α

/-- Uses up the next argument. -/
def next : Filling Value := do
  match ← get with
  | v :: rest =>
    set rest
    return v
  | [] => failure

/-- The size that a width and a precision stay below. -/
def measureBound : Int := 2 ^ (31 : Nat)

/-- The integer that a measure is, if it is not too big. -/
def measured : Option Measure → Filling (Option Int)
  | none => return none
  | some measure => do
    let size : Int ←
      match measure with
      | .fixed n => pure n
      | .argument =>
        match ← next with
        | .int n => pure n
        | .bool b => pure (if b then 1 else 0)
        | _ => failure
    if -measureBound ≤ size ∧ size < measureBound then return some size else failure

/-- Fills one place. A negative width is one with the blanks to the right. -/
def filled (fields : Option (List (String × Value))) (c : Conversion) : Filling (List Nat) := do
  match c.key, fields with
  | none, _ => pure ()
  | some key, some fields =>
    match Value.field? fields key with
    | some v => set [v]
    | none => failure
  | some _, none => failure
  let width := (← measured c.width).getD 0
  let precision := (← measured c.precision).map Int.toNat
  let flags := { c.flags with left := c.flags.left || width < 0 }
  let v ← next
  match written? c flags width.natAbs precision v with
  | some text => return text
  | none => failure

/-- The code points of some pieces. -/
def written (fields : Option (List (String × Value))) : List Piece → Filling (List Nat)
  | [] => return []
  | .literal codePoint :: rest => return codePoint :: (← written fields rest)
  | .place c :: rest => return (← filled fields c) ++ (← written fields rest)

/-- The code points of a message filled with some arguments. A single object that is not empty
stands for its fields. -/
def fill? (message : List Nat) (args : List Value) : Option (List Nat) := do
  let pieces ← parse? message
  let fields : Option (List (String × Value)) :=
    match args with
    | [.object fields] => if fields.isEmpty then none else some fields
    | _ => none
  let (text, left) ← (written fields pieces).run args
  if left.isEmpty || fields.isSome then return text else none

end MultisigQueue.Log.Template
