/-
Module: MultisigQueue.Text.Encoding
Purpose: Byte strings decoded to characters under the Unicode encodings.
Main exports:
  Utf8.decodeStrict?, Utf8.decodeLossy, Encoding, Encoding.detect, Encoding.decode?
-/
import MultisigQueue.Bytes
import MultisigQueue.Text.Half
import MultisigQueue.Text.Hex

namespace MultisigQueue

/-!
The lossy reading of UTF-8 puts one replacement character for each maximal run that could still have
become a character, and one for each octet that could not start any. The reading of documents
refuses such octets, but admits halves of characters that are encoded as if they were whole ones;
each is spelled by the escape that a document has for it.
-/

namespace Utf8

/-- What the octets at the front of a string are. -/
inductive Step where
  /-- A code point of so many octets. -/
  | point (codePoint length : Nat)
  /-- So many octets that are part of no character. -/
  | broken (length : Nat)
deriving DecidableEq, Repr

/-- Whether an octet continues a character. -/
def isTrail (x : UInt8) : Bool := 0x80 ≤ x && x < 0xc0

/-- The six bits of a continuation octet. -/
def trailBits (x : UInt8) : Nat := x.toNat % 64

/-- The range of the second octet that the first one allows. -/
def secondRange (halves : Bool) (first : UInt8) : UInt8 × UInt8 :=
  if first == 0xe0 then (0xa0, 0xbf)
  else if first == 0xed && !halves then (0x80, 0x9f)
  else if first == 0xf0 then (0x90, 0xbf)
  else if first == 0xf4 then (0x80, 0x8f)
  else (0x80, 0xbf)

/-- Whether the second octet fits the first. -/
def fitsSecond (halves : Bool) (first second : UInt8) : Bool :=
  let (low, high) := secondRange halves first
  low ≤ second && second ≤ high

/-- A character of two octets. -/
def two (a : UInt8) : Bytes → Step
  | b :: _ => if isTrail b then .point (a.toNat % 32 * 64 + trailBits b) 2 else .broken 1
  | [] => .broken 1

/-- A character of three octets, or a half of one if these are admitted. -/
def three (halves : Bool) (a : UInt8) : Bytes → Step
  | b :: c :: _ =>
    if !fitsSecond halves a b then .broken 1
    else if !isTrail c then .broken 2
    else .point ((a.toNat % 16 * 64 + trailBits b) * 64 + trailBits c) 3
  | [b] => if fitsSecond halves a b then .broken 2 else .broken 1
  | [] => .broken 1

/-- A character of four octets. -/
def four (a : UInt8) : Bytes → Step
  | b :: c :: d :: _ =>
    if !fitsSecond false a b then .broken 1
    else if !isTrail c then .broken 2
    else if !isTrail d then .broken 3
    else .point (((a.toNat % 8 * 64 + trailBits b) * 64 + trailBits c) * 64 + trailBits d) 4
  | [b, c] =>
    if !fitsSecond false a b then .broken 1 else if isTrail c then .broken 3 else .broken 2
  | [b] => if fitsSecond false a b then .broken 2 else .broken 1
  | [] => .broken 1

/-- What the octets at the front of a string are, given the first one. -/
def step (halves : Bool) (a : UInt8) (rest : Bytes) : Step :=
  if a < 0x80 then .point a.toNat 1
  else if 0xc2 ≤ a && a < 0xe0 then two a rest
  else if 0xe0 ≤ a && a < 0xf0 then three halves a rest
  else if 0xf0 ≤ a && a < 0xf5 then four a rest
  else .broken 1

/-- The steps through a string; after each octet that starts one, `skip` octets belong to it. -/
def steps (halves : Bool) : Nat → Bytes → List Step
  | _, [] => []
  | skip + 1, _ :: rest => steps halves skip rest
  | 0, a :: rest =>
    let here := step halves a rest
    let length :=
      match here with
      | .point _ length => length
      | .broken length => length
    here :: steps halves (length - 1) rest

/-- The code points that a byte string encodes, if it is well formed; halves may be admitted. -/
def decode? (halves : Bool) (b : Bytes) : Option (List Nat) :=
  (steps halves 0 b).mapM fun
    | .point codePoint _ => some codePoint
    | .broken _ => none

/-- The text that a byte string encodes, if it is well formed. -/
def decodeStrict? (b : Bytes) : Option String := (decode? false b).map Text.lossy

/-- The characters that a byte string encodes, with replacements where it is not well formed. -/
def decodeLossy (b : Bytes) : List Char :=
  (steps false 0 b).map fun
    | .point codePoint _ => Text.charOf codePoint
    | .broken _ => '\ufffd'

end Utf8

/-- The encodings that a document may have. -/
inductive Encoding where
  | utf8
  | utf16 (bigEndian : Bool)
  | utf32 (bigEndian : Bool)
deriving DecidableEq, Repr

namespace Encoding

/-- The encoding that the first octets of a document give away, and the length of the byte order
mark. Without a mark, the places of zero octets tell the encoding of a first character in ASCII. -/
def detect (b : Bytes) : Encoding × Nat :=
  match b with
  | 0 :: 0 :: 0xfe :: 0xff :: _ => (.utf32 true, 4)
  | 0xff :: 0xfe :: 0 :: 0 :: _ => (.utf32 false, 4)
  | 0xfe :: 0xff :: _ => (.utf16 true, 2)
  | 0xff :: 0xfe :: _ => (.utf16 false, 2)
  | 0xef :: 0xbb :: 0xbf :: _ => (.utf8, 3)
  | x :: y :: z :: w :: _ =>
    if x == 0 then (if y == 0 then .utf32 true else .utf16 true, 0)
    else if y == 0 then (if z == 0 && w == 0 then .utf32 false else .utf16 false, 0)
    else (.utf8, 0)
  | [x, y] => (if x == 0 then .utf16 true else if y == 0 then .utf16 false else .utf8, 0)
  | _ => (.utf8, 0)

/-- Units of 16 bits. -/
def units16? (bigEndian : Bool) : Bytes → Option (List Nat)
  | [] => some []
  | x :: y :: rest =>
    let unit := if bigEndian then x.toNat * 256 + y.toNat else y.toNat * 256 + x.toNat
    (units16? bigEndian rest).map (unit :: ·)
  | _ => none

/-- Units of 32 bits, which have to be code points. -/
def units32? (bigEndian : Bool) : Bytes → Option (List Nat)
  | [] => some []
  | x :: y :: z :: w :: rest => do
    let octets : Bytes := if bigEndian then [x, y, z, w] else [w, z, y, x]
    let n := octets.toNat
    if 0x110000 ≤ n then none else (units32? bigEndian rest).map (n :: ·)
  | _ => none

/-- The code points of a document in an encoding, if it is well formed. -/
def pointsAs? (encoding : Encoding) (b : Bytes) : Option (List Nat) :=
  match encoding with
  | utf8 => Utf8.decode? true b
  | utf16 bigEndian => (units16? bigEndian b).map Text.joinHalves
  | utf32 bigEndian => units32? bigEndian b

/-- Code points in characters. A half is spelled by its escape, but not where a backslash before it
already asks for the letter of an escape, which no half is. -/
def spelled (afterBackslash : Bool) : List Nat → List Char
  | [] => []
  | codePoint :: rest =>
    let here :=
      if Text.isHalf codePoint && !afterBackslash then
        '\\' :: 'u' :: Hex.digits (Bytes.ofNat 2 codePoint)
      else [Text.charOf codePoint]
    here ++ spelled (codePoint == '\\'.toNat && !afterBackslash) rest

/-- The characters of a document in the encoding that it gives away. -/
def decode? (b : Bytes) : Option (List Char) :=
  let (encoding, mark) := detect b
  (pointsAs? encoding (b.drop mark)).map (spelled false)

end Encoding

end MultisigQueue
