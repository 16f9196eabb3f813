/-
Module: MultisigQueue.Address
Purpose: Account addresses and their checksummed spelling.
Main exports:
  Address, Address.checksummed, Address.lowercase, Address.ofText?, Address.CaseRule,
  Address.ofCased?, Address.ofWord
-/
import MultisigQueue.Keccak
import MultisigQueue.Text.Hex

namespace MultisigQueue

/-!
An address is 20 octets. It is shown with a checksum in the case of its letters: a letter is a
capital exactly if the digit at the same place in the digest of the lowercase spelling is 8 or more.
It is read in any case, with or without a leading `0x`; no character outside ASCII is a spelling of
a digit, so nothing else has to be folded. Where the case is checked, letters of both cases have to
be those of the checksum; letters of one case say nothing about it.
-/

/-- An account address. -/
abbrev Address : Type := FixedBytes 20

namespace Address

/-- The lowercase digits of an address. -/
def digits (a : Address) : List Char := Hex.digits a.bytes

/-- The address in lowercase digits after `0x`. -/
def lowercase (a : Address) : String := Hex.ofBytes a.bytes

/-- The digits of a digest as numbers. -/
def nibbles (b : Bytes) : List Nat := b.flatMap fun x => [x.toNat / 16, x.toNat % 16]

/-- The digest whose digits decide the case of the letters. -/
def caseDigest (a : Address) : Word :=
  keccak256 (a.digits.map fun c => UInt8.ofNat c.toNat)

/-- A digit in the case that the digest's digit at its place asks for. -/
def cased (c : Char) (nibble : Nat) : Char := if 8 ≤ nibble then c.toUpper else c

/-- The address with its checksum in the case of the letters. -/
def checksummed (a : Address) : String :=
  String.ofList ('0' :: 'x' :: List.zipWith cased a.digits (nibbles a.caseDigest.bytes))

/-- The address that 40 digits of either case spell, after an optional `0x` or `0X`. -/
def ofChars? (chars : List Char) : Option Address :=
  let body := Hex.unmark chars
  if body.length = 40 ∧ body.all (fun c => (Hex.value? c).isSome) then
    match Hex.pairs 0 body with
    | .ok bytes => FixedBytes.ofBytes? 20 bytes
    | .error _ => none
  else none

/-- The address that a text spells. -/
def ofText? (text : String) : Option Address := ofChars? text.toList

/-- What is made of the case of the letters where a text stands for an address. -/
inductive CaseRule where
  /-- A text with letters of both cases has to be the checksummed spelling. -/
  | checked
  /-- Letters of any case will do. -/
  | ignored
deriving DecidableEq, Repr

/-- Whether a text has both small letters and capitals behind its mark. -/
def isMixed (text : String) : Bool :=
  let body := Hex.unmark text.toList
  body.any Char.isLower && body.any Char.isUpper

/-- Whether a text may stand for an address that it spells. -/
def CaseRule.allows (rule : CaseRule) (text : String) (a : Address) : Bool :=
  match rule with
  | .checked => !isMixed text || text == a.checksummed
  | .ignored => true

/-- The address that a text spells in letters that the rule allows. -/
def ofCased? (rule : CaseRule) (text : String) : Option Address :=
  (ofText? text).filter (rule.allows text)

/-- The address in the last 20 octets of a word. -/
def ofWord (w : Word) : Address :=
  ⟨w.bytes.drop 12, by rw [List.length_drop, w.length_eq]⟩

/-- An address from a number, of which only what fits in 20 octets is kept. -/
def ofNat (n : Nat) : Address := FixedBytes.ofNat 20 n

/-- The address of all zeros. -/
def zero : Address := ofNat 0

end Address

end MultisigQueue
