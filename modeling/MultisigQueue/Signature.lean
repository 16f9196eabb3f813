/-
Module: MultisigQueue.Signature
Purpose: Compact signatures and the 65 octets that each expands to.
Main exports:
  Signature, Signature.yParity, Signature.s, Signature.v, Signature.full, Signature.compact,
  Signature.ofParts, Signature.ofNumbers, Signature.ofValues
-/
import MultisigQueue.Argument.Order

namespace MultisigQueue

/-!
A compact signature is two words: `r`, and `vs`, whose top bit is the parity of the curve point and
whose other 255 bits are the number `s`. The signer is a claim: it says whose list the signature was
read from, and nothing here checks it against the two words.
-/

/-- A compact signature over a transaction's hash, with the owner who is said to have made it. -/
structure Signature where
  r : Word
  vs : Word
  txHash : Word
  signer : Address
deriving DecidableEq, Repr

namespace Signature

/-- The parity of the curve point: the top bit of the second word. -/
def yParity (g : Signature) : Nat := g.vs.toNat / 2 ^ (255 : Nat)

/-- The number `s`: the second word without its top bit. -/
def s (g : Signature) : Word := FixedBytes.ofNat 32 (g.vs.toNat % 2 ^ (255 : Nat))

/-- The recovery identifier of a full signature. -/
def v (g : Signature) : Nat := 27 + g.yParity

/-- The full signature: `r`, `s` and `v` in 65 octets. -/
def full (g : Signature) : Bytes := g.r.bytes ++ g.s.bytes ++ [UInt8.ofNat g.v]

/-- A number as a word, if it fits. -/
def wordOfNumber (n : Int) : Except InputError Word :=
  if n < 0 then .error .negativeNumber
  else if 2 ^ (256 : Nat) ≤ n then .error .tooBig
  else .ok (FixedBytes.ofNat 32 n.toNat)

/-- The parity that a recovery identifier stands for. -/
def parityOf (v : Int) : Except InputError Nat :=
  if v = 0 ∨ v = 27 then .ok 0
  else if v = 1 ∨ v = 28 then .ok 1
  else .error (.recoveryId (.int v))

/-- The second word of a signature with the given parity and number `s`, which is not negative. -/
def secondWord (parity : Nat) (s : Int) : Except InputError Word :=
  if s < 0 then .error .negativeNumber
  else .ok (FixedBytes.ofNat 32 (parity * 2 ^ (255 : Nat) + s.toNat))

/-- The two words of a full signature given as three numbers. -/
def compact (r s v : Int) : Except InputError (Word × Word) := do
  let parity ← parityOf v
  if 2 ^ (255 : Nat) ≤ s then throw .sRange
  let r ← wordOfNumber r
  let vs ← secondWord parity s
  return (r, vs)

/-- The compact form of a full signature; the numbers are looked at before the hash and the signer.
-/
def ofParts (r s v : Int) (txHash signer : Value) : Except InputError Signature := do
  let (r, vs) ← compact r s v
  let txHash ← txHash.toWord
  let signer ← signer.toAddress
  return { r, vs, txHash, signer }

/-- The recovery identifiers, the first two as parities and the others as they stand in a full
signature. -/
def recoveryIds : List Int := [0, 1, 27, 28]

/-- The greatest number that `s` can be. -/
def sMost : Int := 2 ^ (255 : Nat) - 1

/-- The integer that a value is, if it is one; no other value can be written in octets. -/
def wholeNumber : Value → Except InputError Int
  | .int n => .ok n
  | .bool b => .ok (if b then 1 else 0)
  | other => .error (.noAttribute other.kindName "to_bytes")

/-- The compact form of a full signature whose three numbers are loosely typed. They are compared
before it matters whether they are integers: first the recovery identifier, then `s`, then `r`. -/
def ofNumbers (r s v txHash signer : Value) : Except InputError Signature := do
  let _ ← v.relate .atLeast (.int 27)
  match recoveryIds.find? fun id => v.equals (.int id) with
  | none => throw (.recoveryId v)
  | some id =>
    if ← s.relate .more (.int sMost) then throw .sRange
    if v matches .real _ then throw (.badOperands "<<" "float" "int")
    if s matches .real _ then throw (.badOperands "|" "int" "float")
    let r ← wholeNumber r
    let s ← wholeNumber s
    ofParts r s id txHash signer

/-- A compact signature from loosely typed parts, read from left to right. -/
def ofValues (r vs txHash signer : Value) : Except InputError Signature := do
  let r ← r.toWord
  let vs ← vs.toWord
  let txHash ← txHash.toWord
  let signer ← signer.toAddress
  return { r, vs, txHash, signer }

end Signature

end MultisigQueue
