/-
Module: MultisigQueue.Quorum
Purpose: Signatures in signer order, their joint authorization, and who really made them.
Main exports:
  sortBySigner, authorization, reaches, reachesGiven, Recovery, recoverSigner, mismatched
-/
import MultisigQueue.Curve
import MultisigQueue.Signature

namespace MultisigQueue

/-!
A Safe takes one byte string for all signatures: 65 octets for each, in ascending order of the
signers' addresses as numbers. Signatures of one signer keep the order in which they are given. Who
made a signature is recovered from its words; the recovery is a parameter of what is said about it.
-/

/-- Signatures in ascending order of their signers. -/
def sortBySigner (signatures : List Signature) : List Signature :=
  signatures.mergeSort fun a b => a.signer.toNat ≤ b.signer.toNat

/-- The authorization that signatures make up; there must be one at least. -/
def authorization (signatures : List Signature) : Except AbiError Bytes :=
  if signatures.isEmpty then
    .error
      { failure := .noSignatures, function := some "encode_authorization", authorization := true }
  else .ok ((sortBySigner signatures).flatMap Signature.full)

/-- Whether so many signatures reach a threshold. -/
def reaches (signatures : List Signature) (threshold : Int) : Bool :=
  threshold ≤ (signatures.length : Int)

/-- Whether so many signatures reach a loosely typed threshold, which has to be a number. -/
def reachesGiven (signatures : List Signature) (threshold : Value) : Except InputError Bool :=
  Value.relate .atLeast (.int signatures.length) threshold

@[simp] theorem reachesGiven_int (signatures : List Signature) (threshold : Int) :
    reachesGiven signatures (.int threshold) = .ok (reaches signatures threshold) := by
  simp [reachesGiven, reaches, Relation.holds_atLeast_int]

/-- A way to find who made a signature with the given parity, `r` and `s` over a hash. -/
abbrev Recovery : Type := Nat → Word → Word → Word → Option Address

/-- The recovery on the curve. -/
def curveRecovery : Recovery := fun parity r s txHash =>
  (Curve.recover? parity r.toNat s.toNat txHash.toNat).map Curve.addressOf

/-- Who made a signature, if anybody can have. -/
def signerUnder (recovery : Recovery) (g : Signature) : Option Address :=
  recovery g.yParity g.r g.s g.txHash

/-- The signatures that the claimed signer did not make, or nobody. -/
def mismatchedUnder (recovery : Recovery) (signatures : List Signature) : List Signature :=
  signatures.filter fun g => signerUnder recovery g != some g.signer

/-- Who made a signature. -/
def recoverSigner (g : Signature) : Except InputError Address :=
  match signerUnder curveRecovery g with
  | some address => .ok address
  | none => .error .unrecoverable

/-- The signatures that the claimed signer did not make. -/
def mismatched (signatures : List Signature) : List Signature :=
  mismatchedUnder curveRecovery signatures

end MultisigQueue
