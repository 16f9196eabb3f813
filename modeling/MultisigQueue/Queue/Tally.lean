/-
Module: MultisigQueue.Queue.Tally
Purpose: Signatures sorted into candidates, of which each signer supports every one at most once.
Main exports:
  Tally, Tally.add, Tally.offer, Tally.addAll, Tally.size, Tally.identities, Candidate, Contenders,
  Tally.build
-/
import MultisigQueue.Quorum
import MultisigQueue.Store

namespace MultisigQueue

/-!
A tally keeps what it was given, less every signature whose signer already supports the same hash at
the same nonce: of two such signatures the earlier one stays. Joined with what is stored under the
hashes it gives the queue, in which nonces, hashes and signers ascend.
-/

/-- Signatures in the order in which they came, each with the nonce for which it was found. -/
structure Tally where
  kept : List (Int × Signature) := []
deriving DecidableEq, Repr

/-- A transaction that may be executed next, with the signatures for it. -/
structure Candidate where
  hash : Word
  nonce : Int
  transaction : Transaction
  signatures : List Signature
deriving DecidableEq, Repr

/-- The candidates for one nonce. -/
structure Contenders where
  nonce : Int
  entries : List Candidate
deriving DecidableEq, Repr

namespace Tally

/-- Nothing has come yet. -/
def empty : Tally := {}

/-- Whether the signer of a signature already supports its hash at a nonce. -/
def holds (t : Tally) (nonce : Int) (g : Signature) : Bool :=
  t.kept.any fun (n, h) => n = nonce ∧ h.txHash = g.txHash ∧ h.signer = g.signer

/-- Adds a signature, unless its signer already supports its hash at the nonce. -/
def add (t : Tally) (nonce : Int) (g : Signature) : Tally :=
  if t.holds nonce g then t else ⟨t.kept ++ [(nonce, g)]⟩

/-- Adds a signature, and tells whether it is new. -/
def offer (t : Tally) (nonce : Int) (g : Signature) : Bool × Tally :=
  (!t.holds nonce g, t.add nonce g)

/-- Adds several signatures for one nonce. -/
def addAll (t : Tally) (nonce : Int) (signatures : List Signature) : Tally :=
  signatures.foldl (fun t g => t.add nonce g) t

/-- The nonce and the hash of each signature. -/
def identity (entry : Int × Signature) : Int × Word := (entry.1, entry.2.txHash)

/-- The distinct pairs of a nonce and a hash. -/
def pairs (t : Tally) : List (Int × Word) := (t.kept.map identity).eraseDups

/-- The number of distinct pairs of a nonce and a hash. -/
def size (t : Tally) : Nat := t.pairs.length

/-- The distinct hashes in ascending order. -/
def identities (t : Tally) : List Word :=
  (t.kept.map fun entry => entry.2.txHash).eraseDups.mergeSort fun a b => a.toNat ≤ b.toNat

/-- The distinct hashes for a nonce in ascending order. -/
def hashesAt (t : Tally) (nonce : Int) : List Word :=
  ((t.kept.filter fun entry => entry.1 = nonce).map fun entry => entry.2.txHash).eraseDups.mergeSort
    fun a b => a.toNat ≤ b.toNat

/-- The distinct nonces in ascending order. -/
def nonces (t : Tally) : List Int :=
  (t.kept.map Prod.fst).eraseDups.mergeSort fun a b => a ≤ b

/-- The signatures for a hash at a nonce, in the order of their signers. -/
def signatures (t : Tally) (nonce : Int) (hash : Word) : List Signature :=
  sortBySigner ((t.kept.filter fun entry => identity entry = (nonce, hash)).map Prod.snd)

/-- The candidate of a hash at a nonce, if a transaction is stored under the hash. -/
def candidate? (t : Tally) (records : Word → Option Resolution) (nonce : Int) (hash : Word) :
    Option Candidate := do
  let resolution ← records hash
  let transaction ← resolution.content?
  return { hash, nonce, transaction, signatures := t.signatures nonce hash }

/-- The candidates for a nonce, if there are any. -/
def contenders? (t : Tally) (records : Word → Option Resolution) (nonce : Int) :
    Option Contenders :=
  let entries := (t.hashesAt nonce).filterMap (t.candidate? records nonce)
  if entries.isEmpty then none else some { nonce, entries }

/-- The queue: for each nonce in ascending order the candidates in ascending order of their hashes.
-/
def build (t : Tally) (records : Word → Option Resolution) : List Contenders :=
  t.nonces.filterMap (t.contenders? records)

end Tally

end MultisigQueue
