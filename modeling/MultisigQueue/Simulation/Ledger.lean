/-
Module: MultisigQueue.Simulation.Ledger
Purpose: An honest store: what has been filed, and how it is told.
Main exports:
  Filing, Ledger, Ledger.signatures, Ledger.transaction?, Ledger.file, Ledger.keep,
  Ledger.answerPage, Ledger.answerLookup, Ledger.answer, Ledger.contract
-/
import MultisigQueue.Store
import MultisigQueue.Transaction.Hash

namespace MultisigQueue

/-!
A ledger holds what signers filed, in the order of filing, and the first transaction that was kept
under each hash. It answers every page with the signatures that stand there and every lookup with
what is kept. A number that does not fit the type under which it is told makes the answer fail.
-/

/-- A signature filed by its signer for a Safe, a chain and a nonce. -/
structure Filing where
  signer : Address
  safe : Address
  chainId : Int
  nonce : Int
  signature : StoredSignature
deriving DecidableEq, Repr

/-- What an honest store holds. -/
structure Ledger where
  filings : List Filing := []
  transactions : List (Word × Transaction) := []
deriving DecidableEq, Repr

namespace Ledger

/-- The list of a signer for a Safe, a chain and a nonce. -/
def signatures (l : Ledger) (signer safe : Address) (chainId nonce : Int) : List StoredSignature :=
  (l.filings.filter fun f =>
    f.signer = signer ∧ f.safe = safe ∧ f.chainId = chainId ∧ f.nonce = nonce).map Filing.signature

/-- The transaction kept under a hash. -/
def transaction? (l : Ledger) (hash : Word) : Option Transaction :=
  (l.transactions.find? fun entry => entry.1 = hash).map Prod.snd

/-- The ledger with another filing. -/
def file (l : Ledger) (f : Filing) : Ledger := { l with filings := l.filings ++ [f] }

/-- The ledger with a transaction kept under a hash, unless one is already. -/
def keep (l : Ledger) (hash : Word) (t : Transaction) : Ledger :=
  if (l.transaction? hash).isSome then l
  else { l with transactions := l.transactions ++ [(hash, t)] }

/-- The ledger with a bound transaction kept under its hash. -/
def keepBound (l : Ledger) (t : BoundTransaction) : Except Fault Ledger := do
  return l.keep (← t.hash) t.toTransaction

/-- A piece of a list together with the length of the list, as return data. -/
def pageData (items : List StoredSignature) (start count : Nat) : Except AbiError Bytes :=
  Store.signaturesFunction.encodeOutput
    [.list (((items.drop start).take count).map fun g =>
        .list [.bytes g.r.bytes, .bytes g.vs.bytes, .bytes g.txHash.bytes]),
      .int items.length]

/-- What is kept under a hash, as return data. Nothing kept is a record of zeros. -/
def recordData (content : Option Transaction) : Except AbiError Bytes :=
  let t := content.getD { target := .zero }
  Store.transactionFunction.encodeOutput
    [.list
      [.bool content.isSome, .int t.operation.toNat, .bytes t.target.bytes, .int t.value,
        .int t.safeTxGas, .int t.baseGas, .int t.gasPrice, .bytes t.gasToken.bytes,
        .bytes t.refundReceiver.bytes, .bytes t.data]]

/-- What is asked for by a page request. -/
structure PageRequest where
  signer : Address
  safe : Address
  chainId : Nat
  nonce : Nat
  start : Nat
  count : Nat
deriving DecidableEq, Repr

/-- The page request that calldata holds. -/
def pageRequest (data : Bytes) : Except AbiError PageRequest := do
  let (signer, safe, chainId, nonce, start, count, _) ← Store.signaturesFunction.decodeInput data
  return { signer, safe, chainId := Fin.val chainId, nonce := Fin.val nonce, start := Fin.val start
           count := Fin.val count }

/-- The hash that calldata asks for. -/
def lookupRequest (data : Bytes) : Except AbiError Word := do
  let (hash, _) ← Store.transactionFunction.decodeInput data
  return hash

/-- The answer to a page request. -/
def answerPage (l : Ledger) (q : PageRequest) : Except AbiError Bytes :=
  pageData (l.signatures q.signer q.safe q.chainId q.nonce) q.start q.count

/-- The answer to a lookup. -/
def answerLookup (l : Ledger) (hash : Word) : Except AbiError Bytes :=
  recordData (l.transaction? hash)

/-- The answer to a call of the store, which knows two functions and reverts all others. -/
def answer (l : Ledger) (data : Bytes) : Except AbiError (Option Bytes) :=
  if data.take 4 = Store.signaturesFunction.selector then do
    return some (← l.answerPage (← pageRequest data))
  else if data.take 4 = Store.transactionFunction.selector then do
    return some (← l.answerLookup (← lookupRequest data))
  else return none

/-- A chain on which nothing but the store stands; every other address returns nothing. -/
def contract {σ : Type} (l : Ledger) (store : Address) : Batch.Contract σ := fun target data =>
  if target = store then (l.answer data : Except AbiError (Option Bytes)) else pure (some [])

end Ledger

end MultisigQueue
