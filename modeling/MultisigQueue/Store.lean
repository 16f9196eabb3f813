/-
Module: MultisigQueue.Store
Purpose: The contract that keeps signatures and transactions, and how it is read.
Main exports:
  StoredSignature, Page, Resolution, Store.pageCall, Store.decodePage, Store.lookupCall,
  Store.decodeTransaction, Store.decodeSignaturesGiven, Store.decodeLookupGiven
-/
import MultisigQueue.Batch
import MultisigQueue.Signature
import MultisigQueue.Transaction

namespace MultisigQueue

/-!
The store keeps one list of signatures for every signer, Safe, chain and nonce, to which it only
ever appends, and one transaction for a hash. A list is read in pages: a page is a piece of the list
together with the length of the whole list. Nothing in a page says who signed; the signatures are
ascribed to the owner whose list was asked for.
-/

/-- A signature as the store keeps it. -/
structure StoredSignature where
  r : Word
  vs : Word
  txHash : Word
deriving DecidableEq, Repr

/-- A stored signature with the owner in whose list it stands. -/
def StoredSignature.by (g : StoredSignature) (signer : Address) : Signature :=
  { r := g.r, vs := g.vs, txHash := g.txHash, signer }

/-- A piece of a list of signatures, and the length of the list. -/
structure Page where
  items : List StoredSignature
  total : Nat
deriving DecidableEq, Repr

/-- The signatures of a page, ascribed to a signer. -/
def Page.signatures (p : Page) (signer : Address) : List Signature :=
  p.items.map fun g => g.by signer

/-- The signatures of a page, ascribed to a signer who has to be read if there are any. -/
def Page.signaturesGiven (p : Page) (signer : Value) : Except InputError (List Signature) :=
  p.items.mapM fun g => do return g.by (← signer.toAddress)

/-- What the store holds under a hash. -/
structure Resolution where
  hash : Word
  stored : Bool
  transaction : Option Transaction := none
deriving DecidableEq, Repr

namespace Resolution

/-- Nothing is held under the hash. -/
def unstored (hash : Word) : Resolution := { hash, stored := false }

/-- The transaction that is held under the hash, if there is one. -/
def content? (r : Resolution) : Option Transaction := if r.stored then r.transaction else none

/-- The resolution of a hash under which this is held. -/
def ofContent (hash : Word) : Option Transaction → Resolution
  | some transaction => { hash, stored := true, transaction := some transaction }
  | none => unstored hash

end Resolution

namespace Store

/-- The address at which the store stands unless told otherwise. -/
def defaultAddress : Address := .ofNat 0x5e669c1f2f9629b22dd05fbff63313a49f87d4e6

/-- The type of a signature in a page. -/
def signatureType : AbiType := .tuple [.bytes32, .bytes32, .bytes32]

/-- The type of what is held under a hash. -/
def recordType : AbiType :=
  .tuple [.bool, .uint 8, .address, .uint 128, .uint 128, .uint 128, .uint 128, .address, .address,
    .bytes]

/-- The function that reads a page. -/
def signaturesFunction : AbiFunction where
  name := "retrieveSignatures"
  inputs := [.address, .address, .uint 256, .uint 256, .uint 256, .uint 256]
  outputs := [.array signatureType, .uint 256]

/-- The function that looks a hash up. -/
def transactionFunction : AbiFunction where
  name := "retrieveTransaction"
  inputs := [.bytes32]
  outputs := [recordType]

/-- A call that asks for up to `count` signatures of a list from place `start` on. -/
def pageCall (store signer safe : Address) (chainId nonce start count : Int) :
    Except AbiError Call := do
  let data ← signaturesFunction.encode
    [.bytes signer.bytes, .bytes safe.bytes, .int chainId, .int nonce, .int start, .int count]
  return { target := store, data }

/-- A call for a page with loosely typed arguments, read from left to right. -/
def pageCallOf (store : Address) (signer safe chainId nonce start count : Value) :
    Except Fault Call := do
  let signer ← signer.toAddress
  let safe ← safe.toAddress
  let chainId ← chainId.toInt
  let nonce ← nonce.toInt
  let start ← start.toInt
  let count ← count.toInt
  pageCall store signer safe chainId nonce start count

/-- The signature that a value of its type stands for. -/
def signatureOfValue : signatureType.Val → StoredSignature
  | (r, vs, txHash, _) => { r, vs, txHash }

/-- A signature as a value of its type. -/
def signatureValue (g : StoredSignature) : signatureType.Val := (g.r, g.vs, g.txHash, ())

/-- The page that the results of a request for it make up. -/
def pageOfValues (values : AbiType.Vals signaturesFunction.outputs) : Page where
  items := List.map signatureOfValue values.1
  total := Fin.val values.2.1

/-- The page that return data holds. -/
def decodePage (data : Bytes) : Except AbiError Page := do
  return pageOfValues (← signaturesFunction.decode data)

/-- The page that loosely typed return data holds. -/
def decodePageGiven (data : Value) : Except AbiError Page := do
  return pageOfValues (← signaturesFunction.decodeGiven data)

/-- The signatures of a page, ascribed to a signer, and the length of the whole list. -/
def decodeSignatures (data : Bytes) (signer : Address) :
    Except AbiError (List Signature × Nat) := do
  let page ← decodePage data
  return (page.signatures signer, page.total)

/-- The signatures in loosely typed return data, ascribed to a signer, and the length of the list.
-/
def decodeSignaturesGiven (data signer : Value) : Except Fault (List Signature × Nat) := do
  let page ← decodePageGiven data
  return (← page.signaturesGiven signer, page.total)

/-- A call that looks a hash up. -/
def lookupCall (store : Address) (hash : Word) : Call :=
  { target := store, data := transactionFunction.calldata (hash, ()) }

/-- The transaction in a record, unless the record says that there is none. -/
def contentOfValue : recordType.Val → Except InputError (Option Transaction)
  | (false, _) => .ok none
  | (true, operation, target, value, safeTxGas, baseGas, gasPrice, gasToken, refundReceiver,
      data, _) => do
    let operation ← Operation.ofInt (Fin.val operation)
    return some
      { target, value := Fin.val value, data, operation, safeTxGas := Fin.val safeTxGas
        baseGas := Fin.val baseGas, gasPrice := Fin.val gasPrice, gasToken, refundReceiver }

/-- The transaction that return data holds, if it holds one. -/
def decodeTransaction (data : Bytes) : Except Fault (Option Transaction) := do
  let values ← transactionFunction.decode data
  contentOfValue values.1

/-- What return data says about a hash. -/
def decodeLookup (hash : Word) (data : Bytes) : Except Fault Resolution := do
  return Resolution.ofContent hash (← decodeTransaction data)

/-- What loosely typed return data says about a hash, which is read after the data. -/
def decodeLookupGiven (hash data : Value) : Except Fault Resolution := do
  let values ← transactionFunction.decodeGiven data
  let content ← contentOfValue values.1
  return Resolution.ofContent (← hash.toWord) content

end Store

end MultisigQueue
