/-
Module: MultisigQueue.Document
Purpose: Results as documents, the shape in which they are shown.
Main exports:
  Signature.document, Transaction.document, BoundTransaction.document, Resolution.document,
  Candidate.document, Contenders.document, Configuration.document, Settings.document
-/
import MultisigQueue.Queue.Tally
import MultisigQueue.Safe
import MultisigQueue.Settings

namespace MultisigQueue

/-!
Octets are shown in hexadecimal and addresses with their checksum. Quantities and nonces, which may
be larger than what a reader of documents takes for a number, are shown as decimal text.
-/

/-- A quantity as a document. -/
def quantityDocument (n : Int) : Value := .text (Numeral.decimal n)

/-- Octets as a document. -/
def bytesDocument (b : Bytes) : Value := .text (Hex.ofBytes b)

/-- An address as a document. -/
def Address.document (a : Address) : Value := .text a.checksummed

/-- A signature as a document. -/
def Signature.document (g : Signature) : Value :=
  .object
    [("r", bytesDocument g.r.bytes), ("vs", bytesDocument g.vs.bytes),
     ("txHash", bytesDocument g.txHash.bytes), ("signer", g.signer.document)]

namespace Transaction

/-- The fields of a transaction's document. -/
def fields (t : Transaction) : List (String × Value) :=
  [("to", t.target.document), ("value", quantityDocument t.value), ("data", bytesDocument t.data),
   ("operation", .int t.operation.toNat), ("safeTxGas", quantityDocument t.safeTxGas),
   ("baseGas", quantityDocument t.baseGas), ("gasPrice", quantityDocument t.gasPrice),
   ("gasToken", t.gasToken.document), ("refundReceiver", t.refundReceiver.document)]

/-- A transaction as a document. -/
def document (t : Transaction) : Value := .object t.fields

end Transaction

/-- A bound transaction as a document. -/
def BoundTransaction.document (t : BoundTransaction) : Value :=
  .object
    (t.fields ++
      [("safeAddress", t.safe.document), ("chainId", .int t.chainId),
       ("nonce", quantityDocument t.nonce)])

/-- What is held under a hash as a document. -/
def Resolution.document (r : Resolution) : Value :=
  .object
    ([("safeTxHash", bytesDocument r.hash.bytes), ("stored", .bool r.stored)] ++
      match r.transaction with
      | some t => t.fields
      | none => [])

/-- A candidate as a document. -/
def Candidate.document (c : Candidate) : Value :=
  .object
    [("safeTxHash", bytesDocument c.hash.bytes), ("nonce", quantityDocument c.nonce),
     ("details", c.transaction.document),
     ("signatures", .list (c.signatures.map Signature.document))]

/-- The candidates for a nonce as a document. -/
def Contenders.document (g : Contenders) : Value :=
  .object
    [("nonce", quantityDocument g.nonce),
     ("transactions", .list (g.entries.map Candidate.document))]

/-- A configuration as a document. -/
def Configuration.document (c : Configuration) : Value :=
  .object
    [("owners", .list (c.owners.map Address.document)), ("threshold", .int c.threshold),
     ("nonce", quantityDocument c.nonce), ("fallbackHandler", c.fallbackHandler.document),
     ("guard", c.guard.document), ("singleton", c.singleton.document),
     ("modules", .list (c.modules.map Address.document))]

/-- Settings as a document. -/
def Settings.document (s : Settings) : Value :=
  .object (Settings.Field.all.map fun f => (f.name, s.value f))

end MultisigQueue
