/-
Module: MultisigQueue.Transaction.Hash
Purpose: The hash that owners sign, which identifies a bound transaction.
Main exports:
  BoundTransaction.hash, BoundTransaction.structHash, Account.domainSeparator,
  domainTypeHash, transactionTypeHash
-/
import MultisigQueue.Transaction

namespace MultisigQueue

/-!
The hash is the digest of the octets `19 01`, of the domain separator and of the struct hash. The
domain separator is the digest of three words (a type hash, the chain id and the Safe), the struct
hash that of eleven (a type hash and the fields in order, with the data replaced by its digest). A
number that does not fit in a word has no hash.
-/

/-- The digest of the type of a domain. -/
def domainTypeHash : Word := keccak256Text "EIP712Domain(uint256 chainId,address verifyingContract)"

/-- The digest of the type of a transaction. -/
def transactionTypeHash : Word :=
  keccak256Text ("SafeTx(address to,uint256 value,bytes data,uint8 operation,uint256 safeTxGas," ++
    "uint256 baseGas,uint256 gasPrice,address gasToken,address refundReceiver,uint256 nonce)")

/-- A number as a word, if it fits. -/
def quantityWord (n : Int) : Except Fault Word :=
  if 0 ≤ n ∧ n < 2 ^ (256 : Nat) then .ok (FixedBytes.ofNat 32 n.toNat) else .error .quantityRange

/-- An address as a word, with zeros in front. -/
def Address.word (a : Address) : Word := FixedBytes.ofNat 32 a.toNat

/-- The octets of a list of words. -/
def wordsBytes (words : List Word) : Bytes := words.flatMap FixedBytes.bytes

namespace Account

/-- What the domain separator is the digest of. -/
def domainEncoding (a : Account) : Except Fault Bytes := do
  let chainId ← quantityWord a.chainId
  return wordsBytes [domainTypeHash, chainId, a.address.word]

/-- The domain separator of an account. -/
def domainSeparator (a : Account) : Except Fault Word := do
  return keccak256 (← a.domainEncoding)

/-- The domain separator of an account given in parts; the chain id is read before the address. -/
def domainSeparatorOf (chainId address : Value) : Except Fault Word := do
  let chainId ← chainId.toInt
  let address ← address.toAddress
  domainSeparator ⟨address, chainId⟩

end Account

namespace BoundTransaction

/-- What the struct hash is the digest of. -/
def structEncoding (t : BoundTransaction) : Except Fault Bytes := do
  let value ← quantityWord t.value
  let safeTxGas ← quantityWord t.safeTxGas
  let baseGas ← quantityWord t.baseGas
  let gasPrice ← quantityWord t.gasPrice
  let nonce ← quantityWord t.nonce
  let operation := FixedBytes.ofNat 32 t.operation.toNat
  return wordsBytes [transactionTypeHash, t.target.word, value, keccak256 t.data, operation,
    safeTxGas, baseGas, gasPrice, t.gasToken.word, t.refundReceiver.word, nonce]

/-- The digest of a transaction's fields and nonce. -/
def structHash (t : BoundTransaction) : Except Fault Word := do
  return keccak256 (← t.structEncoding)

/-- What the hash is the digest of. -/
def hashEncoding (t : BoundTransaction) : Except Fault Bytes := do
  let domain ← t.account.domainSeparator
  let struct ← t.structHash
  return [0x19, 0x01] ++ domain.bytes ++ struct.bytes

/-- The hash that owners sign. -/
def hash (t : BoundTransaction) : Except Fault Word := do
  return keccak256 (← t.hashEncoding)

end BoundTransaction

end MultisigQueue
