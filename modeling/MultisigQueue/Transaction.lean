/-
Module: MultisigQueue.Transaction
Purpose: The transactions of a Safe, alone and bound to their Safe, chain and nonce.
Main exports:
  Operation, Transaction, BoundTransaction, Account, TransactionRequest,
  Transaction.ofRequest, BoundTransaction.ofRequest, BoundTransaction.build
-/
import MultisigQueue.Argument

namespace MultisigQueue

/-!
A `Transaction` is what a Safe executes; a `BoundTransaction` is what its owners sign. Quantities
are natural numbers. Both are built from a `TransactionRequest`, whose fields are loosely typed; the
fields are read in a fixed order, and the first that cannot be read is reported.
-/

/-- The two ways in which a Safe can call. -/
inductive Operation where
  | call
  | delegateCall
deriving DecidableEq, Repr

namespace Operation

/-- The number of an operation. -/
def toNat : Operation → Nat
  | call => 0
  | delegateCall => 1

/-- The name of an operation. -/
def name : Operation → String
  | call => "CALL"
  | delegateCall => "DELEGATECALL"

/-- The operation of a number. -/
def ofInt? (n : Int) : Option Operation :=
  if n = 0 then some call else if n = 1 then some delegateCall else none

/-- The operation of a number, or the reason why there is none. -/
def ofInt (n : Int) : Except InputError Operation :=
  match ofInt? n with
  | some operation => .ok operation
  | none => .error (.notOperation (.int n))

/-- The operation that equals a loosely typed value; texts are not read. -/
def ofValue (v : Value) : Except InputError Operation :=
  let number : Option Int :=
    match v with
    | .int n => some n
    | .bool b => some (if b then 1 else 0)
    | .real x => if Real.isWhole x then Real.toInt? x else none
    | _ => none
  match number.bind ofInt? with
  | some operation => .ok operation
  | none => .error (.notOperation v)

end Operation

/-- What a Safe executes. -/
structure Transaction where
  target : Address
  value : Nat := 0
  data : Bytes := []
  operation : Operation := .call
  safeTxGas : Nat := 0
  baseGas : Nat := 0
  gasPrice : Nat := 0
  gasToken : Address := .zero
  refundReceiver : Address := .zero
deriving DecidableEq, Repr

/-- A Safe on a chain. -/
structure Account where
  address : Address
  chainId : Int
deriving DecidableEq, Repr

/-- What the owners of a Safe sign: a transaction with its Safe, chain and nonce. -/
structure BoundTransaction extends Transaction where
  safe : Address := .zero
  chainId : Int := 0
  nonce : Nat := 0
deriving DecidableEq, Repr

/-- The loosely typed fields of a transaction. -/
structure TransactionRequest where
  target : Value
  value : Value := .int 0
  data : Value := .bytes []
  operation : Value := .int 0
  safeTxGas : Value := .int 0
  baseGas : Value := .int 0
  gasPrice : Value := .int 0
  gasToken : Value := .bytes Address.zero.bytes
  refundReceiver : Value := .bytes Address.zero.bytes
  safe : Value := .bytes Address.zero.bytes
  chainId : Value := .int 0
  nonce : Value := .int 0

/-- A quantity, which must not be negative. -/
def Value.toQuantity (name : String) (v : Value) : Except InputError Nat := do
  let n ← v.toInt
  if n < 0 then throw (.negative name)
  return n.toNat

/-- Reads an account. -/
def Account.ofValues (address chainId : Value) : Except InputError Account := do
  let address ← address.toAddress
  let chainId ← chainId.toInt
  return { address, chainId }

namespace Transaction

/-- Reads the fields of a transaction: addresses and data first, then the quantities. -/
def ofRequest (q : TransactionRequest) : Except InputError Transaction := do
  let target ← q.target.toAddress
  let data ← q.data.toBytes
  let operation ← Operation.ofInt (← q.operation.toInt)
  let gasToken ← q.gasToken.toAddress
  let refundReceiver ← q.refundReceiver.toAddress
  let value ← q.value.toQuantity "value"
  let safeTxGas ← q.safeTxGas.toQuantity "safe_tx_gas"
  let baseGas ← q.baseGas.toQuantity "base_gas"
  let gasPrice ← q.gasPrice.toQuantity "gas_price"
  return { target, value, data, operation, safeTxGas, baseGas, gasPrice, gasToken, refundReceiver }

end Transaction

namespace BoundTransaction

/-- The account that a transaction belongs to. -/
def account (t : BoundTransaction) : Account := ⟨t.safe, t.chainId⟩

/-- Reads the fields of a bound transaction: those of the transaction, then what binds it. -/
def ofRequest (q : TransactionRequest) : Except InputError BoundTransaction := do
  let transaction ← Transaction.ofRequest q
  let safe ← q.safe.toAddress
  let chainId ← q.chainId.toInt
  let nonce ← q.nonce.toQuantity "nonce"
  return { transaction with safe, chainId, nonce }

/-- Reads the fields of a bound transaction, with the data and the operation before all others; the
operation must be given as a number. -/
def build (q : TransactionRequest) : Except InputError BoundTransaction := do
  let data ← q.data.toBytes
  let operation ← Operation.ofValue q.operation
  ofRequest { q with data := .bytes data, operation := .int operation.toNat }

end BoundTransaction

end MultisigQueue
