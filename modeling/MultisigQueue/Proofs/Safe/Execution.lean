/-
Module: MultisigQueue.Proofs.Safe.Execution
Purpose: The calldata of an execution holds the transaction that was signed.
Main exports:
  Safe.executionValues, Safe.executedRequest?, Safe.Executes, Safe.executionData_eq,
  Safe.executes_calldata, Safe.executionData_executes
-/
import MultisigQueue.Proofs.Abi.Acceptance
import MultisigQueue.Proofs.Queue.Executable
import MultisigQueue.Proofs.Transaction.Request
import MultisigQueue.Safe

namespace MultisigQueue

/-!
An execution has ten arguments: nine that make up the transaction, in the order in which it is
hashed, and the authorization. They are read back in their normal forms. Together with the Safe, the
chain and the nonce these make a request for the transaction that the owners have signed, so nothing
else can be executed in its name.
-/

/-- Whether all numbers of a transaction fit into words. -/
structure Transaction.Fits (t : Transaction) : Prop where
  value : t.value < 2 ^ (256 : Nat)
  safeTxGas : t.safeTxGas < 2 ^ (256 : Nat)
  baseGas : t.baseGas < 2 ^ (256 : Nat)
  gasPrice : t.gasPrice < 2 ^ (256 : Nat)

namespace Safe

open Abi AbiType

/-- An operation as a value of its type. -/
def operationValue (operation : Operation) : Fin (2 ^ (8 : Nat)) :=
  ⟨operation.toNat, Store.operation_lt operation⟩

/-- The arguments of an execution as values of their types. -/
def executionValues (t : Transaction) (fits : t.Fits) (octets : Bytes) :
    Vals executeFunction.inputs :=
  (t.target, ⟨t.value, fits.value⟩, t.data, operationValue t.operation,
    ⟨t.safeTxGas, fits.safeTxGas⟩, ⟨t.baseGas, fits.baseGas⟩, ⟨t.gasPrice, fits.gasPrice⟩,
    t.gasToken, t.refundReceiver, octets, ())

/-- The request that the first nine arguments of an execution make for a Safe, a chain and a nonce.
-/
def executedRequest? (arguments : List Value) (account : Account) (nonce : Nat) :
    Option TransactionRequest :=
  match arguments with
  | [target, value, data, operation, safeTxGas, baseGas, gasPrice, gasToken, refundReceiver, _] =>
    some { target, value, data, operation, safeTxGas, baseGas, gasPrice, gasToken, refundReceiver,
           safe := .bytes account.address.bytes, chainId := .int account.chainId,
           nonce := .int nonce }
  | _ => none

/-- Whether some calldata executes a transaction under an authorization: what is read from it makes
a request for the transaction, and its last argument is the authorization. -/
def Executes (data : Bytes) (t : BoundTransaction) (octets : Bytes) : Prop :=
  ∃ values request, executeFunction.decodeInput data = .ok values ∧
    executedRequest? (presentAll executeFunction.inputs values) t.account t.nonce = some request ∧
      BoundTransaction.ofRequest request = .ok t ∧
        (presentAll executeFunction.inputs values)[9]? = some (.bytes octets)

variable {t : Transaction} {octets : Bytes}

theorem acceptAll?_execution (fits : t.Fits) :
    acceptAll? .checked executeFunction.inputs
      [.bytes t.target.bytes, .int t.value, .bytes t.data, .int t.operation.toNat,
        .int t.safeTxGas, .int t.baseGas, .int t.gasPrice, .bytes t.gasToken.bytes,
        .bytes t.refundReceiver.bytes, .bytes octets] = some (executionValues t fits octets) := by
  apply acceptAll?_cons (accept?_address t.target)
  apply acceptAll?_cons (accept?_uint ⟨t.value, fits.value⟩)
  apply acceptAll?_cons (accept?_bytes t.data)
  apply acceptAll?_cons (accept?_uint (operationValue t.operation))
  apply acceptAll?_cons (accept?_uint ⟨t.safeTxGas, fits.safeTxGas⟩)
  apply acceptAll?_cons (accept?_uint ⟨t.baseGas, fits.baseGas⟩)
  apply acceptAll?_cons (accept?_uint ⟨t.gasPrice, fits.gasPrice⟩)
  apply acceptAll?_cons (accept?_address t.gasToken)
  apply acceptAll?_cons (accept?_address t.refundReceiver)
  apply acceptAll?_cons (accept?_bytes octets)
  exact acceptAll?_nil

theorem executionData_eq (fits : t.Fits) :
    executionData t octets = .ok (executeFunction.calldata (executionValues t fits octets)) := by
  rw [executionData, AbiFunction.encode_eq_ok_iff]
  exact ⟨rfl, executionValues t fits octets, acceptAll?_execution fits, rfl⟩

/-- Behind ten words stand the data and the authorization, with their lengths and filled up. -/
theorem length_execution_le (fits : t.Fits) (octets : Bytes) :
    (encodeAll executeFunction.inputs (executionValues t fits octets)).length ≤
      446 + t.data.length + octets.length := by
  have filling := Bytes.padding_lt t.data.length
  have filling' := Bytes.padding_lt octets.length
  have behind : tails (pieces executeFunction.inputs (executionValues t fits octets)) =
      lengthMarked t.data ++ lengthMarked octets := by
    simp [executeFunction, executionValues, pieces, piece, isDynamic, tails, Piece.tail,
      AbiType.encode]
  have head : frameWords executeFunction.inputs = 10 := rfl
  rw [length_encodeAll, behind, head, List.length_append, length_lengthMarked, length_lengthMarked]
  omega

/-- The arguments of an execution as they are shown. -/
theorem presentAll_execution (fits : t.Fits) :
    presentAll executeFunction.inputs (executionValues t fits octets) =
      [.text t.target.lowercase, .int t.value, .bytes t.data, .int t.operation.toNat,
        .int t.safeTxGas, .int t.baseGas, .int t.gasPrice, .text t.gasToken.lowercase,
        .text t.refundReceiver.lowercase, .bytes octets] := rfl

/-- The calldata that is made for a transaction executes it. -/
theorem executes_calldata {t : BoundTransaction} (fits : t.Fits) {octets : Bytes}
    (short : t.data.length + octets.length < 2 ^ (255 : Nat)) :
    Executes (executeFunction.calldata (executionValues t.toTransaction fits octets)) t octets := by
  have inWords : (encodeAll executeFunction.inputs
      (executionValues t.toTransaction fits octets)).length < 2 ^ (256 : Nat) := by
    have bound := length_execution_le fits octets
    omega
  have read := AbiFunction.decodeInput_calldata (f := executeFunction) rfl inWords
  refine ⟨_, _, read, by rw [presentAll_execution]; rfl, ?_, by rw [presentAll_execution]; rfl⟩
  rw [BoundTransaction.ofRequest_eq_ok_iff]
  constructor
  · change Operation.ofInt (t.operation.toNat : Int) = .ok t.operation
    cases t.operation <;> rfl
  · exact
      { target := Value.toAddress_lowercase t.target
        value := rfl
        data := rfl
        safeTxGas := rfl
        baseGas := rfl
        gasPrice := rfl
        gasToken := Value.toAddress_lowercase t.gasToken
        refundReceiver := Value.toAddress_lowercase t.refundReceiver
        safe := Value.toAddress_eq_ok_iff.2 .octets
        chainId := rfl
        nonce := rfl }

/-- There is an authorization of any signatures, with 65 octets for each. -/
theorem exists_authorization {signatures : List Signature} (some : signatures ≠ []) :
    ∃ octets, authorization signatures = .ok octets ∧ octets.length = 65 * signatures.length := by
  refine ⟨_, if_neg (by simpa using some), ?_⟩
  rw [Signature.length_flatMap_full, sortBySigner, List.length_mergeSort]

/-- The calldata for a transaction executes exactly this transaction, under the octets that are
given or that the given signatures make up, and it does not matter which of them are given. So the
hash of what is executed is the one that was signed, which exists if all numbers fit into words. No
string of octets is as long as the bound, beyond which distances would not fit into words. -/
theorem executionData_executes {t : BoundTransaction} (fits : t.Fits) :
    (∀ octets : Bytes, t.data.length + octets.length < 2 ^ (255 : Nat) →
      ∃ data, executionData t.toTransaction octets = .ok data ∧
        executionDataGiven t.toTransaction (.bytes octets) = .ok data ∧ Executes data t octets) ∧
    (∀ signatures : List Signature, signatures ≠ [] →
      t.data.length + 65 * signatures.length < 2 ^ (255 : Nat) →
        ∃ octets data, authorization signatures = .ok octets ∧
          executionDataSigned t.toTransaction signatures = .ok data ∧
            executionData t.toTransaction octets = .ok data ∧ Executes data t octets) ∧
    (0 ≤ t.chainId → t.chainId < 2 ^ (256 : Nat) → t.nonce < 2 ^ (256 : Nat) →
      ∃ hash, t.hash = .ok hash) := by
  refine ⟨?given, ?signed, ?hashed⟩
  case given =>
    intro octets short
    refine ⟨_, executionData_eq fits, ?_, executes_calldata fits short⟩
    simp only [executionDataGiven, executionData_eq fits]
    rfl
  case signed =>
    intro signatures some short
    rcases exists_authorization some with ⟨octets, joined, length⟩
    rw [← length] at short
    refine ⟨octets, _, joined, ?_, executionData_eq fits, executes_calldata fits short⟩
    rw [executionDataSigned, joined]
    exact executionData_eq fits
  case hashed =>
    intro least most nonce
    exact BoundTransaction.exists_hash fits.value fits.safeTxGas fits.baseGas fits.gasPrice
      ⟨least, most⟩ nonce

theorem fits_sampleBuilt : BoundTransaction.sampleBuilt.Fits where
  value := by decide
  safeTxGas := by decide
  baseGas := by decide
  gasPrice := by decide

/-- Two signatures with the later signer in front. -/
def sampleSignatures : List Signature :=
  [⟨.ofNat 32 3, .ofNat 32 4, .ofNat 32 9, .ofNat 8⟩,
    ⟨.ofNat 32 5, .ofNat 32 6, .ofNat 32 9, .ofNat 7⟩]

/-- The sample transaction is executed under three octets as it is under two signatures. -/
theorem executionData_executes_sample :
    (∃ data, executionData BoundTransaction.sampleBuilt.toTransaction [1, 2, 3] = .ok data ∧
      Executes data BoundTransaction.sampleBuilt [1, 2, 3]) ∧
    (∃ octets data, authorization sampleSignatures = .ok octets ∧
      executionDataSigned BoundTransaction.sampleBuilt.toTransaction sampleSignatures = .ok data ∧
        Executes data BoundTransaction.sampleBuilt octets) ∧
    ∃ hash, BoundTransaction.sampleBuilt.hash = .ok hash := by
  rcases executionData_executes fits_sampleBuilt with ⟨given, signed, hashed⟩
  rcases given [1, 2, 3] (by decide) with ⟨data, made, -, executes⟩
  rcases signed sampleSignatures (List.cons_ne_nil _ _) (by decide) with
    ⟨octets, other, joined, signedData, -, alsoExecutes⟩
  exact ⟨⟨data, made, executes⟩, ⟨octets, other, joined, signedData, alsoExecutes⟩,
    hashed (by decide) (by decide) (by decide)⟩

end Safe

end MultisigQueue
