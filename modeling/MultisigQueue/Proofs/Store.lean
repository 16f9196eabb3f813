/-
Module: MultisigQueue.Proofs.Store
Purpose: What an honest store answers is what a reader of the store reads.
Main exports:
  Store.pageCall_eq, Store.decodePage_pageReturn, Store.decodeLookup_recordReturn,
  Ledger.pageRequest_pageCalldata, Ledger.pageData_eq, Ledger.exists_recordData
-/
import MultisigQueue.Proofs.Abi.Acceptance
import MultisigQueue.Proofs.Batch
import MultisigQueue.Simulation.Ledger

namespace MultisigQueue

/-!
The two sides of the store meet at calldata and return data. A page of a list comes back with the
signatures that stand at its place and the length of the list, and a record with the transaction
that it was made of, provided that every number in it fits its type.
-/

/-- A number that fits into a word. -/
abbrev Uint256 : Type := Fin (2 ^ (256 : Nat))

theorem Uint256.exists_val_eq {n : Int} (fits : 0 ≤ n ∧ n < 2 ^ (256 : Nat)) :
    ∃ word : Uint256, (word.val : Int) = n := by
  have small : n.toNat < 2 ^ (256 : Nat) := by omega
  exact ⟨⟨n.toNat, small⟩, Int.toNat_of_nonneg fits.1⟩

theorem Uint256.val_mem {word : Uint256} {n : Int} (isWord : (word.val : Int) = n) :
    0 ≤ n ∧ n < 2 ^ (256 : Nat) := by
  have below := word.isLt
  omega

namespace Store

open AbiType Abi

/-- The calldata of a request for a page. -/
def pageCalldata (signer safe : Address) (chainId nonce start count : Uint256) : Bytes :=
  signaturesFunction.calldata (signer, safe, chainId, nonce, start, count, ())

theorem pageCall_eq (store signer safe : Address) (chainId nonce start count : Uint256) :
    pageCall store signer safe chainId.val nonce.val start.val count.val =
      .ok { target := store, data := pageCalldata signer safe chainId nonce start count } := by
  have accepted : signaturesFunction.encode
      [.bytes signer.bytes, .bytes safe.bytes, .int chainId.val, .int nonce.val, .int start.val,
        .int count.val] = .ok (pageCalldata signer safe chainId nonce start count) :=
    AbiFunction.encode_eq_ok_iff.2 ⟨rfl, _,
      acceptAll?_cons (accept?_address signer) <| acceptAll?_cons (accept?_address safe) <|
      acceptAll?_cons (accept?_uint chainId) <| acceptAll?_cons (accept?_uint nonce) <|
      acceptAll?_cons (accept?_uint start) <| acceptAll?_cons (accept?_uint count) rfl, rfl⟩
  rw [pageCall, accepted]
  rfl

/-- A page can be asked for exactly if all numbers of the request fit into words. -/
theorem pageCall_eq_ok_iff {store signer safe : Address} {chainId nonce start count : Int}
    {call : Call} :
    pageCall store signer safe chainId nonce start count = .ok call ↔
      ∃ chainWord nonceWord startWord countWord : Uint256,
        (chainWord.val : Int) = chainId ∧ (nonceWord.val : Int) = nonce ∧
          (startWord.val : Int) = start ∧ (countWord.val : Int) = count ∧
            call = ⟨store, pageCalldata signer safe chainWord nonceWord startWord countWord,
              true⟩ := by
  constructor
  · intro called
    obtain ⟨data, encoded, -⟩ := bind_eq_ok_iff.1 called
    obtain ⟨-, values, accepted, -⟩ := AbiFunction.encode_eq_ok_iff.1 encoded
    have shown := presentAll_of_acceptAll? _ _ values accepted
    obtain ⟨_, _, chainWord, nonceWord, startWord, countWord, _⟩ := values
    simp only [signaturesFunction, presentAll, present, normalAll, normal, List.cons.injEq,
      Value.int.injEq] at shown
    obtain ⟨-, -, rfl, rfl, rfl, rfl, -⟩ := shown
    have made := pageCall_eq store signer safe chainWord nonceWord startWord countWord
    exact ⟨chainWord, nonceWord, startWord, countWord, rfl, rfl, rfl, rfl,
      Except.ok.inj (called.symm.trans made)⟩
  · rintro ⟨chainWord, nonceWord, startWord, countWord, rfl, rfl, rfl, rfl, rfl⟩
    exact pageCall_eq ..

theorem length_pageCalldata (signer safe : Address) (chainId nonce start count : Uint256) :
    (pageCalldata signer safe chainId nonce start count).length = 196 :=
  AbiFunction.length_calldata_static rfl _

theorem length_lookupCall (store : Address) (hash : Word) :
    (lookupCall store hash).data.length = 36 :=
  AbiFunction.length_calldata_static rfl _

theorem take_pageCalldata (signer safe : Address) (chainId nonce start count : Uint256) :
    (pageCalldata signer safe chainId nonce start count).take 4 = signaturesFunction.selector :=
  AbiFunction.take_calldata _ _

theorem take_lookupCall (store : Address) (hash : Word) :
    (lookupCall store hash).data.take 4 = transactionFunction.selector :=
  AbiFunction.take_calldata _ _

/-- A list of signatures with the length of a list as return data. -/
def pageReturn (items : List StoredSignature) (total : Uint256) : Bytes :=
  encodeAll signaturesFunction.outputs (items.map signatureValue, total, ())

theorem length_pageReturn (items : List StoredSignature) (total : Uint256) :
    (pageReturn items total).length = 96 + 96 * items.length := by
  have frame := length_encodeAll signaturesFunction.outputs (items.map signatureValue, total, ())
  have fixed : signatureType.isDynamic = false := rfl
  have list := length_encode_array_static fixed (items.map signatureValue)
  have tail : tails (pieces signaturesFunction.outputs (items.map signatureValue, total, ())) =
      encode (.array signatureType) (items.map signatureValue) := by
    simp [signaturesFunction, pieces, piece, isDynamic, tails, Piece.tail]
  have behind := congrArg List.length tail
  have head : frameWords signaturesFunction.outputs = 2 := rfl
  have width : headWords signatureType = 3 := rfl
  rw [List.length_map, width] at list
  simp only [pageReturn]
  omega

theorem pageReturn_ne_nil (items : List StoredSignature) (total : Uint256) :
    pageReturn items total ≠ [] := by
  rw [← List.length_pos_iff, length_pageReturn]
  omega

/-- A page is read as it was written. -/
theorem decodePage_pageReturn {items : List StoredSignature} {total : Uint256}
    (short : 96 + 96 * items.length < 2 ^ (256 : Nat)) :
    decodePage (pageReturn items total) = .ok ⟨items, total.val⟩ := by
  have read : signaturesFunction.decode (pageReturn items total) =
      .ok (items.map signatureValue, total, ()) := by
    refine AbiFunction.decode_encodeAll rfl ?_
    rw [← length_pageReturn items total] at short
    exact short
  have same : (items.map signatureValue).map signatureOfValue = items := by
    rw [List.map_map]
    exact List.map_id items
  rw [decodePage, read]
  exact congrArg (fun found => Except.ok (Page.mk found total.val)) same

end Store

/-- Whether every number of a transaction fits the type under which the store tells it. -/
structure Transaction.Tellable (t : Transaction) : Prop where
  value : t.value < 2 ^ (128 : Nat)
  safeTxGas : t.safeTxGas < 2 ^ (128 : Nat)
  baseGas : t.baseGas < 2 ^ (128 : Nat)
  gasPrice : t.gasPrice < 2 ^ (128 : Nat)

namespace Store

open AbiType Abi

theorem operation_lt (operation : Operation) : operation.toNat < 2 ^ (8 : Nat) := by
  cases operation <;> decide

/-- A record of a transaction, or of the lack of one, as a value of its type. -/
def recordValue (stored : Bool) (t : Transaction) (tellable : t.Tellable) : recordType.Val :=
  (stored, ⟨t.operation.toNat, operation_lt t.operation⟩, t.target, ⟨t.value, tellable.value⟩,
    ⟨t.safeTxGas, tellable.safeTxGas⟩, ⟨t.baseGas, tellable.baseGas⟩,
    ⟨t.gasPrice, tellable.gasPrice⟩, t.gasToken, t.refundReceiver, t.data, ())

/-- A record as return data. -/
def recordReturn (stored : Bool) (t : Transaction) (tellable : t.Tellable) : Bytes :=
  encodeAll transactionFunction.outputs (recordValue stored t tellable, ())

theorem length_recordReturn_le (stored : Bool) (t : Transaction) (tellable : t.Tellable) :
    (recordReturn stored t tellable).length ≤ 415 + t.data.length := by
  have filling := Bytes.padding_lt t.data.length
  have frame := length_encodeAll transactionFunction.outputs (recordValue stored t tellable, ())
  have tail : tails (pieces transactionFunction.outputs (recordValue stored t tellable, ())) =
      encode recordType (recordValue stored t tellable) := by
    simp [transactionFunction, recordType, pieces, piece, isDynamic, anyDynamic, tails, Piece.tail]
  have record : (encode recordType (recordValue stored t tellable)).length = 320 +
      (tails (pieces [.bool, .uint 8, .address, .uint 128, .uint 128, .uint 128, .uint 128,
        .address, .address, .bytes] (recordValue stored t tellable))).length :=
    length_encode_tuple _ (recordValue stored t tellable)
  have data : tails (pieces [.bool, .uint 8, .address, .uint 128, .uint 128, .uint 128, .uint 128,
      .address, .address, .bytes] (recordValue stored t tellable)) = lengthMarked t.data := by
    simp [recordValue, pieces, piece, isDynamic, tails, Piece.tail, AbiType.encode]
  have behind := congrArg List.length tail
  have marked := congrArg List.length data
  have head : frameWords transactionFunction.outputs = 1 := rfl
  rw [length_lengthMarked] at marked
  simp only [recordReturn]
  omega

theorem recordReturn_ne_nil (stored : Bool) {t : Transaction} (tellable : t.Tellable) :
    recordReturn stored t tellable ≠ [] := by
  have frame := length_encodeAll transactionFunction.outputs (recordValue stored t tellable, ())
  have head : frameWords transactionFunction.outputs = 1 := rfl
  rw [← List.length_pos_iff, recordReturn]
  omega

theorem contentOfValue_recordValue (stored : Bool) (t : Transaction) (tellable : t.Tellable) :
    contentOfValue (recordValue stored t tellable) = .ok (if stored then some t else none) := by
  cases stored with
  | false => rfl
  | true =>
      have known : Operation.ofInt (t.operation.toNat : Int) = .ok t.operation := by
        cases t.operation <;> rfl
      simp only [recordValue, contentOfValue, known, bind, Except.bind]
      rfl

theorem accept?_record {rule : Address.CaseRule} (stored : Bool) {t : Transaction}
    (tellable : t.Tellable) :
    accept? rule recordType (.list [.bool stored, .int t.operation.toNat, .bytes t.target.bytes,
      .int t.value, .int t.safeTxGas, .int t.baseGas, .int t.gasPrice, .bytes t.gasToken.bytes,
      .bytes t.refundReceiver.bytes, .bytes t.data]) = some (recordValue stored t tellable) := by
  let operation : Fin (2 ^ 8) := ⟨t.operation.toNat, operation_lt t.operation⟩
  let value : Fin (2 ^ 128) := ⟨t.value, tellable.value⟩
  let safeTxGas : Fin (2 ^ 128) := ⟨t.safeTxGas, tellable.safeTxGas⟩
  let baseGas : Fin (2 ^ 128) := ⟨t.baseGas, tellable.baseGas⟩
  let gasPrice : Fin (2 ^ 128) := ⟨t.gasPrice, tellable.gasPrice⟩
  exact acceptAll?_cons (accept?_bool stored) <| acceptAll?_cons (accept?_uint operation) <|
    acceptAll?_cons (accept?_address t.target) <| acceptAll?_cons (accept?_uint value) <|
    acceptAll?_cons (accept?_uint safeTxGas) <| acceptAll?_cons (accept?_uint baseGas) <|
    acceptAll?_cons (accept?_uint gasPrice) <| acceptAll?_cons (accept?_address t.gasToken) <|
    acceptAll?_cons (accept?_address t.refundReceiver) <| acceptAll?_cons (accept?_bytes t.data)
    acceptAll?_nil

/-- A record is read as it was written. -/
theorem decodeLookup_recordReturn (hash : Word) (stored : Bool) {t : Transaction}
    (tellable : t.Tellable)
    (short : (recordReturn stored t tellable).length < 2 ^ (256 : Nat)) :
    decodeLookup hash (recordReturn stored t tellable) =
      .ok (.ofContent hash (if stored then some t else none)) := by
  have read : transactionFunction.decode (recordReturn stored t tellable) =
      .ok (recordValue stored t tellable, ()) := AbiFunction.decode_encodeAll rfl short
  have content := contentOfValue_recordValue stored t tellable
  simp only [decodeLookup, decodeTransaction, read, bind, Except.bind]
  simp only [liftM, monadLift, MonadLift.monadLift, Except.mapError, content]
  rfl

end Store

namespace Ledger

open AbiType Store

theorem pageRequest_pageCalldata (signer safe : Address) (chainId nonce start count : Uint256) :
    pageRequest (pageCalldata signer safe chainId nonce start count) =
      .ok ⟨signer, safe, chainId.val, nonce.val, start.val, count.val⟩ := by
  have read : signaturesFunction.decodeInput (pageCalldata signer safe chainId nonce start count) =
      .ok (signer, safe, chainId, nonce, start, count, ()) :=
    AbiFunction.decodeInput_calldata_static rfl rfl (by decide) _
  rw [pageRequest, read]
  rfl

theorem lookupRequest_lookupCall (store : Address) (hash : Word) :
    lookupRequest (lookupCall store hash).data = .ok hash := by
  have read : transactionFunction.decodeInput (lookupCall store hash).data = .ok (hash, ()) :=
    AbiFunction.decodeInput_calldata_static rfl rfl (by decide) _
  rw [lookupRequest, read]
  rfl

/-- The two functions of the store are told apart by their selectors. -/
theorem selector_ne : transactionFunction.selector ≠ signaturesFunction.selector := by
  decide +kernel

/-- No call is both a request for a page and a lookup. -/
theorem lookupRequest_ne_ok {data : Bytes} {request : PageRequest}
    (requested : pageRequest data = .ok request) (hash : Word) :
    lookupRequest data ≠ .ok hash := by
  intro looked
  obtain ⟨_, forPage, -⟩ := bind_eq_ok_iff.1 requested
  obtain ⟨_, forLookup, -⟩ := bind_eq_ok_iff.1 looked
  apply selector_ne
  rw [← AbiFunction.take_of_decodeInput forLookup, AbiFunction.take_of_decodeInput forPage]

/-- The return data of a page holds the signatures that stand at its place. -/
theorem pageData_eq {items : List StoredSignature} (start count : Nat)
    (few : items.length < 2 ^ (256 : Nat)) :
    pageData items start count =
      .ok (pageReturn ((items.drop start).take count) ⟨items.length, few⟩) := by
  have accepted : ∀ g : StoredSignature, accept? .checked signatureType
      (.list [.bytes g.r.bytes, .bytes g.vs.bytes, .bytes g.txHash.bytes]) =
        some (signatureValue g) := by
    intro g
    exact acceptAll?_cons (accept?_bytes32 g.r) <| acceptAll?_cons (accept?_bytes32 g.vs) <|
      acceptAll?_cons (accept?_bytes32 g.txHash) rfl
  refine AbiFunction.encodeOutput_eq_ok_iff.2 ⟨_, ?_, rfl⟩
  exact acceptAll?_cons (accept?_array accepted _) <|
    acceptAll?_cons (accept?_uint (⟨items.length, few⟩ : Uint256)) rfl

theorem tellable_zero : Transaction.Tellable { target := .zero } := by
  constructor <;> decide

/-- The record of a transaction that can be told. -/
theorem recordData_some {t : Transaction} (tellable : t.Tellable) :
    recordData (some t) = .ok (recordReturn true t tellable) := by
  have accepted : acceptAll? .checked [recordType] _ = some (recordValue true t tellable, ()) :=
    acceptAll?_cons (accept?_record true tellable) acceptAll?_nil
  simp only [recordData, Option.getD_some, Option.isSome_some]
  exact AbiFunction.encodeOutput_eq_ok_iff.2 ⟨_, accepted, rfl⟩

/-- The record of no transaction. -/
theorem recordData_none :
    recordData none = .ok (recordReturn false { target := .zero } tellable_zero) := by
  have accepted : acceptAll? .checked [recordType] _ =
      some (recordValue false { target := .zero } tellable_zero, ()) :=
    acceptAll?_cons (accept?_record false tellable_zero) acceptAll?_nil
  simp only [recordData, Option.getD_none, Option.isSome_none]
  exact AbiFunction.encodeOutput_eq_ok_iff.2 ⟨_, accepted, rfl⟩

/-- Only a transaction whose numbers fit has a record. -/
theorem tellable_of_recordData {t : Transaction} {data : Bytes}
    (told : recordData (some t) = .ok data) : t.Tellable := by
  simp only [recordData, Option.getD_some, Option.isSome_some] at told
  obtain ⟨values, accepted, -⟩ := AbiFunction.encodeOutput_eq_ok_iff.1 told
  have shown := presentAll_of_acceptAll? _ _ values accepted
  obtain ⟨⟨_, _, _, value, safeTxGas, baseGas, gasPrice, _⟩, _⟩ := values
  simp only [transactionFunction, recordType, presentAll, present, normalAll, normal,
    List.cons.injEq, Value.list.injEq, Value.int.injEq] at shown
  obtain ⟨⟨-, -, -, ofValue, ofSafeTxGas, ofBaseGas, ofGasPrice, -⟩, -⟩ := shown
  have below : ∀ {bits : Nat} (n : Fin (2 ^ bits)) {m : Nat}, (n.val : Int) = m → m < 2 ^ bits :=
    fun n m same => Int.ofNat.inj same ▸ n.isLt
  exact ⟨below value ofValue, below safeTxGas ofSafeTxGas, below baseGas ofBaseGas,
    below gasPrice ofGasPrice⟩

/-- There is one way in which telling a transaction fails. -/
theorem eq_of_recordData_error {content : Option Transaction} {e : AbiError}
    (fails : recordData content = .error e) : e = transactionFunction.fail .returnValues := by
  simp only [recordData, AbiFunction.encodeOutput] at fails
  split at fails
  · cases fails
  · exact (Except.error.inj fails).symm

/-- A record that can be told is not empty, no larger than its data asks for, and read as it was
written. -/
theorem exists_recordData {content : Option Transaction}
    (tellable : ∀ t, content = some t → t.Tellable) :
    ∃ data, recordData content = .ok data ∧ data ≠ [] ∧
      data.length ≤ 415 + (content.elim 0 fun t => t.data.length) ∧
      (data.length < 2 ^ (256 : Nat) →
        ∀ hash, decodeLookup hash data = .ok (.ofContent hash content)) := by
  cases content with
  | some t =>
      have told := tellable t rfl
      refine ⟨_, recordData_some told, recordReturn_ne_nil true told, ?_, ?_⟩
      · exact length_recordReturn_le true t told
      · exact fun short hash => decodeLookup_recordReturn hash true told short
  | none =>
      refine ⟨_, recordData_none, recordReturn_ne_nil false tellable_zero, ?_, ?_⟩
      · exact length_recordReturn_le false _ tellable_zero
      · exact fun short hash => decodeLookup_recordReturn hash false tellable_zero short

end Ledger

end MultisigQueue
