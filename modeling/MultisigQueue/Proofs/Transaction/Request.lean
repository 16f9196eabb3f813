/-
Module: MultisigQueue.Proofs.Transaction.Request
Purpose: What transactions are read from, and how far their spelling matters.
Main exports:
  Value.Spells, Value.Respells, TransactionRequest.Gives, TransactionRequest.Respells,
  Transaction.ofRequest_eq_ok_iff, BoundTransaction.ofRequest_eq_ok_iff,
  BoundTransaction.build_eq_ok_iff, BoundTransaction.build_of_respells
-/
import MultisigQueue.Proofs.Text.Hex
import MultisigQueue.Proofs.Transaction.Hash

namespace MultisigQueue

/-!
A request is read field by field. Addresses and data can be spelled in several ways, and those that
spell the same octets are read as the same. So a transaction does not depend on the spelling of the
request that it was built from, and neither does its hash.
-/

namespace Value

/-- Whether a value gives some octets: as they are, or as a text of their digits, which may be in
either case and may have a mark in front. -/
inductive Spells (b : Bytes) : Value → Prop where
  | octets : Spells b (.bytes b)
  | digits {text : String} (normal : Address.normalText text = Hex.ofBytes b) :
      Spells b (.text text)

/-- An address is read from what spells its octets, and from nothing else. -/
theorem toAddress_eq_ok_iff {v : Value} {a : Address} :
    v.toAddress = .ok a ↔ v.Spells a.bytes := by
  constructor
  · intro read
    cases v with
    | bytes b =>
        cases whole : FixedBytes.ofBytes? 20 b with
        | none => simp [toAddress, whole] at read
        | some address =>
            simp only [toAddress, whole, Except.ok.injEq] at read
            subst read
            rw [FixedBytes.bytes_of_ofBytes? whole]
            exact .octets
    | text s =>
        cases spelled : Address.ofText? s with
        | none => simp [toAddress, spelled] at read
        | some address =>
            simp only [toAddress, spelled, Except.ok.injEq] at read
            subst read
            exact .digits (Address.ofText?_eq_some_iff.1 spelled)
    | _ => cases read
  · rintro (_ | normal)
    · simp only [toAddress, FixedBytes.ofBytes?_bytes]
    · simp only [toAddress, Address.ofText?_eq_some_iff.2 normal]

theorem toAddress_lowercase (a : Address) : toAddress (.text a.lowercase) = .ok a := by
  simp only [toAddress, Address.ofText?_lowercase]

/-- Octets are read from what spells them. -/
theorem toBytes_of_spells {v : Value} {b : Bytes} (spelled : v.Spells b) : v.toBytes = .ok b := by
  cases spelled with
  | octets => rfl
  | digits normal =>
      have lowered := (List.cons.inj (List.cons.inj (String.ofList_injective normal)).2).2
      simp only [toBytes, hexBytes, hexChars, Hex.parseChars_of_lowered lowered]
      rfl

/-- Whether two values are the same, or spell the same octets. -/
def Respells (v w : Value) : Prop := v = w ∨ ∃ b, v.Spells b ∧ w.Spells b

theorem Spells.eq {v : Value} {a b : Bytes} (ofA : v.Spells a) (ofB : v.Spells b) : a = b :=
  Except.ok.inj ((toBytes_of_spells ofA).symm.trans (toBytes_of_spells ofB))

theorem Respells.toAddress {v w : Value} {a : Address} (alike : v.Respells w)
    (read : v.toAddress = .ok a) : w.toAddress = .ok a := by
  rcases alike with rfl | ⟨b, ofV, ofW⟩
  · exact read
  · rw [toAddress_eq_ok_iff] at read ⊢
    rwa [read.eq ofV]

theorem Respells.toBytes {v w : Value} {b : Bytes} (alike : v.Respells w)
    (read : v.toBytes = .ok b) : w.toBytes = .ok b := by
  rcases alike with rfl | ⟨octets, ofV, ofW⟩
  · exact read
  · rw [toBytes_of_spells ofV] at read
    rw [toBytes_of_spells ofW, read]

theorem toQuantity_eq_ok_iff {name : String} {v : Value} {n : Nat} :
    v.toQuantity name = .ok n ↔ v.toInt = .ok (n : Int) := by
  unfold toQuantity
  rw [bind_eq_ok_iff]
  constructor
  · rintro ⟨i, read, rest⟩
    by_cases negative : i < 0
    · rw [if_pos negative] at rest
      cases rest
    · rw [if_neg negative] at rest
      cases rest
      rw [read, Int.toNat_of_nonneg (Int.not_lt.1 negative)]
  · intro read
    refine ⟨n, read, ?_⟩
    rw [if_neg (Int.not_lt.2 (Int.natCast_nonneg n))]
    rfl

end Value

namespace TransactionRequest

/-- Whether the fields of a request, its operation aside, are read as those of a transaction. -/
structure Reads (q : TransactionRequest) (t : Transaction) : Prop where
  target : q.target.toAddress = .ok t.target
  value : q.value.toInt = .ok (t.value : Int)
  data : q.data.toBytes = .ok t.data
  safeTxGas : q.safeTxGas.toInt = .ok (t.safeTxGas : Int)
  baseGas : q.baseGas.toInt = .ok (t.baseGas : Int)
  gasPrice : q.gasPrice.toInt = .ok (t.gasPrice : Int)
  gasToken : q.gasToken.toAddress = .ok t.gasToken
  refundReceiver : q.refundReceiver.toAddress = .ok t.refundReceiver

/-- Whether the fields of a request that bind a transaction are also read as they are there. -/
structure Gives (q : TransactionRequest) (t : BoundTransaction) : Prop
    extends q.Reads t.toTransaction where
  safe : q.safe.toAddress = .ok t.safe
  chainId : q.chainId.toInt = .ok t.chainId
  nonce : q.nonce.toInt = .ok (t.nonce : Int)

/-- Whether two requests are the same but for how their addresses and their data are spelled. -/
structure Respells (q r : TransactionRequest) : Prop where
  target : q.target.Respells r.target
  value : q.value = r.value
  data : q.data.Respells r.data
  operation : q.operation = r.operation
  safeTxGas : q.safeTxGas = r.safeTxGas
  baseGas : q.baseGas = r.baseGas
  gasPrice : q.gasPrice = r.gasPrice
  gasToken : q.gasToken.Respells r.gasToken
  refundReceiver : q.refundReceiver.Respells r.refundReceiver
  safe : q.safe.Respells r.safe
  chainId : q.chainId = r.chainId
  nonce : q.nonce = r.nonce

theorem Gives.respells {q r : TransactionRequest} {t : BoundTransaction} (gives : q.Gives t)
    (alike : q.Respells r) : r.Gives t where
  target := alike.target.toAddress gives.target
  value := alike.value ▸ gives.value
  data := alike.data.toBytes gives.data
  safeTxGas := alike.safeTxGas ▸ gives.safeTxGas
  baseGas := alike.baseGas ▸ gives.baseGas
  gasPrice := alike.gasPrice ▸ gives.gasPrice
  gasToken := alike.gasToken.toAddress gives.gasToken
  refundReceiver := alike.refundReceiver.toAddress gives.refundReceiver
  safe := alike.safe.toAddress gives.safe
  chainId := alike.chainId ▸ gives.chainId
  nonce := alike.nonce ▸ gives.nonce

end TransactionRequest

/-- A transaction is read from a request exactly if each of its fields is. -/
theorem Transaction.ofRequest_eq_ok_iff {q : TransactionRequest} {t : Transaction} :
    ofRequest q = .ok t ↔
      (q.operation.toInt >>= Operation.ofInt) = .ok t.operation ∧ q.Reads t := by
  unfold ofRequest
  simp only [bind_eq_ok_iff, Value.toQuantity_eq_ok_iff]
  constructor
  · rintro ⟨target, isTarget, data, isData, number, isNumber, operation, isOperation, gasToken,
      isGasToken, refundReceiver, isRefundReceiver, value, isValue, safeTxGas, isSafeTxGas, baseGas,
      isBaseGas, gasPrice, isGasPrice, same⟩
    cases same
    exact ⟨⟨number, isNumber, isOperation⟩, isTarget, isValue, isData, isSafeTxGas, isBaseGas,
      isGasPrice, isGasToken, isRefundReceiver⟩
  · rintro ⟨⟨number, isNumber, isOperation⟩, reads⟩
    exact ⟨_, reads.target, _, reads.data, number, isNumber, _, isOperation, _, reads.gasToken, _,
      reads.refundReceiver, _, reads.value, _, reads.safeTxGas, _, reads.baseGas, _, reads.gasPrice,
      rfl⟩

namespace BoundTransaction

variable {q r : TransactionRequest} {t : BoundTransaction}

theorem ofRequest_eq_ok_iff :
    ofRequest q = .ok t ↔
      (q.operation.toInt >>= Operation.ofInt) = .ok t.operation ∧ q.Gives t := by
  unfold ofRequest
  simp only [bind_eq_ok_iff, Transaction.ofRequest_eq_ok_iff, Value.toQuantity_eq_ok_iff]
  constructor
  · rintro ⟨transaction, ⟨operation, reads⟩, safe, isSafe, chainId, isChainId, nonce, isNonce, same⟩
    cases same
    exact ⟨operation, { reads with safe := isSafe, chainId := isChainId, nonce := isNonce }⟩
  · rintro ⟨operation, gives⟩
    exact ⟨t.toTransaction, ⟨operation, gives.toReads⟩, _, gives.safe, _, gives.chainId, _,
      gives.nonce, rfl⟩

/-- What is built from a request differs from what is read from it only in how its operation is. -/
theorem build_eq_ok_iff :
    build q = .ok t ↔ Operation.ofValue q.operation = .ok t.operation ∧ q.Gives t := by
  have known : ∀ operation : Operation,
      Operation.ofInt (operation.toNat : Int) = .ok operation := by
    intro operation
    cases operation <;> rfl
  unfold build
  simp only [bind_eq_ok_iff, ofRequest_eq_ok_iff]
  constructor
  · rintro ⟨data, isData, operation, isOperation, ⟨number, isNumber, same⟩, gives⟩
    cases isNumber
    rw [known, Except.ok.injEq] at same
    subst same
    have given : data = t.data := Except.ok.inj gives.data
    subst given
    exact ⟨isOperation, { gives with data := isData }⟩
  · rintro ⟨isOperation, gives⟩
    exact ⟨t.data, gives.data, t.operation, isOperation, ⟨_, rfl, known t.operation⟩,
      { gives with data := rfl }⟩

/-- A request in another spelling builds the same transaction. -/
theorem build_of_respells (alike : q.Respells r) (built : build q = .ok t) : build r = .ok t := by
  rw [build_eq_ok_iff] at built ⊢
  rw [← alike.operation]
  exact ⟨built.1, built.2.respells alike⟩

/-- Two transactions have one hash exactly if they are one transaction, unless different octets that
are digested on the way have one digest; and in whatever spelling a transaction is asked for, it has
its hash. -/
theorem hash_eq_iff_or_collide {t u : BoundTransaction} {a b : Word} (ofT : t.hash = .ok a)
    (ofU : u.hash = .ok b) :
    ((a = b ↔ t = u) ∨ t.Collide u) ∧
      ∀ q r : TransactionRequest, q.Respells r → build q = .ok t →
        ∃ again, build r = .ok again ∧ again.hash = .ok a := by
  constructor
  · by_cases collide : t.Collide u
    · exact .inr collide
    · left
      constructor
      · rintro rfl
        exact (eq_or_collide ofT ofU).resolve_right collide
      · rintro rfl
        exact Except.ok.inj (ofT.symm.trans ofU)
  · intro q r alike built
    exact ⟨t, build_of_respells alike built, ofT⟩

/-- A request for a call with some data to be refunded, all in bare or small digits. -/
def sampleRequest : TransactionRequest where
  target := .text "00000000000000000000000000000000000000ab"
  value := .int 5
  data := .bytes [0xca, 0xfe]
  operation := .int 1
  baseGas := .int 7
  gasPrice := .int 2
  refundReceiver := .text "0x00000000000000000000000000000000000000cd"
  safe := .bytes (Address.ofNat 0xef).bytes
  chainId := .int 100
  nonce := .int 3

/-- The request with its addresses and data in other digits. -/
def sampleRespelled : TransactionRequest :=
  { sampleRequest with
    target := .text "0X00000000000000000000000000000000000000aB"
    data := .text "CAfe"
    refundReceiver := .text "00000000000000000000000000000000000000CD"
    safe := .text "0x00000000000000000000000000000000000000EF" }

/-- What both requests ask for. -/
def sampleBuilt : BoundTransaction where
  target := .ofNat 0xab
  value := 5
  data := [0xca, 0xfe]
  operation := .delegateCall
  baseGas := 7
  gasPrice := 2
  refundReceiver := .ofNat 0xcd
  safe := .ofNat 0xef
  chainId := 100
  nonce := 3

theorem respells_sample : sampleRequest.Respells sampleRespelled where
  target := .inr ⟨(Address.ofNat 0xab).bytes, .digits (by rfl), .digits (by rfl)⟩
  value := rfl
  data := .inr ⟨[0xca, 0xfe], .octets, .digits (by rfl)⟩
  operation := rfl
  safeTxGas := rfl
  baseGas := rfl
  gasPrice := rfl
  gasToken := .inl rfl
  refundReceiver := .inr ⟨(Address.ofNat 0xcd).bytes, .digits (by rfl), .digits (by rfl)⟩
  safe := .inr ⟨(Address.ofNat 0xef).bytes, .octets, .digits (by rfl)⟩
  chainId := rfl
  nonce := rfl

theorem build_sample : build sampleRequest = .ok sampleBuilt := by
  rw [build_eq_ok_iff]
  exact ⟨rfl,
    { target := Value.toAddress_eq_ok_iff.2 (.digits (by rfl))
      value := rfl
      data := rfl
      safeTxGas := rfl
      baseGas := rfl
      gasPrice := rfl
      gasToken := Value.toAddress_eq_ok_iff.2 .octets
      refundReceiver := Value.toAddress_eq_ok_iff.2 (.digits (by rfl))
      safe := Value.toAddress_eq_ok_iff.2 .octets
      chainId := rfl
      nonce := rfl }⟩

/-- One more gas price makes another transaction, so another hash unless digests collide; another
spelling makes the same. -/
theorem hash_eq_iff_or_collide_sample : ∃ a b, sampleBuilt.hash = .ok a ∧
    { sampleBuilt with gasPrice := 3 }.hash = .ok b ∧
      (a ≠ b ∨ sampleBuilt.Collide { sampleBuilt with gasPrice := 3 }) ∧
        ∃ again, build sampleRespelled = .ok again ∧ again.hash = .ok a := by
  obtain ⟨a, ofT⟩ := exists_hash (t := sampleBuilt) (by decide) (by decide) (by decide)
    (by decide) (by decide) (by decide)
  obtain ⟨b, ofU⟩ := exists_hash (t := { sampleBuilt with gasPrice := 3 }) (by decide) (by decide)
    (by decide) (by decide) (by decide) (by decide)
  obtain ⟨binds, spelled⟩ := hash_eq_iff_or_collide ofT ofU
  have differ : sampleBuilt ≠ { sampleBuilt with gasPrice := 3 } := by
    intro same
    exact absurd (congrArg (fun t : BoundTransaction => t.gasPrice) same) (by decide)
  exact ⟨a, b, ofT, ofU, binds.imp_left fun iff same => differ (iff.1 same),
    spelled sampleRequest sampleRespelled respells_sample build_sample⟩

end BoundTransaction

end MultisigQueue
