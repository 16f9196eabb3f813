/-
Module: MultisigQueue.Proofs.Transaction.Hash
Purpose: The hash of a bound transaction binds all that the transaction consists of.
Main exports:
  wordsBytes_injective, BoundTransaction.Digests, BoundTransaction.Collide,
  BoundTransaction.eq_or_collide, BoundTransaction.exists_hash
-/
import MultisigQueue.Proofs.Query
import MultisigQueue.Transaction.Hash

namespace MultisigQueue

/-!
Four octet strings are digested on the way to a hash, each of which holds digests of the others or
the numbers and addresses themselves, all in words. Words can be told apart where they stand. So two
transactions with one hash are one transaction, or else two different strings have one digest.
-/

/-- The octets of words determine the words. -/
theorem wordsBytes_injective {words others : List Word} (asMany : words.length = others.length)
    (same : wordsBytes words = wordsBytes others) : words = others := by
  induction words generalizing others with
  | nil => exact (List.eq_nil_of_length_eq_zero asMany.symm).symm
  | cons word rest ih =>
      cases others with
      | nil => cases asMany
      | cons other behind =>
          simp only [wordsBytes, List.flatMap_cons] at same
          obtain ⟨first, later⟩ := List.append_inj same (by rw [word.length_eq, other.length_eq])
          rw [FixedBytes.ext first, ih (Nat.succ.inj asMany) later]

/-- Numbers that fit are told apart by the octets that spell them. -/
theorem FixedBytes.ofNat_injective {width m n : Nat} (fitsM : m < 256 ^ width)
    (fitsN : n < 256 ^ width) (same : ofNat width m = ofNat width n) : m = n := by
  rw [← toNat_ofNat fitsM, ← toNat_ofNat fitsN, same]

theorem quantityWord_eq_ok_iff {n : Int} {word : Word} :
    quantityWord n = .ok word ↔
      (0 ≤ n ∧ n < 2 ^ (256 : Nat)) ∧ FixedBytes.ofNat 32 n.toNat = word := by
  unfold quantityWord
  split
  · rename_i fits
    rw [Except.ok.injEq, and_iff_right fits]
  · rename_i outside
    constructor
    · intro none
      cases none
    · rintro ⟨fits, -⟩
      exact absurd fits outside

theorem quantityWord_injective {m n : Int} {word : Word} (ofM : quantityWord m = .ok word)
    (ofN : quantityWord n = .ok word) : m = n := by
  obtain ⟨⟨leastM, mostM⟩, spellsM⟩ := quantityWord_eq_ok_iff.1 ofM
  obtain ⟨⟨leastN, mostN⟩, spellsN⟩ := quantityWord_eq_ok_iff.1 ofN
  have same : m.toNat = n.toNat :=
    FixedBytes.ofNat_injective (by omega) (by omega) (spellsM.trans spellsN.symm)
  omega

theorem Address.word_injective {a b : Address} (same : a.word = b.word) : a = b := by
  have fits : ∀ c : Address, c.toNat < 256 ^ (32 : Nat) := fun c =>
    Nat.lt_of_lt_of_le c.toNat_lt (Nat.pow_le_pow_right (by decide) (by decide))
  exact FixedBytes.toNat_inj.1 (FixedBytes.ofNat_injective (fits a) (fits b) same)

theorem Operation.eq_of_word_eq {a b : Operation}
    (same : FixedBytes.ofNat 32 a.toNat = FixedBytes.ofNat 32 b.toNat) : a = b := by
  have number : a.toNat = b.toNat :=
    FixedBytes.ofNat_injective (by cases a <;> decide) (by cases b <;> decide) same
  cases a <;> cases b <;> first | rfl | cases number

theorem Account.domainEncoding_eq_ok_iff {a : Account} {encoded : Bytes} :
    a.domainEncoding = .ok encoded ↔ ∃ chainId, quantityWord a.chainId = .ok chainId ∧
      encoded = wordsBytes [domainTypeHash, chainId, a.address.word] := by
  unfold domainEncoding
  rw [bind_eq_ok_iff]
  constructor
  · rintro ⟨chainId, isWord, same⟩
    cases same
    exact ⟨chainId, isWord, rfl⟩
  · rintro ⟨chainId, isWord, rfl⟩
    exact ⟨chainId, isWord, rfl⟩

/-- Accounts are told apart by what their domain separators are the digests of. -/
theorem Account.domainEncoding_injective {a b : Account} {encoded : Bytes}
    (ofA : a.domainEncoding = .ok encoded) (ofB : b.domainEncoding = .ok encoded) : a = b := by
  obtain ⟨chainA, isChainA, rfl⟩ := domainEncoding_eq_ok_iff.1 ofA
  obtain ⟨chainB, isChainB, same⟩ := domainEncoding_eq_ok_iff.1 ofB
  have words := wordsBytes_injective (by rfl) same
  simp only [List.cons.injEq, true_and, and_true] at words
  obtain ⟨rfl, sameAddress⟩ := words
  have chainId : a.chainId = b.chainId := quantityWord_injective isChainA isChainB
  have address : a.address = b.address := Address.word_injective sameAddress
  cases a
  cases b
  cases chainId
  cases address
  rfl

namespace BoundTransaction

variable {t u : BoundTransaction}

/-- Whether octets are digested on the way to the hash of a transaction. -/
inductive Digests (t : BoundTransaction) : Bytes → Prop where
  | data : Digests t t.data
  | domain {encoded : Bytes} (isDomain : t.account.domainEncoding = .ok encoded) : Digests t encoded
  | struct {encoded : Bytes} (isStruct : t.structEncoding = .ok encoded) : Digests t encoded
  | whole {encoded : Bytes} (isWhole : t.hashEncoding = .ok encoded) : Digests t encoded

/-- Whether two different octet strings that are digested on the way to the hashes of two
transactions have the same digest. -/
def Collide (t u : BoundTransaction) : Prop :=
  ∃ a b, t.Digests a ∧ u.Digests b ∧ a ≠ b ∧ keccak256 a = keccak256 b

theorem eq_of_not_collide (free : ¬t.Collide u) {a b : Bytes} (ofT : t.Digests a)
    (ofU : u.Digests b) (same : keccak256 a = keccak256 b) : a = b := by
  by_contra differ
  exact free ⟨a, b, ofT, ofU, differ, same⟩

theorem structEncoding_eq_ok_iff {encoded : Bytes} :
    t.structEncoding = .ok encoded ↔ ∃ value safeTxGas baseGas gasPrice nonce,
      quantityWord t.value = .ok value ∧ quantityWord t.safeTxGas = .ok safeTxGas ∧
        quantityWord t.baseGas = .ok baseGas ∧ quantityWord t.gasPrice = .ok gasPrice ∧
          quantityWord t.nonce = .ok nonce ∧
            encoded = wordsBytes [transactionTypeHash, t.target.word, value, keccak256 t.data,
              .ofNat 32 t.operation.toNat, safeTxGas, baseGas, gasPrice, t.gasToken.word,
              t.refundReceiver.word, nonce] := by
  unfold structEncoding
  simp only [bind_eq_ok_iff]
  constructor
  · rintro ⟨value, isValue, safeTxGas, isSafeTxGas, baseGas, isBaseGas, gasPrice, isGasPrice, nonce,
      isNonce, same⟩
    cases same
    exact ⟨value, safeTxGas, baseGas, gasPrice, nonce, isValue, isSafeTxGas, isBaseGas, isGasPrice,
      isNonce, rfl⟩
  · rintro ⟨value, safeTxGas, baseGas, gasPrice, nonce, isValue, isSafeTxGas, isBaseGas, isGasPrice,
      isNonce, rfl⟩
    exact ⟨value, isValue, safeTxGas, isSafeTxGas, baseGas, isBaseGas, gasPrice, isGasPrice, nonce,
      isNonce, rfl⟩

theorem hashEncoding_eq_ok_iff {encoded : Bytes} :
    t.hashEncoding = .ok encoded ↔ ∃ domain struct, t.account.domainEncoding = .ok domain ∧
      t.structEncoding = .ok struct ∧
        encoded = [0x19, 0x01] ++ (keccak256 domain).bytes ++ (keccak256 struct).bytes := by
  unfold hashEncoding Account.domainSeparator structHash
  simp only [bind_eq_ok_iff]
  constructor
  · rintro ⟨_, ⟨domain, isDomain, ofDomain⟩, _, ⟨struct, isStruct, ofStruct⟩, same⟩
    cases ofDomain
    cases ofStruct
    cases same
    exact ⟨domain, struct, isDomain, isStruct, rfl⟩
  · rintro ⟨domain, struct, isDomain, isStruct, rfl⟩
    exact ⟨_, ⟨domain, isDomain, rfl⟩, _, ⟨struct, isStruct, rfl⟩, rfl⟩

theorem hash_eq_ok_iff {hash : Word} :
    t.hash = .ok hash ↔ ∃ encoded, t.hashEncoding = .ok encoded ∧ keccak256 encoded = hash := by
  unfold BoundTransaction.hash
  rw [bind_eq_ok_iff]
  simp only [pure, Except.pure, Except.ok.injEq]

/-- Transactions with one struct encoding are the same but for their Safe and chain, if the digests
of their data tell these apart. -/
theorem eq_of_structEncoding_eq {encoded : Bytes} (free : ¬t.Collide u)
    (ofT : t.structEncoding = .ok encoded) (ofU : u.structEncoding = .ok encoded) :
    t.toTransaction = u.toTransaction ∧ t.nonce = u.nonce := by
  obtain ⟨value, safeTxGas, baseGas, gasPrice, nonce, isValue, isSafeTxGas, isBaseGas, isGasPrice,
    isNonce, rfl⟩ := structEncoding_eq_ok_iff.1 ofT
  obtain ⟨_, _, _, _, _, alsoValue, alsoSafeTxGas, alsoBaseGas, alsoGasPrice, alsoNonce, same⟩ :=
    structEncoding_eq_ok_iff.1 ofU
  have words := wordsBytes_injective (by rfl) same
  simp only [List.cons.injEq, true_and, and_true] at words
  -- Each word spells its part, but for the data, of which there is only a digest.
  obtain ⟨target, rfl, data, operation, rfl, rfl, rfl, gasToken, refundReceiver, rfl⟩ := words
  have target := Address.word_injective target
  have value := Int.ofNat.inj (quantityWord_injective isValue alsoValue)
  have data := eq_of_not_collide free .data .data data
  have operation := Operation.eq_of_word_eq operation
  have safeTxGas := Int.ofNat.inj (quantityWord_injective isSafeTxGas alsoSafeTxGas)
  have baseGas := Int.ofNat.inj (quantityWord_injective isBaseGas alsoBaseGas)
  have gasPrice := Int.ofNat.inj (quantityWord_injective isGasPrice alsoGasPrice)
  have gasToken := Address.word_injective gasToken
  have refundReceiver := Address.word_injective refundReceiver
  refine ⟨?_, Int.ofNat.inj (quantityWord_injective isNonce alsoNonce)⟩
  change Transaction.mk t.target t.value t.data t.operation t.safeTxGas t.baseGas t.gasPrice
      t.gasToken t.refundReceiver = Transaction.mk u.target u.value u.data u.operation u.safeTxGas
      u.baseGas u.gasPrice u.gasToken u.refundReceiver
  rw [target, value, data, operation, safeTxGas, baseGas, gasPrice, gasToken, refundReceiver]

/-- Two transactions with one hash are one transaction, unless two different strings that are
digested on the way have the same digest. -/
theorem eq_or_collide {hash : Word} (ofT : t.hash = .ok hash) (ofU : u.hash = .ok hash) :
    t = u ∨ t.Collide u := by
  rw [or_iff_not_imp_right]
  intro free
  -- The digests are taken off from the outermost inwards.
  obtain ⟨wholeT, isWholeT, digestT⟩ := hash_eq_ok_iff.1 ofT
  obtain ⟨wholeU, isWholeU, digestU⟩ := hash_eq_ok_iff.1 ofU
  have whole : wholeT = wholeU :=
    eq_of_not_collide free (.whole isWholeT) (.whole isWholeU) (digestT.trans digestU.symm)
  obtain ⟨domainT, structT, isDomainT, isStructT, rfl⟩ := hashEncoding_eq_ok_iff.1 isWholeT
  obtain ⟨domainU, structU, isDomainU, isStructU, rfl⟩ := hashEncoding_eq_ok_iff.1 isWholeU
  obtain ⟨front, struct⟩ := List.append_inj whole (by simp [FixedBytes.length_eq])
  have domain := List.append_cancel_left front
  obtain rfl : domainT = domainU :=
    eq_of_not_collide free (.domain isDomainT) (.domain isDomainU) (FixedBytes.ext domain)
  obtain rfl : structT = structU :=
    eq_of_not_collide free (.struct isStructT) (.struct isStructU) (FixedBytes.ext struct)
  have account := Account.domainEncoding_injective isDomainT isDomainU
  obtain ⟨transaction, nonce⟩ := eq_of_structEncoding_eq free isStructT isStructU
  obtain ⟨safe, chainId⟩ := Account.mk.inj account
  change BoundTransaction.mk t.toTransaction t.safe t.chainId t.nonce =
    BoundTransaction.mk u.toTransaction u.safe u.chainId u.nonce
  rw [transaction, safe, chainId, nonce]

/-- A transaction has a hash if all its numbers fit into words. -/
theorem exists_hash (value : t.value < 2 ^ (256 : Nat)) (safeTxGas : t.safeTxGas < 2 ^ (256 : Nat))
    (baseGas : t.baseGas < 2 ^ (256 : Nat)) (gasPrice : t.gasPrice < 2 ^ (256 : Nat))
    (chainId : 0 ≤ t.chainId ∧ t.chainId < 2 ^ (256 : Nat)) (nonce : t.nonce < 2 ^ (256 : Nat)) :
    ∃ hash, t.hash = .ok hash := by
  have word : ∀ {n : Nat}, n < 2 ^ (256 : Nat) → ∃ word, quantityWord n = .ok word := by
    intro n fits
    exact ⟨_, quantityWord_eq_ok_iff.2 ⟨⟨Int.natCast_nonneg n, by exact_mod_cast fits⟩, rfl⟩⟩
  obtain ⟨_, isValue⟩ := word value
  obtain ⟨_, isSafeTxGas⟩ := word safeTxGas
  obtain ⟨_, isBaseGas⟩ := word baseGas
  obtain ⟨_, isGasPrice⟩ := word gasPrice
  obtain ⟨_, isNonce⟩ := word nonce
  have domain := Account.domainEncoding_eq_ok_iff (a := t.account).2
    ⟨_, quantityWord_eq_ok_iff.2 ⟨chainId, rfl⟩, rfl⟩
  have struct := structEncoding_eq_ok_iff (t := t).2
    ⟨_, _, _, _, _, isValue, isSafeTxGas, isBaseGas, isGasPrice, isNonce, rfl⟩
  exact ⟨_, hash_eq_ok_iff.2
    ⟨_, hashEncoding_eq_ok_iff.2 ⟨_, _, domain, struct, rfl⟩, rfl⟩⟩

end BoundTransaction

end MultisigQueue
