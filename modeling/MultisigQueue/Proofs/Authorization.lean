/-
Module: MultisigQueue.Proofs.Authorization
Purpose: What an authorization keeps of the signatures that it is made of, and of their order.
Main exports:
  Signature.words, Signature.full_inj, Signature.ofParts_full, filter_sortBySigner,
  authorization_eq_iff, authorization_perm, FullSignature.compact, authorization_lossless
-/
import MultisigQueue.Proofs.Queue.Executable

namespace MultisigQueue

/-!
An authorization holds every signature in full, so the compact signatures can be made again from its
pieces and from what is not in them, the hashes and the signers. Signatures are sorted by signer
only, and those of one signer stay as they were given. Hence two lists of the same signatures have
one authorization exactly if they agree in the order of each signer's signatures, as far as their
words differ.
-/

namespace Signature

/-- The two words of a signature. -/
def words (g : Signature) : Word × Word := (g.r, g.vs)

/-- The second word is put together from the parity and from `s`. -/
theorem toNat_vs (g : Signature) : g.yParity * 2 ^ (255 : Nat) + g.s.toNat = g.vs.toNat := by
  have fits : g.vs.toNat % 2 ^ (255 : Nat) < 256 ^ (32 : Nat) :=
    Nat.lt_of_lt_of_le (Nat.mod_lt _ (by decide)) (by decide)
  have low : g.s.toNat = g.vs.toNat % 2 ^ (255 : Nat) := FixedBytes.toNat_ofNat fits
  rw [low, yParity, Nat.div_add_mod']

/-- Signatures have the same full form exactly if they have the same words. -/
theorem full_inj {g h : Signature} : g.full = h.full ↔ g.words = h.words := by
  constructor
  · intro same
    have read := ofOctets?_full g
    rw [same, ofOctets?_full h] at read
    simp only [Option.some.injEq, FullSignature.mk.injEq] at read
    obtain ⟨r, s, v⟩ := read
    have parity : h.yParity = g.yParity := by omega
    have vs : g.vs.toNat = h.vs.toNat := by rw [← toNat_vs, ← toNat_vs, s, parity]
    rw [words, words, r, FixedBytes.toNat_inj.1 vs]
  · intro same
    obtain ⟨r, vs⟩ := Prod.mk.inj same
    simp only [full, s, v, yParity, r, vs]

theorem parityOf_v (g : Signature) : parityOf (27 + g.yParity : Nat) = .ok g.yParity := by
  have parity := g.yParity_lt
  rcases (by omega : g.yParity = 0 ∨ g.yParity = 1) with even | odd
  · rw [even]
    rfl
  · rw [odd]
    rfl

theorem wordOfNumber_toNat (w : Word) : wordOfNumber w.toNat = .ok w := by
  have fits : (w.toNat : Int) < 2 ^ (256 : Nat) := by exact_mod_cast w.toNat_lt
  rw [wordOfNumber, if_neg (by omega), if_neg (by omega), Int.toNat_natCast,
    FixedBytes.ofNat_toNat]

/-- The second word is made again from the parity and from `s`. -/
theorem secondWord_s (g : Signature) : secondWord g.yParity g.s.toNat = .ok g.vs := by
  rw [secondWord, if_neg (by omega), Int.toNat_natCast, toNat_vs, FixedBytes.ofNat_toNat]

theorem s_lt (g : Signature) : g.s.toNat < 2 ^ (255 : Nat) := by
  have whole := g.toNat_vs
  have small : g.vs.toNat < 256 ^ (32 : Nat) := g.vs.toNat_lt
  rw [yParity] at whole
  omega

/-- The words are made again from the numbers of the full form. -/
theorem compact_full (g : Signature) :
    compact g.r.toNat g.s.toNat (27 + g.yParity : Nat) = .ok (g.r, g.vs) := by
  have below : ¬(2 ^ (255 : Nat) : Int) ≤ g.s.toNat := by
    have small := g.s_lt
    exact_mod_cast Nat.not_le_of_lt small
  rw [compact, parityOf_v]
  simp only [bind, Except.bind, if_neg below, wordOfNumber_toNat, secondWord_s]
  rfl

/-- A signature is made again from the numbers of its full form, its hash and the spelling of its
signer. -/
theorem ofParts_full (g : Signature) :
    ofParts g.r.toNat g.s.toNat (27 + g.yParity : Nat) (.bytes g.txHash.bytes)
      (.text g.signer.checksummed) = .ok g := by
  have hash : (Value.bytes g.txHash.bytes).toWord = .ok g.txHash := by
    simp only [Value.toWord, Value.toBytes, bind, Except.bind, FixedBytes.ofBytes?_bytes]
  have signer : (Value.text g.signer.checksummed).toAddress = .ok g.signer := by
    simp only [Value.toAddress, Address.ofText?_checksummed]
  rw [ofParts, compact_full]
  simp only [bind, Except.bind, hash, signer]
  rfl

/-- An integer is found among the recovery identifiers exactly if it stands for a parity. -/
theorem find?_recoveryIds (v : Int) :
    (∃ parity, parityOf v = .ok parity ∧
      (recoveryIds.find? fun id => (Value.int v).equals (.int id)) = some v) ∨
    parityOf v = .error (.recoveryId (.int v)) ∧
      (recoveryIds.find? fun id => (Value.int v).equals (.int id)) = none := by
  by_cases known : v ∈ recoveryIds
  · left
    revert known
    simp only [recoveryIds, List.mem_cons, List.not_mem_nil, or_false]
    rintro (rfl | rfl | rfl | rfl)
    · exact ⟨0, rfl, by simp⟩
    · exact ⟨1, rfl, by simp⟩
    · exact ⟨0, rfl, by simp⟩
    · exact ⟨1, rfl, by simp⟩
  · right
    simp only [recoveryIds, List.mem_cons, List.not_mem_nil, or_false, not_or] at known
    obtain ⟨no0, no1, no27, no28⟩ := known
    simp [parityOf, recoveryIds, no0, no1, no27, no28]

/-- Numbers that are loosely typed make the signature that they make as integers, if they are. -/
theorem ofNumbers_int (r s v : Int) (txHash signer : Value) :
    ofNumbers (.int r) (.int s) (.int v) txHash signer = ofParts r s v txHash signer := by
  have large : Relation.more.holds (.int s) (.int sMost) =
      decide ((2 ^ (255 : Nat) : Int) ≤ s) := by
    rw [Relation.holds_more_int, sMost, decide_eq_decide]
    omega
  obtain ⟨parity, stands, found⟩ | ⟨fails, missing⟩ := find?_recoveryIds v
  · simp only [ofNumbers, Value.relate_int, found, large, bind, Except.bind]
    by_cases beyond : (2 ^ (255 : Nat) : Int) ≤ s
    · simp only [ofParts, compact, stands, beyond, bind, Except.bind, decide_true, if_true]
      rfl
    · simp only [beyond, decide_false]
      rfl
  · simp only [ofNumbers, ofParts, compact, Value.relate_int, missing, fails, bind, Except.bind]
    rfl

/-- Pieces of one length are found in what they are put together to. -/
theorem flatMap_full_inj {l m : List Signature} (same : l.length = m.length) :
    l.flatMap full = m.flatMap full ↔ l.map words = m.map words := by
  induction l generalizing m with
  | nil =>
      rw [List.length_eq_zero_iff.1 same.symm]
      exact iff_of_true rfl rfl
  | cons g rest ih =>
      cases m with
      | nil => cases same
      | cons h others =>
          have sameRest : rest.length = others.length := Nat.succ_inj.1 same
          rw [List.flatMap_cons, List.flatMap_cons, List.map_cons, List.map_cons, List.cons.injEq,
            ← ih sameRest, ← full_inj]
          constructor
          · intro joined
            exact List.append_inj joined (g.length_full.trans h.length_full.symm)
          · rintro ⟨first, later⟩
            rw [first, later]

end Signature

/-- Lists whose items have the same keys in the same order are told apart, as far as a view of the
items goes, by the items of some one key. -/
theorem map_eq_iff_filter {α β γ : Type} [DecidableEq β] {key : α → β} (view : α → γ)
    {l m : List α} (same : l.map key = m.map key) :
    l.map view = m.map view ↔
      ∀ b, (l.filter fun a => key a = b).map view = (m.filter fun a => key a = b).map view := by
  induction l generalizing m with
  | nil =>
      rw [List.map_eq_nil_iff.1 same.symm]
      exact iff_of_true rfl fun _ => rfl
  | cons x rest ih =>
      obtain ⟨y, others, rfl, first, later⟩ := List.map_eq_cons_iff.1 same.symm
      rw [List.map_cons, List.map_cons, List.cons.injEq, ih later.symm]
      constructor
      · rintro ⟨head, behind⟩ b
        by_cases isKey : key x = b
        · simp [first, isKey, head, behind b]
        · simp [first, isKey, behind b]
      · intro each
        have head := each (key x)
        simp only [List.filter_cons, first, decide_true, if_true, List.map_cons,
          List.cons.injEq] at head
        refine ⟨head.1, fun b => ?_⟩
        by_cases isKey : key x = b
        · rw [← isKey]
          exact head.2
        · simpa [first, isKey] using each b

section Sorting

variable (signatures : List Signature)

theorem perm_sortBySigner : (sortBySigner signatures).Perm signatures :=
  List.mergeSort_perm signatures _

/-- The order that signatures are sorted in. -/
def signerAtMost (g h : Signature) : Bool := g.signer.toNat ≤ h.signer.toNat

theorem signerAtMost_trans (g h k : Signature) :
    signerAtMost g h → signerAtMost h k → signerAtMost g k := by
  simpa [signerAtMost] using Nat.le_trans

theorem signerAtMost_total (g h : Signature) : signerAtMost g h || signerAtMost h g := by
  simpa [signerAtMost] using Nat.le_total _ _

/-- Sorted signatures are in ascending order of their signers. -/
theorem pairwise_sortBySigner :
    (sortBySigner signatures).Pairwise fun g h => g.signer.toNat ≤ h.signer.toNat :=
  (List.pairwise_mergeSort signerAtMost_trans signerAtMost_total signatures).imp of_decide_eq_true

/-- The signatures of one signer stay as they were given. -/
theorem filter_sortBySigner (a : Address) :
    (sortBySigner signatures).filter (fun g => g.signer = a) =
      signatures.filter fun g => g.signer = a := by
  have level : (signatures.filter fun g => g.signer = a).Pairwise fun g h => signerAtMost g h := by
    refine List.pairwise_of_forall_mem_list ?_
    intro g isOne h isOther
    have ofOne := of_decide_eq_true (List.mem_filter.1 isOne).2
    have ofOther := of_decide_eq_true (List.mem_filter.1 isOther).2
    simp [signerAtMost, ofOne, ofOther]
  have kept : (signatures.filter fun g => g.signer = a).Sublist (sortBySigner signatures) :=
    List.sublist_mergeSort signerAtMost_trans signerAtMost_total level List.filter_sublist
  have found := kept.filter fun g => g.signer = a
  rw [List.filter_filter] at found
  simp only [Bool.and_self] at found
  exact (found.eq_of_length ((perm_sortBySigner signatures).filter _).length_eq.symm).symm

end Sorting

/-- The signers of sorted signatures are the same in any order of the signatures. -/
theorem signer_sortBySigner {l m : List Signature} (turned : l.Perm m) :
    (sortBySigner l).map Signature.signer = (sortBySigner m).map Signature.signer := by
  have sorted : ∀ k : List Signature, ((sortBySigner k).map Signature.signer).Pairwise
      fun a b => a.toNat ≤ b.toNat :=
    fun k => List.pairwise_map.2 (pairwise_sortBySigner k)
  refine List.Perm.eq_of_pairwise ?_ (sorted l) (sorted m) ?_
  · intro a b _ _ notAbove notBelow
    exact FixedBytes.toNat_inj.1 (Nat.le_antisymm notAbove notBelow)
  · exact (((perm_sortBySigner l).trans turned).trans (perm_sortBySigner m).symm).map _

/-- Two orders of some signatures have one authorization exactly if the words of each signer's
signatures come in the same order. -/
theorem authorization_eq_iff {l m : List Signature} (some : l ≠ []) (turned : l.Perm m) :
    authorization l = authorization m ↔
      ∀ a, (l.filter fun g => g.signer = a).map Signature.words =
        (m.filter fun g => g.signer = a).map Signature.words := by
  have someToo : m ≠ [] := fun none => some (List.perm_nil.1 (none ▸ turned))
  have sameLength : (sortBySigner l).length = (sortBySigner m).length := by
    simpa using congrArg List.length (signer_sortBySigner turned)
  rw [authorization_of_ne_nil some, authorization_of_ne_nil someToo, Except.ok.injEq,
    Signature.flatMap_full_inj sameLength, map_eq_iff_filter _ (signer_sortBySigner turned)]
  simp only [filter_sortBySigner]

/-- Signatures of which those of one signer have the same words have them in the same order. -/
theorem words_filter_perm {l m : List Signature} (turned : l.Perm m)
    (alike : ∀ g ∈ l, ∀ h ∈ l, g.signer = h.signer → g.words = h.words) (a : Address) :
    (l.filter fun g => g.signer = a).map Signature.words =
      (m.filter fun g => g.signer = a).map Signature.words := by
  have level : ∀ k : List Signature, k.Perm l →
      ((k.filter fun g => g.signer = a).map Signature.words).Pairwise Eq := by
    intro k sameItems
    refine List.pairwise_map.2 (List.pairwise_of_forall_mem_list ?_)
    intro g isOne h isOther
    obtain ⟨isItem, ofSigner⟩ := List.mem_filter.1 isOne
    obtain ⟨isItemToo, ofSignerToo⟩ := List.mem_filter.1 isOther
    exact alike g (sameItems.mem_iff.1 isItem) h (sameItems.mem_iff.1 isItemToo)
      ((of_decide_eq_true ofSigner).trans (of_decide_eq_true ofSignerToo).symm)
  exact List.Perm.eq_of_pairwise (fun _ _ _ _ same _ => same) (level l (.refl l))
    (level m turned.symm) ((turned.filter _).map _)

/-- Two orders of some signatures both have an authorization. It is one and the same exactly if the
words of each signer's signatures come in the same order, as they do in any order if no signer has
signatures of different words. -/
theorem authorization_perm {l m : List Signature} (some : l ≠ []) (turned : l.Perm m) :
    ∃ octets others, authorization l = .ok octets ∧ authorization m = .ok others ∧
      (octets = others ↔ ∀ a, (l.filter fun g => g.signer = a).map Signature.words =
        (m.filter fun g => g.signer = a).map Signature.words) ∧
      ((∀ g ∈ l, ∀ h ∈ l, g.signer = h.signer → g.words = h.words) → octets = others) := by
  have someToo : m ≠ [] := fun none => some (List.perm_nil.1 (none ▸ turned))
  have agree := authorization_eq_iff some turned
  rw [authorization_of_ne_nil some, authorization_of_ne_nil someToo, Except.ok.injEq] at agree
  exact ⟨_, _, authorization_of_ne_nil some, authorization_of_ne_nil someToo, agree,
    fun alike => agree.2 (words_filter_perm turned alike)⟩

/-- Signatures of two signers have one authorization in both orders. -/
theorem authorization_perm_sample :
    authorization [⟨.ofNat 32 3, .ofNat 32 4, .ofNat 32 5, .ofNat 2⟩,
        ⟨.ofNat 32 6, .ofNat 32 7, .ofNat 32 5, .ofNat 1⟩] =
      authorization [⟨.ofNat 32 6, .ofNat 32 7, .ofNat 32 5, .ofNat 1⟩,
        ⟨.ofNat 32 3, .ofNat 32 4, .ofNat 32 5, .ofNat 2⟩] := by
  obtain ⟨octets, others, made, alsoMade, -, same⟩ :=
    authorization_perm (List.cons_ne_nil _ _) (List.Perm.swap
      (⟨.ofNat 32 6, .ofNat 32 7, .ofNat 32 5, .ofNat 1⟩ : Signature)
      ⟨.ofNat 32 3, .ofNat 32 4, .ofNat 32 5, .ofNat 2⟩ [])
  rw [made, alsoMade, same (by decide)]

/-- Signatures of one signer have an authorization for each order if their words differ. -/
theorem authorization_turned : ¬∀ l m : List Signature, l ≠ [] → l.Perm m →
    authorization l = authorization m := by
  intro invariant
  have same := invariant _ _ (List.cons_ne_nil _ _) (List.Perm.swap
    (⟨.ofNat 32 6, .ofNat 32 7, .ofNat 32 5, .ofNat 1⟩ : Signature)
    ⟨.ofNat 32 3, .ofNat 32 4, .ofNat 32 5, .ofNat 1⟩ [])
  rw [authorization_eq_iff (List.cons_ne_nil _ _) (List.Perm.swap _ _ [])] at same
  exact absurd (same (.ofNat 1)) (by decide)

namespace FullSignature

/-- The compact form of a full signature over a hash that is said to be of a signer. -/
def compact (full : FullSignature) (txHash : Word) (signer : Address) :
    Except InputError Signature :=
  Signature.ofNumbers (.int full.r.toNat) (.int full.s.toNat) (.int full.v) (.bytes txHash.bytes)
    (.text signer.checksummed)

end FullSignature

/-- An authorization loses nothing: the sorted signatures are made again from its pieces, their
hashes and their signers. They are all signatures there were, in ascending order of their signers,
and those of one signer are as they were given. -/
theorem authorization_lossless {signatures : List Signature} (nonempty : signatures ≠ []) :
    ∃ octets, authorization signatures = .ok octets ∧
      octets.length = 65 * signatures.length ∧
      (∀ (position : Nat) (below : position < (sortBySigner signatures).length),
        ∃ full, FullSignature.at? octets position = some full ∧
          full.compact (sortBySigner signatures)[position].txHash
            (sortBySigner signatures)[position].signer = .ok (sortBySigner signatures)[position]) ∧
      (sortBySigner signatures).Perm signatures ∧
      (sortBySigner signatures).Pairwise (fun g h => g.signer.toNat ≤ h.signer.toNat) ∧
      ∀ a, (sortBySigner signatures).filter (fun g => g.signer = a) =
        signatures.filter fun g => g.signer = a := by
  refine ⟨_, authorization_of_ne_nil nonempty, ?length, ?rebuilt, perm_sortBySigner signatures,
    pairwise_sortBySigner signatures, filter_sortBySigner signatures⟩
  case length =>
    rw [Signature.length_flatMap_full, (perm_sortBySigner signatures).length_eq]
  case rebuilt =>
    intro position below
    refine ⟨_, (Signature.at?_flatMap_full below).trans (Signature.ofOctets?_full _), ?_⟩
    exact (Signature.ofNumbers_int ..).trans (Signature.ofParts_full _)

/-- Three signatures, two of them of the signer with the greater address, one with the top bit. -/
def Signature.samples : List Signature :=
  [⟨.ofNat 32 3, .ofNat 32 (2 ^ (255 : Nat) + 4), .ofNat 32 5, .ofNat 2⟩,
    ⟨.ofNat 32 6, .ofNat 32 7, .ofNat 32 5, .ofNat 1⟩,
    ⟨.ofNat 32 3, .ofNat 32 4, .ofNat 32 8, .ofNat 2⟩]

/-- Each sample is made again from some piece, and the two of one signer stay in their order. -/
theorem authorization_lossless_sample :
    ∃ octets, authorization Signature.samples = .ok octets ∧ octets.length = 195 ∧
      (∀ g ∈ Signature.samples, ∃ position full, FullSignature.at? octets position = some full ∧
        full.compact g.txHash g.signer = .ok g) ∧
      ((sortBySigner Signature.samples).filter fun g => g.signer = .ofNat 2).map (·.v) =
        [28, 27] := by
  have nonempty : Signature.samples ≠ [] := List.cons_ne_nil _ _
  obtain ⟨octets, made, length, rebuilt, sameItems, -, kept⟩ := authorization_lossless nonempty
  refine ⟨octets, made, length, ?_, ?_⟩
  · intro g isSample
    obtain ⟨position, below, rfl⟩ := List.getElem_of_mem (sameItems.mem_iff.2 isSample)
    exact ⟨position, rebuilt position below⟩
  · rw [kept]
    decide

end MultisigQueue
