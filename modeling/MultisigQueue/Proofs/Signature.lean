/-
Module: MultisigQueue.Proofs.Signature
Purpose: Which three numbers make a compact signature, and that it gives them back.
Main exports:
  Signature.AreFull, Signature.HasNumbers, Signature.compact_of_areFull,
  Signature.compact_of_not_areFull, Signature.ofNumbers_bijection
-/
import MultisigQueue.Proofs.Authorization

namespace MultisigQueue

/-!
The second word of a compact signature has room for a parity and for 255 bits of `s`. So three
numbers make a compact signature exactly if `r` fits into a word, `s` into 255 bits, and the last of
them stands for a parity, of which there are two spellings. Nothing is lost by it: the numbers are
read off the words again, the recovery identifier as it stands in a full signature.
-/

namespace Signature

/-- Whether three numbers are those of a full signature. -/
structure AreFull (r s v : Int) : Prop where
  r_mem : 0 ≤ r ∧ r < 2 ^ (256 : Nat)
  s_mem : 0 ≤ s ∧ s < 2 ^ (255 : Nat)
  v_mem : v ∈ recoveryIds

/-- Whether a compact signature has the numbers of a full one: its words and the parity are of these
numbers, and so are the 65 octets of its full form. -/
structure HasNumbers (g : Signature) (r s v : Int) : Prop where
  r_eq : g.r.toNat = r
  s_eq : g.s.toNat = s
  parity_eq : g.yParity = v % 27
  full_eq : g.full =
    Bytes.ofNat 32 r.toNat ++ Bytes.ofNat 32 s.toNat ++ [UInt8.ofNat (27 + g.yParity)]

/-! ### The numbers one by one -/

/-- A recovery identifier stands for its remainder by 27. -/
theorem parityOf_of_mem {v : Int} (known : v ∈ recoveryIds) :
    parityOf v = .ok (v % 27).toNat ∧ (v % 27).toNat < 2 := by
  simp only [recoveryIds, List.mem_cons, List.not_mem_nil, or_false] at known
  rcases known with rfl | rfl | rfl | rfl <;> exact ⟨rfl, by decide⟩

theorem parityOf_of_not_mem {v : Int} (unknown : v ∉ recoveryIds) :
    parityOf v = .error (.recoveryId (.int v)) := by
  simp only [recoveryIds, List.mem_cons, List.not_mem_nil, or_false, not_or] at unknown
  obtain ⟨no0, no1, no27, no28⟩ := unknown
  rw [parityOf, if_neg (not_or.2 ⟨no0, no27⟩), if_neg (not_or.2 ⟨no1, no28⟩)]

theorem wordOfNumber_of_mem {n : Int} (fits : 0 ≤ n ∧ n < 2 ^ (256 : Nat)) :
    wordOfNumber n = .ok (.ofNat 32 n.toNat) := by
  rw [wordOfNumber, if_neg (Int.not_lt.2 fits.1), if_neg (Int.not_le.2 fits.2)]

/-- A number that does not fit into a word is refused as one that is too large or negative. -/
theorem wordOfNumber_of_not_mem {n : Int} (beyond : ¬(0 ≤ n ∧ n < 2 ^ (256 : Nat))) :
    ∃ e, wordOfNumber n = .error e ∧ e.sort = .overflow := by
  by_cases negative : n < 0
  · exact ⟨.negativeNumber, if_pos negative, rfl⟩
  · have large : 2 ^ (256 : Nat) ≤ n := by
      by_contra small
      exact beyond ⟨Int.not_lt.1 negative, Int.not_le.1 small⟩
    exact ⟨.tooBig, by rw [wordOfNumber, if_neg negative, if_pos large], rfl⟩

/-! ### The numbers together -/

/-- The numbers of a full signature make two words: one of `r`, and one of the parity and `s`. -/
theorem compact_of_areFull {r s v : Int} (full : AreFull r s v) :
    compact r s v = .ok (.ofNat 32 r.toNat,
      .ofNat 32 ((v % 27).toNat * 2 ^ (255 : Nat) + s.toNat)) := by
  simp only [compact, (parityOf_of_mem full.v_mem).1, wordOfNumber_of_mem full.r_mem, secondWord,
    if_neg (Int.not_lt.2 full.s_mem.1), if_neg (Int.not_le.2 full.s_mem.2), bind, Except.bind]
  rfl

/-- Other numbers are refused: as a bad value if the recovery identifier is unknown or `s` has more
than 255 bits, and else because `r` or `s` is out of range. -/
theorem compact_of_not_areFull {r s v : Int} (other : ¬AreFull r s v) :
    ∃ e, compact r s v = .error e ∧
      e.sort = if v ∈ recoveryIds ∧ s < 2 ^ (255 : Nat) then .overflow else .value := by
  by_cases known : v ∈ recoveryIds
  · by_cases small : s < 2 ^ (255 : Nat)
    · rw [if_pos ⟨known, small⟩]
      simp only [compact, (parityOf_of_mem known).1, if_neg (Int.not_le.2 small), bind, Except.bind]
      by_cases fits : 0 ≤ r ∧ r < 2 ^ (256 : Nat)
      · have negative : s < 0 := by
          by_contra least
          exact other ⟨fits, ⟨Int.not_lt.1 least, small⟩, known⟩
        refine ⟨.negativeNumber, ?_, rfl⟩
        simp only [wordOfNumber_of_mem fits, secondWord, if_pos negative]
      · obtain ⟨e, fails, overflow⟩ := wordOfNumber_of_not_mem fits
        refine ⟨e, ?_, overflow⟩
        simp only [fails]
    · refine ⟨.sRange, ?_, ?_⟩
      · simp only [compact, (parityOf_of_mem known).1, if_pos (Int.not_lt.1 small), bind,
          Except.bind]
        rfl
      · rw [if_neg fun both => small both.2]
        rfl
  · refine ⟨.recoveryId (.int v), ?_, ?_⟩
    · simp only [compact, parityOf_of_not_mem known, bind, Except.bind]
    · rw [if_neg fun both => known both.1]
      rfl

/-- A word of a parity and of 255 bits is cut into them again. -/
theorem cut_secondWord {parity low : Nat} (isParity : parity < 2) (fits : low < 2 ^ (255 : Nat)) :
    (FixedBytes.ofNat 32 (parity * 2 ^ (255 : Nat) + low)).toNat / 2 ^ (255 : Nat) = parity ∧
      (FixedBytes.ofNat 32 (parity * 2 ^ (255 : Nat) + low)).toNat % 2 ^ (255 : Nat) = low := by
  have room : (256 : Nat) ^ (32 : Nat) = 2 * 2 ^ (255 : Nat) := by decide
  have whole : (FixedBytes.ofNat 32 (parity * 2 ^ (255 : Nat) + low)).toNat =
      parity * 2 ^ (255 : Nat) + low := FixedBytes.toNat_ofNat (by omega)
  rw [whole]
  omega

/-- What is made of the numbers of a full signature has these numbers. -/
theorem hasNumbers_of_areFull {r s v : Int} (full : AreFull r s v) (txHash : Word)
    (owner : Address) :
    HasNumbers ⟨.ofNat 32 r.toNat, .ofNat 32 ((v % 27).toNat * 2 ^ (255 : Nat) + s.toNat), txHash,
      owner⟩ r s v := by
  obtain ⟨r_mem, s_mem, v_mem⟩ := full
  have word : (256 : Nat) ^ (32 : Nat) = 2 ^ (256 : Nat) := by decide
  have below : s.toNat < 2 ^ (255 : Nat) := by omega
  obtain ⟨top, low⟩ := cut_secondWord (parityOf_of_mem v_mem).2 below
  refine ⟨?r, ?s, ?parity, ?octets⟩
  case r =>
    rw [FixedBytes.toNat_ofNat (by omega), Int.toNat_of_nonneg r_mem.1]
  case s =>
    rw [Signature.s, low, FixedBytes.toNat_ofNat (by omega), Int.toNat_of_nonneg s_mem.1]
  case parity =>
    rw [yParity, top, Int.toNat_of_nonneg (Int.emod_nonneg v (by decide))]
  case octets =>
    rw [Signature.full, Signature.s, low]
    rfl

section Parts

variable {hash signer : Value} {txHash : Word} {owner : Address}

/-- Numbers are put together as they are if hash and signer can be read. -/
theorem ofNumbers_eq (hashRead : hash.toWord = .ok txHash)
    (signerRead : signer.toAddress = .ok owner) (r s v : Int) :
    ofNumbers (.int r) (.int s) (.int v) hash signer =
      (compact r s v).map fun words => ⟨words.1, words.2, txHash, owner⟩ := by
  rw [ofNumbers_int, ofParts]
  cases compact r s v with
  | error e => rfl
  | ok words => simp only [bind, Except.bind, hashRead, signerRead, Except.map, pure, Except.pure]

/-- Three integers make a compact signature exactly if `r` fits into 256 bits and `s` into 255, and
if the last is 0, 1, 27 or 28; all others are refused as bad values or as numbers out of range. What
is made has the numbers, and it is made again from them whichever signature it is. -/
theorem ofNumbers_bijection (hashRead : hash.toWord = .ok txHash)
    (signerRead : signer.toAddress = .ok owner) :
    (∀ r s v : Int,
      ((∃ g, ofNumbers (.int r) (.int s) (.int v) hash signer = .ok g) ↔ AreFull r s v) ∧
      (∀ g, ofNumbers (.int r) (.int s) (.int v) hash signer = .ok g →
        g.HasNumbers r s v ∧ g.txHash = txHash ∧ g.signer = owner) ∧
      ∀ e, ofNumbers (.int r) (.int s) (.int v) hash signer = .error e →
        e.sort = .value ∨ e.sort = .overflow) ∧
    ∀ g : Signature, g.txHash = txHash → g.signer = owner →
      ofNumbers (.int g.r.toNat) (.int g.s.toNat) (.int g.v) hash signer = .ok g := by
  constructor
  · intro r s v
    rw [ofNumbers_eq hashRead signerRead]
    by_cases full : AreFull r s v
    · rw [compact_of_areFull full]
      refine ⟨iff_of_true ⟨_, rfl⟩ full, ?numbers, ?fails⟩
      case numbers =>
        rintro g ⟨⟩
        exact ⟨hasNumbers_of_areFull full txHash owner, rfl, rfl⟩
      case fails =>
        rintro e ⟨⟩
    · obtain ⟨e, fails, sort⟩ := compact_of_not_areFull full
      rw [fails]
      refine ⟨iff_of_false ?made full, ?numbers, ?fails⟩
      case made => rintro ⟨g, ⟨⟩⟩
      case numbers => rintro g ⟨⟩
      case fails =>
        rintro _ ⟨⟩
        rw [sort]
        split
        · exact .inr rfl
        · exact .inl rfl
  · rintro g rfl rfl
    rw [ofNumbers_eq hashRead signerRead, v, compact_full]
    rfl

/-- The greatest numbers make a signature, which is made again from its full form. With one more `s`
is refused, and so is an `r` below zero. -/
theorem ofNumbers_bijection_sample :
    let ofHere (r s v : Int) := ofNumbers (.int r) (.int s) (.int v)
      (.bytes (FixedBytes.ofNat 32 5).bytes) (.text (Address.ofNat 2).checksummed)
    (∃ g, ofHere (2 ^ (256 : Nat) - 1) (2 ^ (255 : Nat) - 1) 28 = .ok g ∧
      g.HasNumbers (2 ^ (256 : Nat) - 1) (2 ^ (255 : Nat) - 1) 28 ∧
      ofHere g.r.toNat g.s.toNat g.v = .ok g) ∧
    (¬∃ g, ofHere 3 (2 ^ (255 : Nat)) 28 = .ok g) ∧ ¬∃ g, ofHere (-1) 4 0 = .ok g := by
  have hashRead : (Value.bytes (FixedBytes.ofNat 32 5).bytes).toWord = .ok (.ofNat 32 5) := rfl
  have signerRead : (Value.text (Address.ofNat 2).checksummed).toAddress = .ok (.ofNat 2) := by
    rw [Value.toAddress, Address.ofText?_checksummed]
  obtain ⟨made, again⟩ := ofNumbers_bijection hashRead signerRead
  refine ⟨?greatest, ?tooLarge, ?negative⟩
  case greatest =>
    obtain ⟨succeeds, has, -⟩ := made (2 ^ (256 : Nat) - 1) (2 ^ (255 : Nat) - 1) 28
    obtain ⟨g, isMade⟩ := succeeds.2 ⟨by decide, by decide, by decide⟩
    obtain ⟨numbers, ofHash, ofOwner⟩ := has g isMade
    exact ⟨g, isMade, numbers, again g ofHash ofOwner⟩
  case tooLarge => exact fun isMade => absurd ((made _ _ _).1.1 isMade).s_mem (by decide)
  case negative => exact fun isMade => absurd ((made _ _ _).1.1 isMade).r_mem (by decide)

end Parts

end Signature

end MultisigQueue
