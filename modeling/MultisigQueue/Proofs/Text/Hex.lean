/-
Module: MultisigQueue.Proofs.Text.Hex
Purpose: Hexadecimal text and the spelling of addresses, written and read.
Main exports:
  Hex.digit_of_value?, Hex.pairs_digits, Hex.digits_of_pairs, Hex.parseChars_of_lowered,
  Address.ofText?_lowercase, Address.lowercase_of_ofText?, Address.ofText?_eq_some_iff,
  Address.ofText?_checksummed, Address.checksummed_injective, Address.ofCased?_checked_iff,
  Address.ofCased?_checksummed, Address.ofCased?_lowercase
-/
import MultisigQueue.Address

namespace MultisigQueue

/-!
What is written in digits is read back, and what is read from digits is written again in lowercase.
So every spelling of an address has one normal form, which is a spelling of the same address.
-/

namespace Hex

theorem value?_digit : ∀ {n : Nat}, n < 16 → value? (digit n) = some n := by decide

theorem isSpace_digit : ∀ {n : Nat}, n < 16 → isSpace (digit n) = false := by decide

/-- No character outside ASCII is a digit. -/
theorem value?_eq_none {c : Char} (beyond : 128 ≤ c.toNat) : value? c = none := by
  have above : ∀ {d : Char}, d.toNat < 128 → ¬c ≤ d := by
    intro d ascii below
    have ordered := UInt32.le_iff_toNat_le.1 (Char.le_def.1 below)
    exact absurd ordered (Nat.not_le.2 (Nat.lt_of_lt_of_le ascii beyond))
  have nine : ¬c ≤ '9' := above (by decide)
  have small : ¬c ≤ 'f' := above (by decide)
  have capital : ¬c ≤ 'F' := above (by decide)
  simp [value?, nine, small, capital]

theorem ascii_of_value? {c : Char} {n : Nat} (read : value? c = some n) : c.toNat < 128 := by
  rcases Nat.lt_or_ge c.toNat 128 with ascii | beyond
  · exact ascii
  · rw [value?_eq_none beyond] at read
    cases read

/-- A digit is no white space, and in lowercase it is the one that is written for its value. -/
theorem digit_of_value? {c : Char} {n : Nat} (read : value? c = some n) :
    n < 16 ∧ digit n = c.toLower ∧ isSpace c = false := by
  have each : ∀ code < 128, (value? (Char.ofNat code)).all fun n =>
      n < 16 ∧ digit n = (Char.ofNat code).toLower ∧ isSpace (Char.ofNat code) = false := by
    decide
  have this := each c.toNat (ascii_of_value? read)
  rw [Char.ofNat_toNat, read] at this
  exact of_decide_eq_true this

/-- The halves of an octet are values of digits. -/
theorem halves_lt (x : UInt8) : x.toNat / 16 < 16 ∧ x.toNat % 16 < 16 := by
  have small : x.toNat < 256 := x.toNat_lt
  omega

/-- The digits of a byte string spell it. -/
theorem pairs_digits (position : Nat) (b : Bytes) : pairs position (digits b) = .ok b := by
  induction b generalizing position with
  | nil => rfl
  | cons x rest ih =>
      obtain ⟨high, low⟩ := halves_lt x
      have whole : x.toNat / 16 * 16 + x.toNat % 16 = x.toNat := by omega
      simp only [digits, pairs, isSpace_digit high, value?_digit high, value?_digit low, ih, whole,
        UInt8.ofNat_toNat]
      rfl

/-- A pair of digits spells one octet in front of what the rest spells. -/
theorem pairs_cons_cons {c d : Char} {high low : Nat} (first : value? c = some high)
    (second : value? d = some low) (position : Nat) (rest : List Char) :
    pairs position (c :: d :: rest) =
      (pairs (position + 2) rest).map fun b => UInt8.ofNat (high * 16 + low) :: b := by
  simp only [pairs, (digit_of_value? first).2.2, first, second]
  cases pairs (position + 2) rest <;> rfl

/-- The halves of an octet are the values it is put together from. -/
theorem halves_ofNat {high low : Nat} (highFits : high < 16) (lowFits : low < 16) :
    (UInt8.ofNat (high * 16 + low)).toNat / 16 = high ∧
      (UInt8.ofNat (high * 16 + low)).toNat % 16 = low := by
  have octet : (UInt8.ofNat (high * 16 + low)).toNat = high * 16 + low := by
    rw [UInt8.toNat_ofNat']
    omega
  omega

/-- The digits of an octet are those of the values it is put together from. -/
theorem digits_cons_ofNat {high low : Nat} (highFits : high < 16) (lowFits : low < 16) (b : Bytes) :
    digits (UInt8.ofNat (high * 16 + low) :: b) = digit high :: digit low :: digits b := by
  obtain ⟨upper, lower⟩ := halves_ofNat highFits lowFits
  rw [digits, upper, lower]

/-- Digits that spell a byte string are, in lowercase, the digits of the byte string. -/
theorem digits_of_pairs : (position : Nat) → (body : List Char) → (b : Bytes) →
    (∀ c ∈ body, (value? c).isSome) → pairs position body = .ok b →
    digits b = body.map Char.toLower
  | _, [], _, _, spelled => by
      cases spelled
      rfl
  | position, [c], _, each, spelled => by
      obtain ⟨n, read⟩ := Option.isSome_iff_exists.1 (each c List.mem_cons_self)
      simp [pairs, (digit_of_value? read).2.2, read] at spelled
  | position, c :: d :: rest, b, each, spelled => by
      obtain ⟨high, first⟩ := Option.isSome_iff_exists.1 (each c List.mem_cons_self)
      obtain ⟨low, second⟩ :=
        Option.isSome_iff_exists.1 (each d (List.mem_cons_of_mem c List.mem_cons_self))
      rw [pairs_cons_cons first second] at spelled
      cases later : pairs (position + 2) rest with
      | error place =>
          rw [later] at spelled
          cases spelled
      | ok others =>
          rw [later] at spelled
          cases spelled
          have behind := digits_of_pairs (position + 2) rest others
            (fun e member => each e (List.mem_cons_of_mem c (List.mem_cons_of_mem d member))) later
          obtain ⟨highFits, highShown, -⟩ := digit_of_value? first
          obtain ⟨lowFits, lowShown, -⟩ := digit_of_value? second
          rw [digits_cons_ofNat highFits lowFits, highShown, lowShown, behind]
          rfl

/-- What holds of each digit holds of the digits of a byte string. -/
theorem forall_mem_digits (P : Char → Prop) (each : ∀ n < 16, P (digit n)) (b : Bytes) :
    ∀ c ∈ digits b, P c := by
  induction b with
  | nil => exact List.forall_mem_nil P
  | cons x rest ih =>
      obtain ⟨high, low⟩ := halves_lt x
      exact List.forall_mem_cons.2 ⟨each _ high, List.forall_mem_cons.2 ⟨each _ low, ih⟩⟩

theorem value?_of_mem_digits {b : Bytes} {c : Char} (member : c ∈ digits b) :
    (value? c).isSome := by
  refine forall_mem_digits (fun c => (value? c).isSome) (fun n fits => ?_) b c member
  rw [value?_digit fits]
  rfl

theorem isUpper_of_mem_digits {b : Bytes} {c : Char} (member : c ∈ digits b) :
    c.isUpper = false := by
  have each : ∀ n < 16, (digit n).isUpper = false := by decide
  exact forall_mem_digits (fun c => c.isUpper = false) each b c member

/-- Outside ASCII no letter is folded. -/
theorem toLower_of_beyond {c : Char} (beyond : 128 ≤ c.toNat) : c.toLower = c := by
  apply dif_neg
  rintro ⟨-, capital⟩
  have least := UInt32.le_iff_toNat_le.1 capital
  exact absurd (Nat.le_trans beyond least) (by decide)

/-- A character has the same value in lowercase. -/
theorem value?_toLower (c : Char) : value? c.toLower = value? c := by
  rcases Nat.lt_or_ge c.toNat 128 with ascii | beyond
  · have each : ∀ code < 128,
        value? (Char.ofNat code).toLower = value? (Char.ofNat code) := by
      decide
    have this := each c.toNat ascii
    rwa [Char.ofNat_toNat] at this
  · rw [toLower_of_beyond beyond]

/-- Characters that are in lowercase the digits of a byte string spell it. -/
theorem pairs_of_lowered {b : Bytes} {body : List Char} (position : Nat)
    (lowered : body.map Char.toLower = digits b) : pairs position body = .ok b := by
  induction b generalizing position body with
  | nil =>
      rw [List.map_eq_nil_iff.1 lowered]
      rfl
  | cons x rest ih =>
      rcases List.map_eq_cons_iff.1 lowered with ⟨c, _, rfl, first, behind⟩
      rcases List.map_eq_cons_iff.1 behind with ⟨d, others, rfl, second, later⟩
      rcases halves_lt x with ⟨high, low⟩
      have upper : value? c = some (x.toNat / 16) := by
        rw [← value?_toLower, first, value?_digit high]
      have lower : value? d = some (x.toNat % 16) := by
        rw [← value?_toLower, second, value?_digit low]
      have whole : x.toNat / 16 * 16 + x.toNat % 16 = x.toNat := by omega
      rw [pairs_cons_cons upper lower, ih (position + 2) later, whole, UInt8.ofNat_toNat]
      rfl

/-- Each of the characters that are in lowercase the digits of a byte string is a digit. -/
theorem value?_of_lowered {b : Bytes} {body : List Char}
    (lowered : body.map Char.toLower = digits b) {c : Char} (member : c ∈ body) :
    (value? c).isSome := by
  rw [← value?_toLower]
  apply value?_of_mem_digits (b := b)
  rw [← lowered]
  exact List.mem_map_of_mem member

theorem length_of_lowered {b : Bytes} {body : List Char}
    (lowered : body.map Char.toLower = digits b) : body.length = 2 * b.length := by
  rw [← length_digits, ← lowered, List.length_map]

/-- A text is read as a byte string if it has its digits, in either case and marked or not. -/
theorem parseChars_of_lowered {b : Bytes} {chars : List Char}
    (lowered : (unmark chars).map Char.toLower = digits b) : parseChars chars = .ok b := by
  have even : ¬(unmark chars).length % 2 ≠ 0 := by
    rw [length_of_lowered lowered, Nat.mul_mod_right]
    exact not_not_intro rfl
  have ascii : (unmark chars).findIdx? (fun c => 128 ≤ c.toNat) = none := by
    rw [List.findIdx?_eq_none_iff]
    intro c member
    apply decide_eq_false
    intro beyond
    have digit := value?_of_lowered lowered member
    rw [value?_eq_none beyond] at digit
    cases digit
  simp only [parseChars, if_neg even, ascii, pairs_of_lowered 0 lowered]
  rfl

end Hex

namespace Address

theorem unmark_lowercase (a : Address) :
    Hex.unmark (String.toList a.lowercase) = Hex.digits a.bytes := by
  simp [lowercase, Hex.ofBytes, Hex.unmark]

/-- The lowercase spelling of an address is read as the address. -/
@[simp] theorem ofText?_lowercase (a : Address) : ofText? a.lowercase = some a := by
  have length : (Hex.digits a.bytes).length = 40 := by
    rw [Hex.length_digits, a.length_eq]
  have every : (Hex.digits a.bytes).all (fun c => (Hex.value? c).isSome) = true :=
    List.all_eq_true.2 fun c member => Hex.value?_of_mem_digits member
  rw [ofText?, ofChars?, unmark_lowercase, if_pos ⟨length, every⟩, Hex.pairs_digits]
  exact FixedBytes.ofBytes?_bytes a

/-- A text with its digits in lowercase behind a mark, whether or not it had one. -/
def normalText (text : String) : String :=
  String.ofList ('0' :: 'x' :: (Hex.unmark text.toList).map Char.toLower)

/-- An address is spelled in lowercase as any text from which it is read. -/
theorem lowercase_of_ofText? {text : String} {a : Address} (read : ofText? text = some a) :
    a.lowercase = normalText text := by
  simp only [ofText?, ofChars?] at read
  split at read
  · rename_i digits
    split at read
    · rename_i b spelled
      have each := List.all_eq_true.1 digits.2
      rw [lowercase, FixedBytes.bytes_of_ofBytes? read, normalText, Hex.ofBytes,
        Hex.digits_of_pairs 0 _ b each spelled]
    · cases read
  · cases read

/-- The texts with the same digits in lowercase as an address are the ones it is read from. -/
theorem ofText?_eq_some_iff {text : String} {a : Address} :
    ofText? text = some a ↔ normalText text = a.lowercase := by
  constructor
  · intro read
    exact (lowercase_of_ofText? read).symm
  · intro normal
    have marked := String.ofList_injective normal
    have lowered := (List.cons.inj (List.cons.inj marked).2).2
    have length : (Hex.unmark text.toList).length = 40 := by
      rw [Hex.length_of_lowered lowered, a.length_eq]
    have every : (Hex.unmark text.toList).all (fun c => (Hex.value? c).isSome) = true :=
      List.all_eq_true.2 fun c member => Hex.value?_of_lowered lowered member
    rw [ofText?, ofChars?, if_pos ⟨length, every⟩, Hex.pairs_of_lowered 0 lowered]
    exact FixedBytes.ofBytes?_bytes a

theorem length_nibbles (b : Bytes) : (nibbles b).length = 2 * b.length := by
  induction b with
  | nil => rfl
  | cons x rest ih =>
      rw [nibbles, List.flatMap_cons, List.length_append, ← nibbles, ih, List.length_cons]
      simp only [List.length_cons, List.length_nil]
      omega

/-- A digit in any case is the same digit in lowercase. -/
theorem toLower_cased {n : Nat} (fits : n < 16) (nibble : Nat) :
    (cased (Hex.digit n) nibble).toLower = Hex.digit n := by
  have small : ∀ n < 16, (Hex.digit n).toLower = Hex.digit n := by decide
  have capital : ∀ n < 16, (Hex.digit n).toUpper.toLower = Hex.digit n := by decide
  rw [cased]
  split
  · exact capital n fits
  · exact small n fits

/-- Digits in whatever cases are the same digits in lowercase. -/
theorem map_toLower_cased (b : Bytes) {places : List Nat} (enough : 2 * b.length ≤ places.length) :
    (List.zipWith cased (Hex.digits b) places).map Char.toLower = Hex.digits b := by
  induction b generalizing places with
  | nil => rfl
  | cons x rest ih =>
      obtain ⟨high, low⟩ := Hex.halves_lt x
      simp only [List.length_cons] at enough
      match places with
      | [] | [_] =>
          simp only [List.length_cons, List.length_nil] at enough
          omega
      | first :: second :: others =>
          have later : 2 * rest.length ≤ others.length := by
            simp only [List.length_cons] at enough
            omega
          simp only [Hex.digits, List.zipWith_cons_cons, List.map_cons, toLower_cased high,
            toLower_cased low, ih later]

/-- The checksummed spelling of an address is read as the address. -/
@[simp] theorem ofText?_checksummed (a : Address) : ofText? a.checksummed = some a := by
  have enough : 2 * a.bytes.length ≤ (nibbles a.caseDigest.bytes).length := by
    rw [length_nibbles, a.length_eq, a.caseDigest.length_eq]
    decide
  rw [ofText?_eq_some_iff, normalText, checksummed, String.toList_ofList, Hex.unmark, digits,
    map_toLower_cased a.bytes enough]
  rfl

theorem checksummed_injective {a b : Address} (same : a.checksummed = b.checksummed) : a = b := by
  have read := ofText?_checksummed a
  rw [same, ofText?_checksummed] at read
  exact (Option.some.inj read).symm

section CaseRule

variable {rule : CaseRule} {text : String} {a : Address}

/-- A text stands for the addresses that it spells, as far as the rule allows. -/
theorem ofCased?_eq_some_iff :
    ofCased? rule text = some a ↔ ofText? text = some a ∧ rule.allows text a = true :=
  Option.filter_eq_some_iff

/-- With the case checked, a text in letters of both cases stands for an address exactly if it is
the checksummed spelling. -/
theorem ofCased?_checked_iff (mixed : isMixed text = true) :
    ofCased? .checked text = some a ↔ text = a.checksummed := by
  rw [ofCased?_eq_some_iff, CaseRule.allows, mixed, Bool.not_true, Bool.false_or, beq_iff_eq]
  constructor
  · exact And.right
  · intro same
    exact ⟨same ▸ ofText?_checksummed a, same⟩

/-- With one letter in the wrong case, a text stands for an address only if the case is ignored. -/
example :
    ofCased? .checked "0x5AAeb6053F3E94C9b9A09f33669435E7Ef1BeAed" = none ∧
      (ofCased? .ignored "0x5AAeb6053F3E94C9b9A09f33669435E7Ef1BeAed").isSome = true := by
  decide +kernel

/-- The checksummed spelling passes every check of the case. -/
@[simp] theorem ofCased?_checksummed (rule : CaseRule) (a : Address) :
    ofCased? rule a.checksummed = some a := by
  refine ofCased?_eq_some_iff.2 ⟨ofText?_checksummed a, ?_⟩
  cases rule <;> simp [CaseRule.allows]

theorem isMixed_lowercase (a : Address) : isMixed a.lowercase = false := by
  have small : (Hex.digits a.bytes).any Char.isUpper = false :=
    List.any_eq_false.2 fun c member => by rw [Hex.isUpper_of_mem_digits member]; decide
  simp only [isMixed, unmark_lowercase, small, Bool.and_false]

/-- So does the spelling in small letters. -/
@[simp] theorem ofCased?_lowercase (rule : CaseRule) (a : Address) :
    ofCased? rule a.lowercase = some a := by
  refine ofCased?_eq_some_iff.2 ⟨ofText?_lowercase a, ?_⟩
  cases rule <;> simp [CaseRule.allows, isMixed_lowercase]

end CaseRule

end Address

end MultisigQueue
