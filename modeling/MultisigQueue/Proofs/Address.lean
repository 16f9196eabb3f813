/-
Module: MultisigQueue.Proofs.Address
Purpose: The checksummed spelling as the one normal form of every spelling of an address.
Main exports:
  Hex.smallDigits, Text.lowered_eq_iff, Address.IsSpelling, Address.Denotes,
  Address.ofChars?_eq_some_iff, Value.IsNormal, Value.normalAddress_canonical
-/
import MultisigQueue.Proofs.Safe
import MultisigQueue.Proofs.Transaction.Request
import MultisigQueue.Text.LetterCase

namespace MultisigQueue

/-!
What a text spells is said of its small letters, in whatever script they are, while an address is
read by folding the letters of ASCII alone. Both come to the same: nothing outside ASCII has a
counterpart that is made of digits and of the letter of the mark. That holds of a capital sigma too,
whichever of its two small letters is meant.
-/

/-- The digits in small letters. -/
def Hex.smallDigits : List Char := "0123456789abcdef".toList

namespace Text

/-- The characters that a spelling of an address is made of, in small letters. -/
def spellingChars : List Char := 'x' :: Hex.smallDigits

/-- The only letter beyond ASCII whose shift leads to a letter before `y` is the Kelvin sign, and
that leads to a `k`. -/
theorem run_of_smalls : ∀ run ∈ smallRuns, run.last < 128 ∨ 120 < run.first + run.shift ∨
    run.first = run.last ∧ run.first + run.shift = 107 := by
  decide +kernel

theorem code_of_mem_spellingChars {d : Char} (member : d ∈ spellingChars) :
    0 < d.toNat ∧ d.toNat ≤ 120 ∧ d.toNat ≠ 107 := by
  have each : spellingChars.all fun d => 0 < d.toNat ∧ d.toNat ≤ 120 ∧ d.toNat ≠ 107 := by decide
  exact of_decide_eq_true (List.all_eq_true.1 each d member)

/-- Only a number that is no code point is made the null character. -/
theorem toNat_ofNat_of_pos {n : Nat} (positive : 0 < (Char.ofNat n).toNat) :
    (Char.ofNat n).toNat = n := by
  by_cases valid : n.isValidChar
  · rw [Char.ofNat, dif_pos valid]
    rfl
  · rw [Char.ofNat, dif_neg valid] at positive
    cases positive

/-- In small letters, what is outside ASCII is not made of the characters of a spelling alone. -/
theorem exists_mem_smalls_of_beyond {c : Char} (beyond : 128 ≤ c.toNat) :
    ∃ d ∈ smalls.apply c, d ∉ spellingChars := by
  rw [CaseTable.apply]
  cases spelt : smalls.spellings.find? fun entry => entry.1 == c.toNat with
  | some entry =>
      have found : entry ∈ smallSpellings := List.mem_of_find?_eq_some spelt
      rw [smallSpellings, List.mem_singleton] at found
      subst found
      exact ⟨Char.ofNat 0x69, by simp, by decide⟩
  | none =>
      cases shifted : smalls.runs.find? fun run => run.holds c.toNat with
      | some run =>
          refine ⟨Char.ofNat (run.moved c.toNat), by simp, fun spelling => ?_⟩
          obtain ⟨positive, small, notKelvin⟩ := code_of_mem_spellingChars spelling
          have within := List.find?_some shifted
          simp only [CaseRun.holds, Bool.and_eq_true, decide_eq_true_eq] at within
          obtain ⟨⟨above, below⟩, -⟩ := within
          rw [toNat_ofNat_of_pos positive, CaseRun.moved] at small notKelvin
          have led := run_of_smalls run (List.mem_of_find?_eq_some shifted)
          omega
      | none =>
          refine ⟨c, by simp, fun spelling => ?_⟩
          have small := (code_of_mem_spellingChars spelling).2.1
          omega

theorem smalls_of_ascii {c : Char} (ascii : c.toNat < 128) : smalls.apply c = [c.toLower] := by
  have known := smalls_ascii c.toNat ascii
  rwa [Char.ofNat_toNat] at known

/-- For what can be part of a spelling it does not matter which of the letters are folded. -/
theorem lowered_eq_iff {chars small : List Char} (spelling : ∀ d ∈ small, d ∈ spellingChars) :
    lowered chars = small ↔ chars.map Char.toLower = small := by
  induction chars generalizing small with
  | nil => exact Iff.rfl
  | cons c rest ih =>
      have split : lowered (c :: rest) = smalls.apply c ++ lowered rest := List.flatMap_cons
      rw [split, List.map_cons]
      rcases Nat.lt_or_ge c.toNat 128 with ascii | beyond
      · rw [smalls_of_ascii ascii, List.singleton_append]
        cases small with
        | nil => exact ⟨nofun, nofun⟩
        | cons d others =>
            rw [List.cons.injEq, List.cons.injEq,
              ih fun e member => spelling e (List.mem_cons_of_mem d member)]
      · constructor
        · intro same
          obtain ⟨d, member, foreign⟩ := exists_mem_smalls_of_beyond beyond
          subst same
          exact absurd (spelling d (List.mem_append_left _ member)) foreign
        · intro same
          subst same
          have small := (code_of_mem_spellingChars (spelling _ List.mem_cons_self)).2.1
          rw [Hex.toLower_of_beyond beyond] at small
          omega

end Text

namespace Hex

theorem smallDigits_eq : smallDigits = (List.range 16).map digit := by decide +kernel

theorem mem_smallDigits_digit {n : Nat} (fits : n < 16) : digit n ∈ smallDigits := by
  rw [smallDigits_eq]
  exact List.mem_map_of_mem (List.mem_range.2 fits)

theorem mem_smallDigits_of_mem {b : Bytes} {c : Char} (member : c ∈ digits b) :
    c ∈ smallDigits :=
  forall_mem_digits (· ∈ smallDigits) (fun _ fits => mem_smallDigits_digit fits) b c member

theorem exists_digit {c : Char} (member : c ∈ smallDigits) : ∃ n < 16, digit n = c := by
  rw [smallDigits_eq] at member
  obtain ⟨n, fits, shown⟩ := List.mem_map.1 member
  exact ⟨n, List.mem_range.1 fits, shown⟩

/-- An even number of small digits are the digits of a byte string. -/
theorem exists_digits {n : Nat} {body : List Char} (length : body.length = 2 * n)
    (small : ∀ c ∈ body, c ∈ smallDigits) : ∃ b : Bytes, b.length = n ∧ digits b = body := by
  induction n generalizing body with
  | zero => exact ⟨[], rfl, (List.length_eq_zero_iff.1 length).symm⟩
  | succ n ih =>
      match body with
      | [] | [_] =>
          simp only [List.length_cons, List.length_nil] at length
          omega
      | c :: d :: rest =>
          obtain ⟨high, highFits, rfl⟩ := exists_digit (small c (by simp))
          obtain ⟨low, lowFits, rfl⟩ := exists_digit (small d (by simp))
          obtain ⟨b, short, spelled⟩ := ih
            (by simp only [List.length_cons] at length; omega)
            (fun e (member : e ∈ rest) => small e (by simp [member]))
          refine ⟨UInt8.ofNat (high * 16 + low) :: b, by rw [List.length_cons, short], ?_⟩
          rw [digits_cons_ofNat highFits lowFits, spelled]

end Hex

namespace Address

/-- Whether characters spell an address: in small letters they are 40 digits after an optional
`0x`. -/
def IsSpelling (chars : List Char) : Prop :=
  ∃ body : List Char, body.length = 40 ∧ (∀ c ∈ body, c ∈ Hex.smallDigits) ∧
    (Text.lowered chars = body ∨ Text.lowered chars = '0' :: 'x' :: body)

/-- Whether characters denote these 20 octets: in small letters they are the digits of the octets
after an optional `0x`. -/
def Denotes (chars : List Char) (octets : Bytes) : Prop :=
  octets.length = 20 ∧ (Text.lowered chars = Hex.digits octets ∨
    Text.lowered chars = '0' :: 'x' :: Hex.digits octets)

instance (chars : List Char) (octets : Bytes) : Decidable (Denotes chars octets) :=
  inferInstanceAs (Decidable (_ ∧ _))

/-- What spells an address denotes octets, and nothing else does. -/
theorem isSpelling_iff {chars : List Char} : IsSpelling chars ↔ ∃ octets, Denotes chars octets := by
  constructor
  · rintro ⟨body, length, small, spelled⟩
    obtain ⟨octets, short, rfl⟩ := Hex.exists_digits (n := 20) length small
    exact ⟨octets, short, spelled⟩
  · rintro ⟨octets, short, spelled⟩
    exact ⟨Hex.digits octets, by rw [Hex.length_digits, short],
      fun c member => Hex.mem_smallDigits_of_mem member, spelled⟩

theorem eq_mark_of_toLower : ∀ {c d : Char}, c.toLower = '0' → d.toLower = 'x' →
    c = '0' ∧ (d = 'x' ∨ d = 'X') := by
  have zero : ∀ code < 128, (Char.ofNat code).toLower = '0' → Char.ofNat code = '0' := by decide
  have ex : ∀ code < 128, (Char.ofNat code).toLower = 'x' →
      Char.ofNat code = 'x' ∨ Char.ofNat code = 'X' := by
    decide
  have ascii : ∀ {e f : Char}, f.toNat < 128 → e.toLower = f → e.toNat < 128 := by
    intro e f small same
    rcases Nat.lt_or_ge e.toNat 128 with ascii | beyond
    · exact ascii
    · rw [Hex.toLower_of_beyond beyond] at same
      rwa [same]
  intro c d first second
  have known := zero c.toNat (ascii (by decide) first)
  have mark := ex d.toNat (ascii (by decide) second)
  rw [Char.ofNat_toNat] at known mark
  exact ⟨known first, mark second⟩

/-- Without its mark a text is in lowercase the digits of some octets if, as a whole, it is these
digits in lowercase, or these digits behind a mark. -/
theorem map_toLower_unmark_iff {chars : List Char} {octets : Bytes} :
    (Hex.unmark chars).map Char.toLower = Hex.digits octets ↔
      chars.map Char.toLower = Hex.digits octets ∨
        chars.map Char.toLower = '0' :: 'x' :: Hex.digits octets := by
  have noMark : ∀ rest, Hex.digits octets ≠ '0' :: 'x' :: rest := by
    intro rest same
    have digit := Hex.mem_smallDigits_of_mem (b := octets) (c := 'x') (by rw [same]; simp)
    exact absurd digit (by decide)
  have marked : ∀ {whole rest : List Char},
      whole.map Char.toLower = '0' :: 'x' :: rest.map Char.toLower →
      (rest.map Char.toLower = Hex.digits octets ↔ whole.map Char.toLower = Hex.digits octets ∨
        whole.map Char.toLower = '0' :: 'x' :: Hex.digits octets) := by
    intro whole rest split
    rw [split]
    constructor
    · intro spelled
      exact .inr (by rw [spelled])
    · rintro (same | same)
      · exact absurd same.symm (noMark _)
      · exact (List.cons.inj (List.cons.inj same).2).2
  unfold Hex.unmark
  split
  · exact marked rfl
  · exact marked rfl
  · rename_i notSmall notCapital
    refine ⟨.inl, ?_⟩
    rintro (same | same)
    · exact same
    · obtain ⟨c, behind, rfl, first, later⟩ := List.map_eq_cons_iff.1 same
      obtain ⟨d, rest, rfl, second, -⟩ := List.map_eq_cons_iff.1 later
      obtain ⟨rfl, rfl | rfl⟩ := eq_mark_of_toLower first second
      · exact absurd rfl (notSmall rest)
      · exact absurd rfl (notCapital rest)

theorem mem_spellingChars_digits {octets : Bytes} :
    ∀ d ∈ Hex.digits octets, d ∈ Text.spellingChars :=
  fun _ member => List.mem_cons_of_mem 'x' (Hex.mem_smallDigits_of_mem member)

theorem mem_spellingChars_marked {octets : Bytes} :
    ∀ d ∈ '0' :: 'x' :: Hex.digits octets, d ∈ Text.spellingChars := by
  intro d member
  rcases List.mem_cons.1 member with rfl | behind
  · decide
  · rcases List.mem_cons.1 behind with rfl | digit
    · decide
    · exact mem_spellingChars_digits d digit

/-- What characters denote is seen with the letters of ASCII folded alone. -/
theorem denotes_iff {chars : List Char} {octets : Bytes} :
    Denotes chars octets ↔ octets.length = 20 ∧ (chars.map Char.toLower = Hex.digits octets ∨
      chars.map Char.toLower = '0' :: 'x' :: Hex.digits octets) := by
  rw [Denotes, Text.lowered_eq_iff mem_spellingChars_digits,
    Text.lowered_eq_iff mem_spellingChars_marked]

theorem Denotes.mem_spellingChars {chars : List Char} {octets : Bytes}
    (denotes : Denotes chars octets) {c : Char} (member : c ∈ chars) :
    c.toLower ∈ Text.spellingChars := by
  have folded : c.toLower ∈ chars.map Char.toLower := List.mem_map_of_mem member
  rcases (denotes_iff.1 denotes).2 with bare | marked
  · rw [bare] at folded
    exact mem_spellingChars_digits _ folded
  · rw [marked] at folded
    exact mem_spellingChars_marked _ folded

/-- An address is read from the characters that denote its octets, and from no others. -/
theorem ofChars?_eq_some_iff {chars : List Char} {a : Address} :
    ofChars? chars = some a ↔ Denotes chars a.bytes := by
  have read : ofChars? chars = some a ↔
      (Hex.unmark chars).map Char.toLower = Hex.digits a.bytes := by
    have text := @ofText?_eq_some_iff (String.ofList chars) a
    rw [ofText?, normalText, String.toList_ofList, lowercase, Hex.ofBytes,
      String.ofList_inj, List.cons.injEq, List.cons.injEq] at text
    simpa using text
  rw [read, map_toLower_unmark_iff, denotes_iff]
  exact ⟨fun spelled => ⟨a.length_eq, spelled⟩, And.right⟩

/-- Characters denote the octets of at most one address. -/
theorem Denotes.unique {chars : List Char} {octets others : Bytes}
    (first : Denotes chars octets) (second : Denotes chars others) : octets = others := by
  have read := ofChars?_eq_some_iff (a := ⟨octets, first.1⟩) |>.2 first
  rw [ofChars?_eq_some_iff (a := ⟨others, second.1⟩) |>.2 second] at read
  exact (congrArg FixedBytes.bytes (Option.some.inj read)).symm

theorem denotes_checksummed (a : Address) : Denotes a.checksummed.toList a.bytes :=
  ofChars?_eq_some_iff.1 (ofText?_checksummed a)

end Address

namespace Value

open Address (IsSpelling Denotes)

theorem toAddress_text_iff {s : String} {a : Address} :
    toAddress (.text s) = .ok a ↔ Address.ofText? s = some a := by
  rw [toAddress]
  cases Address.ofText? s <;> simp

/-- An address is read from a text that denotes its octets. Half a character that stands alone is
part of no such text. -/
theorem toAddress_ofPoints {points : List Nat} {a : Address} :
    (ofPoints points).toAddress = .ok a ↔ Denotes (points.map Text.charOf) a.bytes := by
  rw [ofPoints]
  split
  · rename_i halves
    refine iff_of_false nofun fun denotes => ?_
    obtain ⟨half, member, isHalf⟩ := List.any_eq_true.1 halves
    have replaced : Text.charOf half = '\ufffd' := if_pos isHalf
    have spelling := denotes.mem_spellingChars (List.mem_map_of_mem member)
    rw [replaced] at spelling
    exact absurd spelling (by decide)
  · rw [← Address.ofChars?_eq_some_iff, toAddress_text_iff, Address.ofText?, String.toList_ofList]

/-- A text that no address can be read from is refused, and named. -/
theorem toAddress_ofPoints_eq (points : List Nat) :
    (∃ a, (ofPoints points).toAddress = .ok a) ∨
      (ofPoints points).toAddress = .error (.notAddress (ofPoints points)) := by
  cases given : ofPoints points with
  | text s =>
      cases read : Address.ofText? s with
      | some a => exact .inl ⟨a, by rw [toAddress, read]⟩
      | none => exact .inr (by rw [toAddress, read])
  | bytes b =>
      rw [ofPoints] at given
      split at given <;> cases given
  | _ => exact .inr rfl

theorem normalAddress_of_toAddress {v : Value} {a : Address} (read : v.toAddress = .ok a) :
    v.normalAddress = .ok a.checksummed := by
  rw [normalAddress, read]
  rfl

theorem normalAddress_eq_ok_iff {v : Value} {normal : String} :
    v.normalAddress = .ok normal ↔ ∃ a, v.toAddress = .ok a ∧ a.checksummed = normal := by
  rw [normalAddress, bind_eq_ok_iff]
  exact exists_congr fun a => and_congr_right fun _ =>
    ⟨fun same => Except.ok.inj same, fun same => congrArg Except.ok same⟩

/-- The checksummed spelling is one of the address. -/
theorem toAddress_checksummed (a : Address) : toAddress (.text a.checksummed) = .ok a := by
  rw [toAddress, Address.ofText?_checksummed]

theorem addressOctets_of_toAddress {v : Value} {a : Address} (read : v.toAddress = .ok a) :
    v.addressOctets = .ok a.bytes := by
  have lowered := Address.ofText?_eq_some_iff.1 (Address.ofText?_checksummed a)
  have digits := (List.cons.inj (List.cons.inj (String.ofList_injective lowered)).2).2
  rw [addressOctets, normalAddress_of_toAddress read]
  change hexBytes (.text a.checksummed) = _
  rw [hexBytes, hexChars, Hex.parseChars_of_lowered digits]
  rfl

/-- A text that is the normal form of 20 octets: it denotes them, it is its own normal form, and in
calldata it stands for them, whether or not the case of its letters is checked. Where that is
checked, no other text in letters of both cases stands for them. -/
structure IsNormal (normal : String) (octets : Bytes) : Prop where
  denotes : Denotes normal.toList octets
  again : (Value.text normal).normalAddress = .ok normal
  readBack : (Value.text normal).addressOctets = .ok octets
  encoded : ∀ rule name outputs, let f : AbiFunction := { name, inputs := [.address], outputs }
    f.encode [.text normal] rule = .ok (f.selector ++ (Bytes.zeros 12 ++ octets))
  only : ∀ text a, Address.isMixed text = true →
    AbiType.accept? .checked .address (.text text) = some a → a.bytes = octets → text = normal

theorem isNormal_checksummed (a : Address) : IsNormal a.checksummed a.bytes where
  denotes := Address.denotes_checksummed a
  again := normalAddress_of_toAddress (toAddress_checksummed a)
  readBack := addressOctets_of_toAddress (toAddress_checksummed a)
  encoded rule name outputs := by
    have accepted : AbiType.accept? rule .address (.text a.checksummed) = some a :=
      Address.ofCased?_checksummed rule a
    have word : AbiType.encodeAll [.address] (a, ()) = Bytes.zeros 12 ++ a.bytes := by
      simp [AbiType.encodeAll, AbiType.pieces, AbiType.encode, AbiType.isDynamic, Abi.piece,
        Abi.layout, Abi.heads, Abi.tails, Abi.Piece.tail]
    exact AbiFunction.encode_eq_ok_iff.2
      ⟨rfl, (a, ()), AbiType.acceptAll?_cons accepted rfl, congrArg (_ ++ ·) word⟩
  only text b mixed accepted same := by
    have spelled : text = b.checksummed := (Address.ofCased?_checked_iff mixed).1 accepted
    rw [spelled, FixedBytes.ext same]

/-- Exactly the spellings of an address are read as one. -/
theorem isSpelling_iff_toAddress {points : List Nat} :
    IsSpelling (points.map Text.charOf) ↔ ∃ a, (ofPoints points).toAddress = .ok a := by
  rw [Address.isSpelling_iff]
  constructor
  · rintro ⟨octets, denotes⟩
    exact ⟨⟨octets, denotes.1⟩, toAddress_ofPoints.2 denotes⟩
  · rintro ⟨a, read⟩
    exact ⟨a.bytes, toAddress_ofPoints.1 read⟩

/-- Two texts have one checksummed form exactly if they denote the same octets. -/
theorem normalAddress_eq_iff {points others : List Nat} {normal other : String}
    (made : (ofPoints points).normalAddress = .ok normal)
    (otherMade : (ofPoints others).normalAddress = .ok other) :
    normal = other ↔ ∃ octets, Denotes (points.map Text.charOf) octets ∧
      Denotes (others.map Text.charOf) octets := by
  obtain ⟨a, read, rfl⟩ := normalAddress_eq_ok_iff.1 made
  obtain ⟨b, otherRead, rfl⟩ := normalAddress_eq_ok_iff.1 otherMade
  have denotes := toAddress_ofPoints.1 read
  have otherDenotes := toAddress_ofPoints.1 otherRead
  constructor
  · intro same
    rw [Address.checksummed_injective same] at denotes
    exact ⟨b.bytes, denotes, otherDenotes⟩
  · rintro ⟨octets, ofFirst, ofSecond⟩
    have same : a.bytes = b.bytes :=
      (denotes.unique ofFirst).trans (ofSecond.unique otherDenotes)
    rw [FixedBytes.ext same]

/-- Whatever spells an address has a checksummed form and nothing else has, the form is the same for
two texts exactly if they denote the same octets, and the octets are read from it again. -/
theorem normalAddress_canonical (points others : List Nat) (x : Address) :
    ((∃ normal, (ofPoints points).normalAddress = .ok normal) ↔
      IsSpelling (points.map Text.charOf)) ∧
    (¬IsSpelling (points.map Text.charOf) →
      (ofPoints points).normalAddress = .error (.notAddress (ofPoints points)) ∧
      (ofPoints points).addressOctets = .error (.notAddress (ofPoints points)) ∧
      (InputError.notAddress (ofPoints points)).sort = .value) ∧
    (∀ normal, (ofPoints points).normalAddress = .ok normal →
      ∃ octets, Denotes (points.map Text.charOf) octets ∧
        (ofPoints points).addressOctets = .ok octets ∧ IsNormal normal octets) ∧
    (∀ normal other, (ofPoints points).normalAddress = .ok normal →
      (ofPoints others).normalAddress = .ok other →
      (normal = other ↔ ∃ octets, Denotes (points.map Text.charOf) octets ∧
        Denotes (others.map Text.charOf) octets)) ∧
    ∃ normal, (Value.bytes x.bytes).normalAddress = .ok normal ∧ IsNormal normal x.bytes := by
  refine ⟨?succeeds, ?refused, ?denotes, ?same, ?octets⟩
  case succeeds =>
    rw [isSpelling_iff_toAddress]
    constructor
    · rintro ⟨normal, made⟩
      obtain ⟨a, read, -⟩ := normalAddress_eq_ok_iff.1 made
      exact ⟨a, read⟩
    · rintro ⟨a, read⟩
      exact ⟨_, normalAddress_of_toAddress read⟩
  case refused =>
    intro none
    rcases toAddress_ofPoints_eq points with some | refused
    · exact absurd (isSpelling_iff_toAddress.2 some) none
    · have noForm : (ofPoints points).normalAddress = .error (.notAddress (ofPoints points)) := by
        rw [normalAddress, refused]
        rfl
      refine ⟨noForm, ?_, rfl⟩
      rw [addressOctets, noForm]
      rfl
  case denotes =>
    intro normal made
    obtain ⟨a, read, rfl⟩ := normalAddress_eq_ok_iff.1 made
    exact ⟨a.bytes, toAddress_ofPoints.1 read, addressOctets_of_toAddress read,
      isNormal_checksummed a⟩
  case same =>
    exact fun normal other made otherMade => normalAddress_eq_iff made otherMade
  case octets =>
    have read : (Value.bytes x.bytes).toAddress = .ok x := by
      rw [toAddress, FixedBytes.ofBytes?_bytes]
    exact ⟨_, normalAddress_of_toAddress read, isNormal_checksummed x⟩

/-- A text in capitals without a mark and one with a wrong checksum have the same form, as both
denote the octets of the default contract that calls are batched by. -/
theorem normalAddress_canonical_miscased :
    ∃ normal,
      (ofPoints (Text.points "CA11BDE05977B3631167028862BE2A173976CA11")).normalAddress =
        .ok normal ∧
      (ofPoints (Text.points "0XcA11bde05977b3631167028862be2a173976ca11")).normalAddress =
        .ok normal ∧
      IsNormal normal Batch.defaultAddress.bytes := by
  obtain ⟨succeeds, -, denotes, same, -⟩ := normalAddress_canonical
    (Text.points "CA11BDE05977B3631167028862BE2A173976CA11")
    (Text.points "0XcA11bde05977b3631167028862be2a173976ca11") .zero
  have capitals : Denotes ((Text.points "CA11BDE05977B3631167028862BE2A173976CA11").map Text.charOf)
      Batch.defaultAddress.bytes := by
    decide +kernel
  have wrong : Denotes ((Text.points "0XcA11bde05977b3631167028862be2a173976ca11").map Text.charOf)
      Batch.defaultAddress.bytes := by
    decide +kernel
  obtain ⟨normal, made⟩ := succeeds.2 (Address.isSpelling_iff.2 ⟨_, capitals⟩)
  obtain ⟨octets, denoted, -, isNormal⟩ := denotes normal made
  rw [denoted.unique capitals] at isNormal
  obtain ⟨other, otherMade⟩ := (normalAddress_canonical
    (Text.points "0XcA11bde05977b3631167028862be2a173976ca11") [] .zero).1.2
      (Address.isSpelling_iff.2 ⟨_, wrong⟩)
  obtain rfl := (same normal other made otherMade).2 ⟨_, capitals, wrong⟩
  exact ⟨normal, made, otherMade, isNormal⟩

end Value

end MultisigQueue
