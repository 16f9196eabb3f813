/-
Module: MultisigQueue.Proofs.Abi.Frame
Purpose: Where the parts of an encoded frame stand, and how long they are.
Main exports:
  Abi.StandsAt, AbiType.isValid, AbiType.length_encode_static, AbiType.headLength_pieces,
  AbiType.length_encodeAll, AbiType.length_encode_array, AbiType.dvd_length_encodeAll
-/
import MultisigQueue.Abi.Decoding
import MultisigQueue.Abi.Encoding

namespace MultisigQueue

/-!
Decoding looks at places of a payload and encoding writes byte strings, so the two meet in one
relation: a byte string stands at a place. It is blind to what stands before and behind, which is
why the laws of the codec can be proved for a value in the middle of any payload.
-/

namespace Abi

/-- The byte string stands in the payload from the place on. -/
def StandsAt (data : Payload) (place : Nat) (b : Bytes) : Prop :=
  b <+: data.toList.drop place

namespace StandsAt

variable {data : Payload} {place : Nat} {a b : Bytes}

/-- Two byte strings stand one behind the other exactly if their concatenation stands there. -/
theorem append_iff :
    StandsAt data place (a ++ b) ↔
      StandsAt data place a ∧ StandsAt data (place + a.length) b := by
  unfold StandsAt
  rw [← List.drop_drop]
  constructor
  · rintro ⟨rest, stands⟩
    rw [← stands]
    exact ⟨⟨b ++ rest, by simp⟩, ⟨rest, by simp⟩⟩
  · rintro ⟨⟨rest, stands⟩, behind⟩
    rw [← stands, List.drop_left] at behind
    obtain ⟨last, behind⟩ := behind
    exact ⟨last, by rw [← stands, ← behind, List.append_assoc]⟩

theorem left (stands : StandsAt data place (a ++ b)) : StandsAt data place a :=
  (append_iff.1 stands).1

theorem right (stands : StandsAt data place (a ++ b)) : StandsAt data (place + a.length) b :=
  (append_iff.1 stands).2

/-- What stands in a payload ends in it, if there is any of it. -/
theorem le_size (stands : StandsAt data place b) (some : b ≠ []) :
    place + b.length ≤ data.size := by
  have fits := stands.length_le
  have : 0 < b.length := List.length_pos_iff.2 some
  simp only [List.length_drop, Array.length_toList] at fits
  omega

/-- The octets at a place are those that stand there. -/
theorem slice_eq (stands : StandsAt data place b) : slice data place b.length = b := by
  rw [Abi.slice_eq]
  exact (List.prefix_iff_eq_take.1 stands).symm

/-- A word that stands at a place is read as the number that it spells. -/
theorem wordAt? (stands : StandsAt data place b) (isWord : b.length = 32) :
    Abi.wordAt? data place = some b.toNat := by
  have fits := stands.le_size (by intro none; simp [none] at isWord)
  rw [isWord] at fits
  rw [Abi.wordAt?, if_pos fits, ← isWord, stands.slice_eq]

/-- A number that stands at a place as a word is read back if it fits into a word. -/
theorem wordAt?_number {n : Nat} (stands : StandsAt data place (wordBytes n))
    (fits : n < 2 ^ (256 : Nat)) : Abi.wordAt? data place = some n := by
  rw [stands.wordAt? (Bytes.length_ofNat 32 n), wordBytes, Bytes.toNat_ofNat]
  exact Nat.lt_of_lt_of_le fits (by decide)

end StandsAt

@[simp] theorem length_wordBytes (n : Nat) : (wordBytes n).length = 32 := Bytes.length_ofNat 32 n

/-- The head of a frame has the length that its pieces take up in it. -/
@[simp] theorem length_heads (distance : Nat) (pieces : List Piece) :
    (heads distance pieces).length = headLength pieces := by
  induction pieces generalizing distance with
  | nil => rfl
  | cons p rest ih =>
      cases p <;> simp [heads, headLength, Piece.headLength, ih]

theorem length_layout (pieces : List Piece) :
    (layout pieces).length = headLength pieces + (tails pieces).length := by
  simp [layout]

@[simp] theorem tails_cons (p : Piece) (rest : List Piece) :
    tails (p :: rest) = p.tail ++ tails rest := by
  simp [tails]

theorem length_lengthMarked (b : Bytes) :
    (lengthMarked b).length = 32 + b.length + Bytes.padding b.length := by
  simp [lengthMarked, Nat.add_assoc]

/-- A byte string is filled up to whole words. -/
theorem dvd_length_lengthMarked (b : Bytes) : 32 ∣ (lengthMarked b).length := by
  rw [length_lengthMarked, Nat.add_assoc]
  have filled := Nat.dvd_of_mod_eq_zero (Bytes.length_add_padding_mod b.length)
  exact Nat.dvd_add (Nat.dvd_refl 32) filled

theorem dvd_length_tails {pieces : List Piece} (each : ∀ p ∈ pieces, 32 ∣ p.tail.length) :
    32 ∣ (tails pieces).length := by
  induction pieces with
  | nil => exact Nat.dvd_zero 32
  | cons p rest ih =>
      rw [tails_cons, List.length_append]
      exact Nat.dvd_add (each p List.mem_cons_self)
        (ih fun q member => each q (List.mem_cons_of_mem p member))

theorem dvd_length_tail_piece {isDynamic : Bool} {encoded : Bytes}
    (whole : 32 ∣ encoded.length) : 32 ∣ (piece isDynamic encoded).tail.length := by
  cases isDynamic with
  | false => exact Nat.dvd_zero 32
  | true => exact whole

end Abi

namespace AbiType

open Abi

mutual

/-- Whether every number of a type fits into a word and every tuple of it has a field. -/
def isValid : AbiType → Bool
  | .uint bits => bits ≤ 256
  | .array item => isValid item
  | .tuple fields => !fields.isEmpty && allValid fields
  | _ => true

/-- Whether all types of a list are valid. -/
def allValid : List AbiType → Bool
  | [] => true
  | t :: ts => isValid t && allValid ts

end

mutual

/-- Every value takes up a word of the head at least. -/
theorem headWords_pos : (t : AbiType) → t.isValid = true → 1 ≤ t.headWords
  | .address, _ | .bool, _ | .bytes, _ | .bytes32, _ | .uint _, _ | .array _, _ => by
      simp [headWords]
  | .tuple [], valid => by simp [isValid] at valid
  | .tuple (t :: ts), valid => by
      simp only [isValid, allValid, Bool.and_eq_true] at valid
      have first := headWords_pos t valid.2.1
      unfold headWords
      split
      · exact Nat.le_refl 1
      · simp only [frameWords]
        omega

/-- A frame has at least as many words in its head as it has values. -/
theorem length_le_frameWords : (ts : List AbiType) → allValid ts = true →
    ts.length ≤ frameWords ts
  | [], _ => Nat.zero_le _
  | t :: ts, valid => by
      simp only [allValid, Bool.and_eq_true] at valid
      have first := headWords_pos t valid.1
      have rest := length_le_frameWords ts valid.2
      simp only [List.length_cons, frameWords]
      omega

end

/-- A value out of line takes up one word of the head. -/
theorem headWords_of_isDynamic {t : AbiType} (dynamic : t.isDynamic = true) :
    t.headWords = 1 := by
  cases t with
  | tuple fields =>
      simp only [isDynamic] at dynamic
      simp [headWords, dynamic]
  | _ => simp_all [headWords, isDynamic]

mutual

/-- A value of fixed length has the length that its type says. -/
theorem length_encode_static : (t : AbiType) → t.isDynamic = false → (v : t.Val) →
    (encode t v).length = 32 * t.headWords
  | .address, _, a => by
      have := FixedBytes.length_eq a
      simp [encode, headWords, this]
  | .bool, _, _ => by simp [encode, headWords]
  | .bytes32, _, w => by
      have := FixedBytes.length_eq w
      simp [encode, headWords, this]
  | .uint _, _, _ => by simp [encode, headWords]
  | .bytes, dynamic, _ | .array _, dynamic, _ => by simp [isDynamic] at dynamic
  | .tuple fields, dynamic, values => by
      simp only [isDynamic] at dynamic
      rw [encode, length_layout, tails_pieces_static fields dynamic values,
        headLength_pieces fields values]
      simp [headWords, dynamic]

/-- The pieces of a frame take up the words in its head that its types say. -/
theorem headLength_pieces : (ts : List AbiType) → (values : Vals ts) →
    headLength (pieces ts values) = 32 * frameWords ts
  | [], _ => rfl
  | t :: ts, (value, rest) => by
      have others := headLength_pieces ts rest
      cases dynamic : t.isDynamic with
      | true =>
          simp only [pieces, headLength, piece, dynamic, frameWords, Piece.headLength,
            headWords_of_isDynamic dynamic, if_true, others]
          omega
      | false =>
          have first := length_encode_static t dynamic value
          simp only [pieces, headLength, piece, dynamic, frameWords, Piece.headLength, first,
            Bool.false_eq_true, if_false, others]
          omega

/-- A frame of values of fixed length has no tail. -/
theorem tails_pieces_static : (ts : List AbiType) → anyDynamic ts = false →
    (values : Vals ts) → tails (pieces ts values) = []
  | [], _, _ => rfl
  | t :: ts, dynamic, (value, rest) => by
      simp only [anyDynamic, Bool.or_eq_false_iff] at dynamic
      have others := tails_pieces_static ts dynamic.2 rest
      simp [pieces, piece, dynamic.1, Piece.tail, others]

end

/-- The octets that a value takes up in the head of its frame. -/
theorem headLength_piece (t : AbiType) (v : t.Val) :
    (piece t.isDynamic (encode t v)).headLength = 32 * t.headWords := by
  have one := headLength_pieces [t] (v, ())
  simpa [pieces, headLength, frameWords] using one

/-- A frame with a value out of line has something in its head. -/
theorem frameWords_pos_of_anyDynamic : (ts : List AbiType) → anyDynamic ts = true →
    0 < frameWords ts
  | [], dynamic => by simp [anyDynamic] at dynamic
  | t :: ts, dynamic => by
      simp only [anyDynamic, Bool.or_eq_true] at dynamic
      simp only [frameWords]
      rcases dynamic with first | later
      · have := headWords_of_isDynamic first
        omega
      · have := frameWords_pos_of_anyDynamic ts later
        omega

/-- What stands out of line is not empty. -/
theorem encode_ne_nil {t : AbiType} (dynamic : t.isDynamic = true) (v : t.Val) :
    encode t v ≠ [] := by
  rw [← List.length_pos_iff]
  cases t with
  | bytes =>
      have marked : ∀ b : Bytes, 0 < (lengthMarked b).length := fun b => by
        rw [length_lengthMarked]
        omega
      exact marked v
  | array item =>
      simp only [encode, List.length_append, length_wordBytes]
      omega
  | tuple fields =>
      have head := frameWords_pos_of_anyDynamic fields (by simpa [isDynamic] using dynamic)
      rw [encode, length_layout, headLength_pieces fields v]
      omega
  | _ => simp [isDynamic] at dynamic

/-- The length of a frame: the words of its head, and its tail. -/
theorem length_encodeAll (ts : List AbiType) (values : Vals ts) :
    (encodeAll ts values).length = 32 * frameWords ts + (tails (pieces ts values)).length := by
  rw [encodeAll, length_layout, headLength_pieces]

/-- A frame of values of fixed length. -/
theorem length_encodeAll_static {ts : List AbiType} (fixed : anyDynamic ts = false)
    (values : Vals ts) : (encodeAll ts values).length = 32 * frameWords ts := by
  rw [length_encodeAll, tails_pieces_static ts fixed]
  rfl

theorem length_encode_tuple (fields : List AbiType) (values : Vals fields) :
    (encode (.tuple fields) values).length =
      32 * frameWords fields + (tails (pieces fields values)).length :=
  length_encodeAll fields values

/-- The items of an array take up as many octets in the head as their number and type say. -/
theorem headLength_map_piece (t : AbiType) (values : List t.Val) :
    headLength (values.map fun v => piece t.isDynamic (encode t v)) =
      32 * (values.length * t.headWords) := by
  induction values with
  | nil => simp [headLength]
  | cons v others ih =>
      simp only [List.map_cons, headLength, headLength_piece, ih, List.length_cons, Nat.add_mul]
      omega

/-- The length of an array: its count, the words of its head, and its tail. -/
theorem length_encode_array (item : AbiType) (values : List item.Val) :
    (encode (.array item) values).length = 32 + 32 * (values.length * item.headWords) +
      (tails (values.map fun v => piece item.isDynamic (encode item v))).length := by
  change (wordBytes values.length ++
    layout (values.map fun v => piece item.isDynamic (encode item v))).length = _
  rw [List.length_append, length_wordBytes, length_layout, headLength_map_piece]
  omega

/-- An array of items of fixed length. -/
theorem length_encode_array_static {item : AbiType} (fixed : item.isDynamic = false)
    (values : List item.Val) :
    (encode (.array item) values).length = 32 + 32 * (values.length * item.headWords) := by
  have nothing : tails (values.map fun v => piece item.isDynamic (encode item v)) = [] := by
    rw [tails, List.flatMap_eq_nil_iff]
    intro p member
    obtain ⟨v, -, rfl⟩ := List.mem_map.1 member
    simp [piece, fixed, Piece.tail]
  rw [length_encode_array, nothing]
  rfl

mutual

/-- A value takes up whole words. -/
theorem dvd_length_encode : (t : AbiType) → (v : t.Val) → 32 ∣ (encode t v).length
  | .address, v | .bool, v | .bytes32, v | .uint _, v => by
      rw [length_encode_static _ rfl v]
      exact Nat.dvd_mul_right 32 _
  | .bytes, b => dvd_length_lengthMarked b
  | .array item, values => by
      have tail : ∀ p ∈ values.map fun v => piece item.isDynamic (encode item v),
          32 ∣ p.tail.length := by
        intro p member
        obtain ⟨v, -, rfl⟩ := List.mem_map.1 member
        exact dvd_length_tail_piece (dvd_length_encode item v)
      have length : (encode (.array item) values).length = _ := length_encode_array item values
      rw [length]
      have head := Nat.dvd_mul_right 32 (List.length values * item.headWords)
      exact Nat.dvd_add (Nat.dvd_add (Nat.dvd_refl 32) head) (dvd_length_tails tail)
  | .tuple fields, values => by
      have length : (encode (.tuple fields) values).length = _ := length_encode_tuple fields values
      rw [length]
      exact Nat.dvd_add (Nat.dvd_mul_right 32 _) (dvd_length_tails_pieces fields values)

theorem dvd_length_tails_pieces : (ts : List AbiType) → (values : Vals ts) →
    32 ∣ (tails (pieces ts values)).length
  | [], _ => Nat.dvd_zero 32
  | t :: ts, (value, rest) => by
      change 32 ∣ (tails (piece t.isDynamic (encode t value) :: pieces ts rest)).length
      rw [tails_cons, List.length_append]
      exact Nat.dvd_add (dvd_length_tail_piece (dvd_length_encode t value))
        (dvd_length_tails_pieces ts rest)

end

/-- A frame takes up whole words. -/
theorem dvd_length_encodeAll (ts : List AbiType) (values : Vals ts) :
    32 ∣ (encodeAll ts values).length :=
  dvd_length_encode (.tuple ts) values

end AbiType

end MultisigQueue
