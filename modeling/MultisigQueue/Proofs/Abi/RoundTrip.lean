/-
Module: MultisigQueue.Proofs.Abi.RoundTrip
Purpose: Reading back what has been written as contract data.
Main exports:
  AbiType.decodeAt?_of_standsAt, AbiType.decodeAll?_encodeAll, AbiFunction.decode_encodeAll,
  AbiFunction.decodeInput_calldata
-/
import MultisigQueue.Abi.Function
import MultisigQueue.Proofs.Abi.Frame

namespace MultisigQueue

/-!
A value of a valid type is read back wherever its encoding stands. The one condition is that the
encoding is shorter than `2 ^ 256` octets, because a distance within a frame is written as a word.
-/

namespace Abi

/-- A value out of line is found at its distance, if the decoder reads it there. -/
theorem slot?_dynamic {α : Type} {data : Payload} {values frame head distance : Nat}
    {encoded : Bytes} {decode : Nat → Option α}
    (headStands : StandsAt data head (wordBytes distance))
    (tailStands : StandsAt data (frame + distance) encoded) (some : encoded ≠ [])
    (behindHead : 32 * values ≤ distance) (fits : distance < 2 ^ (256 : Nat)) :
    slot? data true values decode frame head = decode (frame + distance) := by
  have inside := tailStands.le_size some
  have : 0 < encoded.length := List.length_pos_iff.2 some
  have reached : 32 * values ≤ distance ∧ frame + distance < data.size := by omega
  simp [slot?, headStands.wordAt?_number fits, reached]

/-- A value in the head is read where it stands. -/
@[simp] theorem slot?_static {α : Type} (data : Payload) (values frame head : Nat)
    (decode : Nat → Option α) :
    slot? data false values decode frame head = decode head := by
  simp [slot?]

/-- A byte string is read back with the filling behind it. -/
theorem lengthMarkedAt?_of_standsAt {data : Payload} {place : Nat} {b : Bytes}
    (stands : StandsAt data place (lengthMarked b)) (fits : b.length < 2 ^ (256 : Nat)) :
    lengthMarkedAt? data place = some b := by
  have inside := stands.le_size (by
    rw [← List.length_pos_iff, length_lengthMarked]
    omega)
  rw [length_lengthMarked] at inside
  have marked := stands.left.left.wordAt?_number fits
  have content := stands.left.right.slice_eq
  have filling := stands.right.slice_eq
  simp only [List.length_append, length_wordBytes, Bytes.length_zeros] at content filling
  have whole : place + 32 + b.length + Bytes.padding b.length ≤ data.size := by omega
  rw [← Nat.add_assoc] at filling
  simp [lengthMarkedAt?, marked, whole, content, filling]

end Abi

namespace AbiType

open Abi

/-- One value of a frame is read back. Its part of the head stands at place `head`, and what of it
is out of line stands at the next distance from the start of the frame. -/
theorem slot?_of_standsAt {data : Payload} (count frame : Nat) {head distance : Nat} {t : AbiType}
    {v : t.Val} {rest : List Piece}
    (reads : ∀ place, StandsAt data place (encode t v) → decodeAt? data t place = some v)
    (headStands : StandsAt data head (heads distance (piece t.isDynamic (encode t v) :: rest)))
    (tailStands : StandsAt data (frame + distance) (piece t.isDynamic (encode t v)).tail)
    (behindHead : 32 * count ≤ distance) (fits : distance < 2 ^ (256 : Nat)) :
    slot? data t.isDynamic count (decodeAt? data t) frame head = some v := by
  cases dynamic : t.isDynamic with
  | true =>
      rw [dynamic] at headStands tailStands
      rw [slot?_dynamic headStands.left tailStands (encode_ne_nil dynamic v) behindHead fits]
      exact reads _ tailStands
  | false =>
      rw [dynamic] at headStands
      rw [slot?_static]
      exact reads _ headStands.left

/-- The head of a frame behind its first value. -/
theorem standsAt_heads_rest {data : Payload} {head distance : Nat} {t : AbiType} {v : t.Val}
    {rest : List Piece}
    (stands : StandsAt data head (heads distance (piece t.isDynamic (encode t v) :: rest))) :
    StandsAt data (head + 32 * t.headWords)
      (heads (distance + (piece t.isDynamic (encode t v)).tail.length) rest) := by
  have taken := headLength_piece t v
  cases dynamic : t.isDynamic with
  | true =>
      rw [dynamic] at stands taken
      simpa [heads, piece, Piece.tail, ← taken, Piece.headLength] using stands.right
  | false =>
      rw [dynamic] at stands taken
      simpa [heads, piece, Piece.tail, ← taken, Piece.headLength] using stands.right

/-- An encoding is no longer than the parts of it in the head and in the tail. -/
theorem length_encode_le (t : AbiType) (v : t.Val) :
    (encode t v).length ≤ (piece t.isDynamic (encode t v)).headLength +
      (piece t.isDynamic (encode t v)).tail.length := by
  cases t.isDynamic <;> simp [piece, Piece.headLength, Piece.tail]

/-- The items of an array are read back one after the other. -/
theorem items?_of_standsAt {data : Payload} {t : AbiType} (count frame : Nat)
    (reads : ∀ (v : t.Val) (place : Nat), StandsAt data place (encode t v) →
      (encode t v).length < 2 ^ (256 : Nat) → decodeAt? data t place = some v)
    (values : List t.Val) {head distance : Nat} :
    let pieces := values.map fun v => piece t.isDynamic (encode t v)
    StandsAt data head (heads distance pieces) →
    StandsAt data (frame + distance) (tails pieces) →
    32 * count ≤ distance → headLength pieces ≤ distance →
    distance + (tails pieces).length < 2 ^ (256 : Nat) →
    items? (32 * t.headWords) (slot? data t.isDynamic count (decodeAt? data t) frame)
      values.length head = some values := by
  induction values generalizing head distance with
  | nil => intros; rfl
  | cons v others ih =>
      simp only [List.map_cons, tails_cons, headLength, List.length_append, List.length_cons]
      intro headStands tailStands behindHead ahead fits
      have short := length_encode_le t v
      have first := slot?_of_standsAt count frame
        (fun place stands => reads v place stands (by omega)) headStands tailStands.left
        behindHead (by omega)
      have later := ih (standsAt_heads_rest headStands)
        (by rw [← Nat.add_assoc]; exact tailStands.right) (by omega) (by omega) (by omega)
      simp [items?, first, later]

mutual

/-- A value is read back wherever its encoding stands. -/
theorem decodeAt?_of_standsAt : (t : AbiType) → t.isValid = true → (v : t.Val) →
    {data : Payload} → {place : Nat} → StandsAt data place (encode t v) →
    (encode t v).length < 2 ^ (256 : Nat) → decodeAt? data t place = some v
  | .address, _, a, data, place, stands, _ => by
      have number : Bytes.toNat (Bytes.zeros 12 ++ FixedBytes.bytes a) = FixedBytes.toNat a := by
        rw [Bytes.toNat_append, show Bytes.toNat (Bytes.zeros 12) = 0 from rfl, Nat.zero_mul,
          Nat.zero_add]
        rfl
      have read := StandsAt.wordAt? stands (by
        have := FixedBytes.length_eq a
        simp [encode, this])
      have small : FixedBytes.toNat a < 2 ^ (160 : Nat) :=
        Nat.lt_of_lt_of_le (FixedBytes.toNat_lt a) (by decide)
      simp only [encode, number] at read
      simp only [decodeAt?, read, Option.bind_eq_bind, Option.bind_some, if_pos small]
      exact congrArg some (FixedBytes.ofNat_toNat a)
  | .bool, _, b, data, place, stands, _ => by
      cases b <;> simp [decodeAt?, StandsAt.wordAt?_number stands (by decide)]
  | .bytes, _, b, data, place, stands, short => by
      have length := length_lengthMarked b
      refine lengthMarkedAt?_of_standsAt stands (Nat.lt_of_le_of_lt ?_ short)
      exact Nat.le_trans (by omega) (Nat.le_of_eq length.symm)
  | .bytes32, _, w, data, place, stands, _ => by
      have length := FixedBytes.length_eq w
      have read := StandsAt.slice_eq stands
      simp only [encode, length] at read
      simp only [decodeAt?, read]
      exact FixedBytes.ofBytes?_bytes w
  | .uint bits, valid, n, data, place, stands, _ => by
      have most : 2 ^ bits ≤ 2 ^ (256 : Nat) :=
        Nat.pow_le_pow_right (by decide) (by simpa [isValid] using valid)
      have read := StandsAt.wordAt?_number stands (Nat.lt_of_lt_of_le (Fin.isLt n) most)
      simp only [decodeAt?, read, Option.bind_eq_bind, Option.bind_some, dif_pos (Fin.isLt n)]
      rfl
  | .array item, valid, values, data, place, stands, short => by
      have itemValid : item.isValid = true := by simpa [isValid] using valid
      have wide := headWords_pos item itemValid
      have head := headLength_map_piece item values
      simp only [encode, List.length_append, length_wordBytes, length_layout] at short
      have least : 32 * List.length values ≤ 32 * (List.length values * item.headWords) :=
        Nat.mul_le_mul_left 32 (Nat.le_mul_of_pos_right _ wide)
      have count := StandsAt.wordAt?_number stands.left (by omega)
      have frame := StandsAt.append_iff.1 stands.right
      rw [length_wordBytes, length_heads] at frame
      have read := items?_of_standsAt values.length _
        (fun v place => decodeAt?_of_standsAt item itemValid v) values frame.1 frame.2 (by omega)
        (Nat.le_refl _) (by omega)
      simp only [decodeAt?, count, Option.bind_eq_bind, Option.bind_some]
      exact read
  | .tuple fields, valid, values, data, place, stands, short => by
      have fieldsValid : allValid fields = true := by
        simp only [isValid, Bool.and_eq_true] at valid
        exact valid.2
      have wide := length_le_frameWords fields fieldsValid
      have head := headLength_pieces fields values
      simp only [encode, length_layout] at short
      have frame := StandsAt.append_iff.1 stands
      rw [length_heads] at frame
      simp only [decodeAt?]
      exact fieldsAt?_of_standsAt fields fieldsValid values fields.length frame.1 frame.2
        (by omega) (Nat.le_refl _) short

/-- The values of a frame are read back one after the other. -/
theorem fieldsAt?_of_standsAt : (ts : List AbiType) → allValid ts = true → (values : Vals ts) →
    {data : Payload} → (count : Nat) → {frame head distance : Nat} →
    StandsAt data head (heads distance (pieces ts values)) →
    StandsAt data (frame + distance) (tails (pieces ts values)) →
    32 * count ≤ distance → headLength (pieces ts values) ≤ distance →
    distance + (tails (pieces ts values)).length < 2 ^ (256 : Nat) →
    fieldsAt? data ts count frame head = some values
  | [], _, _, _, _, _, _, _, _, _, _, _, _ => rfl
  | t :: ts, valid, (v, others), data, count, frame, head, distance, headStands, tailStands,
      behindHead, ahead, fits => by
      simp only [allValid, Bool.and_eq_true] at valid
      simp only [pieces, tails_cons, headLength, List.length_append]
        at headStands tailStands ahead fits
      have short := length_encode_le t v
      have first := slot?_of_standsAt count frame
        (fun place stands => decodeAt?_of_standsAt t valid.1 v stands (by omega)) headStands
        tailStands.left behindHead (by omega)
      have later := fieldsAt?_of_standsAt ts valid.2 others count
        (standsAt_heads_rest headStands) (by rw [← Nat.add_assoc]; exact tailStands.right)
        (by omega) (by omega) (by omega)
      simp only [fieldsAt?, first, later, Option.bind_eq_bind, Option.bind_some]
      rfl

end

/-- The values of a frame are read back from its encoding. -/
theorem decodeAll?_encodeAll {ts : List AbiType} (valid : allValid ts = true) (values : Vals ts)
    (short : (encodeAll ts values).length < 2 ^ (256 : Nat)) :
    decodeAll? ts (encodeAll ts values) = some values := by
  have wide := length_le_frameWords ts valid
  have head := headLength_pieces ts values
  have whole : StandsAt (encodeAll ts values).toArray 0 (encodeAll ts values) := by
    simp [StandsAt]
  rw [encodeAll, length_layout] at short
  have frame := StandsAt.append_iff.1 whole
  rw [length_heads] at frame
  exact fieldsAt?_of_standsAt ts valid values ts.length frame.1 frame.2 (by omega)
    (Nat.le_refl _) short

end AbiType

namespace AbiFunction

variable {f : AbiFunction}

@[simp] theorem length_selector (f : AbiFunction) : f.selector.length = 4 := by
  simp [selector, FixedBytes.length_eq]

/-- Calldata that is read is for the function. -/
theorem take_of_decodeInput {f : AbiFunction} {data : Bytes} {args : AbiType.Vals f.inputs}
    (decoded : f.decodeInput data = .ok args) : data.take 4 = f.selector := by
  unfold decodeInput at decoded
  split at decoded
  · cases decoded
  · rename_i same
    exact Decidable.not_not.1 same

@[simp] theorem take_calldata (f : AbiFunction) (args : AbiType.Vals f.inputs) :
    (f.calldata args).take 4 = f.selector := by
  rw [calldata, ← f.length_selector, List.take_left]

/-- Results are read back from their encoding. -/
theorem decode_encodeAll (valid : AbiType.allValid f.outputs = true)
    {results : AbiType.Vals f.outputs}
    (short : (AbiType.encodeAll f.outputs results).length < 2 ^ (256 : Nat)) :
    f.decode (AbiType.encodeAll f.outputs results) = .ok results := by
  rw [decode, AbiType.decodeAll?_encodeAll valid results short]

/-- Arguments are read back from their calldata. -/
theorem decodeInput_calldata (valid : AbiType.allValid f.inputs = true)
    {args : AbiType.Vals f.inputs}
    (short : (AbiType.encodeAll f.inputs args).length < 2 ^ (256 : Nat)) :
    f.decodeInput (f.calldata args) = .ok args := by
  have behind : (f.calldata args).drop 4 = AbiType.encodeAll f.inputs args := by
    rw [calldata, ← f.length_selector, List.drop_left]
  rw [decodeInput, take_calldata, behind, AbiType.decodeAll?_encodeAll valid args short]
  simp

theorem length_calldata (f : AbiFunction) (args : AbiType.Vals f.inputs) :
    (f.calldata args).length = 4 + (AbiType.encodeAll f.inputs args).length := by
  rw [calldata, List.length_append, length_selector]

/-- Calldata for arguments of fixed length. -/
theorem length_calldata_static (fixed : AbiType.anyDynamic f.inputs = false)
    (args : AbiType.Vals f.inputs) :
    (f.calldata args).length = 4 + 32 * AbiType.frameWords f.inputs := by
  rw [length_calldata, AbiType.length_encodeAll_static fixed]

/-- Arguments of fixed length are read back from their calldata. -/
theorem decodeInput_calldata_static (valid : AbiType.allValid f.inputs = true)
    (fixed : AbiType.anyDynamic f.inputs = false)
    (few : 32 * AbiType.frameWords f.inputs < 2 ^ (256 : Nat)) (args : AbiType.Vals f.inputs) :
    f.decodeInput (f.calldata args) = .ok args :=
  decodeInput_calldata valid (by rwa [AbiType.length_encodeAll_static fixed])

end AbiFunction

end MultisigQueue
