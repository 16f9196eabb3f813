/-
Module: MultisigQueue.Proofs.Json.Writer
Purpose: Values made of characters can be written as documents.
Main exports:
  Json.Whole, Json.isWhole, Json.whole_points, Json.strict_of_isWhole
-/
import Mathlib.Data.List.TakeWhile
import MultisigQueue.Json.Writer

namespace MultisigQueue

/-!
Two things have no place in a document: bytes, and a half of a character on its own. A value without
either is written, whatever its shape. The proof follows the value, since a document is put together
from the documents of its parts.
-/

/-- A character is no half of one. -/
theorem Text.isHalf_toNat (c : Char) : isHalf c.toNat = false := by
  have valid : c.toNat.isValidChar := c.valid
  simp only [isHalf, isHighHalf, isLowHalf, Nat.isValidChar] at valid ⊢
  simp only [Bool.or_eq_false_iff, Bool.and_eq_false_iff, decide_eq_false_iff_not]
  omega

namespace Json

/-- Whether there is no half of a character among some code points. -/
def Whole (codePoints : List Nat) : Prop := ∀ n ∈ codePoints, Text.isHalf n = false

theorem Whole.append {left right : List Nat} (first : Whole left) (second : Whole right) :
    Whole (left ++ right) := by
  intro n member
  rcases List.mem_append.1 member with isLeft | isRight
  · exact first n isLeft
  · exact second n isRight

theorem whole_chars (chars : List Char) : Whole (chars.map Char.toNat) := by
  intro n member
  obtain ⟨c, -, rfl⟩ := List.mem_map.1 member
  exact Text.isHalf_toNat c

theorem whole_text (s : String) : Whole (Text.points s) := whole_chars s.toList

theorem whole_quoted (asciiOnly : Bool) {text : List Nat} (whole : Whole text) :
    Whole (quoted asciiOnly text) := by
  have quote : Whole ['\x22'.toNat] := whole_chars ['\x22']
  have inner : Whole (text.flatMap (textPoint asciiOnly)) := by
    intro n member
    obtain ⟨codePoint, isPoint, written⟩ := List.mem_flatMap.1 member
    rw [textPoint, whole codePoint isPoint] at written
    exact whole_chars _ n written
  exact quote.append (inner.append quote)

theorem whole_intercalate {between : List Nat} (isBetween : Whole between)
    {parts : List (List Nat)} (each : ∀ part ∈ parts, Whole part) :
    Whole (between.intercalate parts) := by
  induction parts with
  | nil => exact fun _ member => nomatch member
  | cons part rest ih =>
      have first := each part List.mem_cons_self
      have later := ih fun other isOther => each other (List.mem_cons_of_mem part isOther)
      cases rest with
      | nil => simpa [List.intercalate] using first
      | cons next others =>
          rw [List.intercalate_cons_cons]
          exact (first.append isBetween).append later

theorem whole_enclosed (left right between : String) {parts : List (List Nat)}
    (each : ∀ part ∈ parts, Whole part) : Whole (enclosed left right between parts) :=
  ((whole_text left).append (whole_intercalate (whole_text between) each)).append (whole_text right)

mutual

/-- Whether a value is made of characters: there are neither bytes in it nor halves of characters.
-/
def isWhole : Value → Bool
  | .bytes _ | .unpaired _ => false
  | .list items => areWhole items
  | .object fields => fieldsAreWhole fields
  | _ => true

/-- Whether each item of a list is made of characters. -/
def areWhole : List Value → Bool
  | [] => true
  | item :: rest => isWhole item && areWhole rest

/-- Whether each field of an object is made of characters. -/
def fieldsAreWhole : List (String × Value) → Bool
  | [] => true
  | (_, value) :: rest => isWhole value && fieldsAreWhole rest

end

mutual

/-- A value made of characters is written in characters. -/
theorem whole_points (style : Style) : (v : Value) → isWhole v = true → Whole (points style v)
  | .null, _ => whole_text _
  | .bool true, _ => whole_text _
  | .bool false, _ => whole_text _
  | .int n, _ => whole_text _
  | .real x, _ => whole_text _
  | .text s, _ => whole_quoted _ (whole_text s)
  | .list items, whole => whole_enclosed _ _ _ (whole_itemPoints style items whole)
  | .object fields, whole => by
      apply whole_enclosed
      intro part isPart
      obtain ⟨⟨key, written⟩, isPair, rfl⟩ := List.mem_map.1 isPart
      have listed : (key, written) ∈ fieldPoints style fields := by
        split at isPair
        · exact List.mem_mergeSort.1 isPair
        · exact isPair
      have value := whole_fieldPoints style fields whole (key, written) listed
      exact ((whole_quoted _ (whole_text key)).append (whole_text _)).append value

theorem whole_itemPoints (style : Style) :
    (items : List Value) → areWhole items = true → ∀ part ∈ itemPoints style items, Whole part
  | [], _, _, member => nomatch member
  | item :: rest, whole, part, member => by
      obtain ⟨first, later⟩ := Bool.and_eq_true_iff.1 whole
      rcases List.mem_cons.1 member with rfl | behind
      · exact whole_points style item first
      · exact whole_itemPoints style rest later part behind

theorem whole_fieldPoints (style : Style) :
    (fields : List (String × Value)) → fieldsAreWhole fields = true →
      ∀ pair ∈ fieldPoints style fields, Whole pair.2
  | [], _, _, member => nomatch member
  | (key, value) :: rest, whole, pair, member => by
      obtain ⟨first, later⟩ := Bool.and_eq_true_iff.1 whole
      rcases List.mem_cons.1 member with rfl | behind
      · exact whole_points style value first
      · exact whole_fieldPoints style rest later pair behind

end

mutual

/-- There are no bytes in a value made of characters. -/
theorem hasBytes_of_isWhole : (v : Value) → isWhole v = true → hasBytes v = false
  | .null, _ | .bool _, _ | .int _, _ | .real _, _ | .text _, _ => rfl
  | .list items, whole => anyHasBytes_of_areWhole items whole
  | .object fields, whole => anyFieldHasBytes_of_fieldsAreWhole fields whole

theorem anyHasBytes_of_areWhole :
    (items : List Value) → areWhole items = true → anyHasBytes items = false
  | [], _ => rfl
  | item :: rest, whole => by
      obtain ⟨first, later⟩ := Bool.and_eq_true_iff.1 whole
      rw [anyHasBytes, hasBytes_of_isWhole item first, anyHasBytes_of_areWhole rest later]
      rfl

theorem anyFieldHasBytes_of_fieldsAreWhole :
    (fields : List (String × Value)) → fieldsAreWhole fields = true →
      anyFieldHasBytes fields = false
  | [], _ => rfl
  | (_, value) :: rest, whole => by
      obtain ⟨first, later⟩ := Bool.and_eq_true_iff.1 whole
      rw [anyFieldHasBytes, hasBytes_of_isWhole value first,
        anyFieldHasBytes_of_fieldsAreWhole rest later]
      rfl

end

/-- A value made of characters is a document. -/
theorem strict_of_isWhole (style : Style) {v : Value} (whole : isWhole v = true) :
    strict style v = .ok (write style v) := by
  have admitted : (points style v).takeWhile Charset.utf8.admits = points style v := by
    apply List.takeWhile_eq_self_iff.2
    intro n member
    simp [Charset.admits, whole_points style v whole n member]
  rw [strict, hasBytes_of_isWhole v whole]
  simp only [Bool.false_eq_true, if_false, Charset.refusal?, admitted, List.drop_length]
  rfl

end Json

end MultisigQueue
