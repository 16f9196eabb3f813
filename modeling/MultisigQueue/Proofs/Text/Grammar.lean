/-
Module: MultisigQueue.Proofs.Text.Grammar
Purpose: Hexadecimal text as a grammar: which texts denote which octets, and where the others break.
Main exports:
  Hex.IsDigit, Hex.Spaced, Hex.Breaks, Hex.IsBody, Hex.Denotes, Hex.Flaw,
  Hex.parseChars_eq_ok_iff, Hex.parseChars_eq_error_iff, Hex.denotes_ofBytes, Hex.denotes_bare
-/
import MultisigQueue.Proofs.Address

namespace MultisigQueue.Hex

/-!
The grammar is written down apart from the reader. A text denotes octets if, without one mark, it
has an even number of characters and consists of a digit pair for each octet, with white space of
ASCII around the pairs. Any other text has a flaw, which is where a reader that goes from left to
right finds the first character out of place. Both relations follow the text from its front, one
character of white space or one pair at a time, and so do the proofs.
-/

/-- The digits with capital letters. -/
def capitalDigits : List Char := "0123456789ABCDEF".toList

/-- The white space of ASCII. -/
def spaces : List Char := [' ', '\t', '\n', '\x0b', '\x0c', '\r']

/-- Whether a character is the digit of a number, in either case. -/
def IsDigit (c : Char) (n : Nat) : Prop := smallDigits[n]? = some c ∨ capitalDigits[n]? = some c

instance (c : Char) (n : Nat) : Decidable (IsDigit c n) := inferInstanceAs (Decidable (_ ∨ _))

/-- Whether two characters are the digits of an octet. -/
def IsPair (c d : Char) (x : UInt8) : Prop := IsDigit c (x.toNat / 16) ∧ IsDigit d (x.toNat % 16)

/-- Whether characters are the digit pairs of some octets in their order, with white space before,
between and after the pairs. -/
inductive Spaced : List Char → Bytes → Prop where
  | done : Spaced [] []
  | space {c : Char} {rest : List Char} {b : Bytes} (isSpace : c ∈ spaces) (later : Spaced rest b) :
      Spaced (c :: rest) b
  | pair {c d : Char} {x : UInt8} {rest : List Char} {b : Bytes} (isPair : IsPair c d x)
      (later : Spaced rest b) : Spaced (c :: d :: rest) (x :: b)

/-- Whether the first character out of place stands at an index: one where a pair could begin that
is neither white space nor a digit, or whatever follows the first digit of a pair and is not its
second one, be it the end. -/
inductive Breaks : List Char → Nat → Prop where
  | space {c : Char} {rest : List Char} {place : Nat} (isSpace : c ∈ spaces)
      (later : Breaks rest place) : Breaks (c :: rest) (place + 1)
  | pair {c d : Char} {x : UInt8} {rest : List Char} {place : Nat} (isPair : IsPair c d x)
      (later : Breaks rest place) : Breaks (c :: d :: rest) (place + 2)
  | first {c : Char} {rest : List Char} (noSpace : c ∉ spaces) (noDigit : ∀ n, ¬IsDigit c n) :
      Breaks (c :: rest) 0
  | second {c : Char} {n : Nat} {rest : List Char} (isDigit : IsDigit c n)
      (alone : ∀ d ∈ rest.head?, ∀ m, ¬IsDigit d m) : Breaks (c :: rest) 1

/-- What is left of characters without one leading mark. -/
inductive IsBody : List Char → List Char → Prop where
  | small (body : List Char) : IsBody ('0' :: 'x' :: body) body
  | capital (body : List Char) : IsBody ('0' :: 'X' :: body) body
  | unmarked {chars : List Char} (noSmall : ∀ rest, chars ≠ '0' :: 'x' :: rest)
      (noCapital : ∀ rest, chars ≠ '0' :: 'X' :: rest) : IsBody chars chars

/-- Whether characters denote some octets: without one mark they are even in number, and they are
the spaced digit pairs of the octets. -/
def Denotes (chars : List Char) (b : Bytes) : Prop :=
  ∃ body, IsBody chars body ∧ body.length % 2 = 0 ∧ Spaced body b

/-- What is wrong with characters that denote no octets. An odd number of them counts before any
character, and a character beyond ASCII before any other that is out of place. -/
inductive Flaw (chars : List Char) : HexError → Prop where
  | odd {body : List Char} (isBody : IsBody chars body) (odd : body.length % 2 = 1) :
      Flaw chars .oddLength
  | foreign {body : List Char} {place : Nat} {c : Char} (isBody : IsBody chars body)
      (even : body.length % 2 = 0) (here : body[place]? = some c) (beyond : 128 ≤ c.toNat)
      (ascii : ∀ d ∈ body.take place, d.toNat < 128) : Flaw chars (.badDigit place)
  | broken {body : List Char} {place : Nat} (isBody : IsBody chars body)
      (even : body.length % 2 = 0) (ascii : ∀ d ∈ body, d.toNat < 128)
      (breaks : Breaks body place) : Flaw chars (.badDigit place)

/-! ### Single characters and marks -/

/-- The two alphabets are the ranges that the reader knows. One direction is decided over the places
in the alphabets, the other over the codes of ASCII, which are all that the ranges can hold. -/
theorem isDigit_iff {c : Char} {n : Nat} : IsDigit c n ↔ value? c = some n := by
  constructor
  · have small : ∀ n < 16, smallDigits[n]?.all fun c => value? c = some n := by decide +kernel
    have capital : ∀ n < 16, capitalDigits[n]?.all fun c => value? c = some n := by decide +kernel
    rintro (shown | shown)
    · have known := small n (List.getElem?_eq_some_iff.1 shown).1
      rw [shown] at known
      exact of_decide_eq_true known
    · have known := capital n (List.getElem?_eq_some_iff.1 shown).1
      rw [shown] at known
      exact of_decide_eq_true known
  · intro read
    have each : ∀ code < 128, (value? (Char.ofNat code)).all fun n =>
        IsDigit (Char.ofNat code) n := by
      decide +kernel
    have known := each c.toNat (ascii_of_value? read)
    rw [Char.ofNat_toNat, read] at known
    exact of_decide_eq_true known

theorem not_isDigit_iff {c : Char} : (∀ n, ¬IsDigit c n) ↔ value? c = none := by
  simp only [isDigit_iff, Option.eq_none_iff_forall_ne_some, ne_eq]

theorem mem_spaces_iff {c : Char} : c ∈ spaces ↔ isSpace c = true := by
  simp [spaces, isSpace, or_assoc]

theorem isPair_digit (x : UInt8) : IsPair (digit (x.toNat / 16)) (digit (x.toNat % 16)) x :=
  ⟨isDigit_iff.2 (value?_digit (halves_lt x).1), isDigit_iff.2 (value?_digit (halves_lt x).2)⟩

theorem isPair_ofNat {c d : Char} {high low : Nat} (first : value? c = some high)
    (second : value? d = some low) : IsPair c d (UInt8.ofNat (high * 16 + low)) := by
  obtain ⟨upper, lower⟩ := halves_ofNat (digit_of_value? first).1 (digit_of_value? second).1
  rw [IsPair, upper, lower]
  exact ⟨isDigit_iff.2 first, isDigit_iff.2 second⟩

theorem isBody_iff {chars body : List Char} : IsBody chars body ↔ unmark chars = body := by
  constructor
  · intro isBody
    cases isBody with
    | small | capital => rfl
    | unmarked noSmall noCapital =>
        unfold unmark
        split
        · exact absurd rfl (noSmall _)
        · exact absurd rfl (noCapital _)
        · rfl
  · rintro rfl
    unfold unmark
    split
    · exact .small _
    · exact .capital _
    · rename_i noSmall noCapital
      exact .unmarked noSmall noCapital

/-! ### The reader of pairs against the grammar -/

theorem pairs_cons_space {c : Char} (space : isSpace c = true) (position : Nat) (rest : List Char) :
    pairs position (c :: rest) = pairs (position + 1) rest := by
  cases rest <;> simp [pairs, space]

theorem pairs_of_spaced {body : List Char} {b : Bytes} (spaced : Spaced body b) (position : Nat) :
    pairs position body = .ok b := by
  induction spaced generalizing position with
  | done => rfl
  | space isSpace _ ih => rw [pairs_cons_space (mem_spaces_iff.1 isSpace), ih]
  | @pair c d x rest b isPair _ ih =>
      have whole : x.toNat / 16 * 16 + x.toNat % 16 = x.toNat := by omega
      rw [pairs_cons_cons (isDigit_iff.1 isPair.1) (isDigit_iff.1 isPair.2), ih, whole,
        UInt8.ofNat_toNat]
      rfl

theorem pairs_of_breaks {body : List Char} {place : Nat} (breaks : Breaks body place)
    (position : Nat) : pairs position body = .error (position + place) := by
  induction breaks generalizing position with
  | @space c rest place isSpace _ ih =>
      rw [pairs_cons_space (mem_spaces_iff.1 isSpace), ih, Nat.add_right_comm, Nat.add_assoc]
  | @pair c d x rest place isPair _ ih =>
      rw [pairs_cons_cons (isDigit_iff.1 isPair.1) (isDigit_iff.1 isPair.2), ih,
        Nat.add_right_comm, Nat.add_assoc]
      rfl
  | @first c rest noSpace noDigit =>
      have solid : isSpace c = false := by
        rwa [mem_spaces_iff, Bool.not_eq_true] at noSpace
      cases rest <;> simp [pairs, solid, not_isDigit_iff.1 noDigit]
  | @second c n rest isDigit alone =>
      have read := isDigit_iff.1 isDigit
      have solid := (digit_of_value? read).2.2
      cases rest with
      | nil => simp [pairs, solid, read]
      | cons d others => simp [pairs, solid, read, not_isDigit_iff.1 (alone d rfl)]

/-- Whatever characters there are, they are spaced pairs or one of them is out of place. -/
theorem spaced_or_breaks : (body : List Char) → (∃ b, Spaced body b) ∨ ∃ place, Breaks body place
  | [] => .inl ⟨[], .done⟩
  | c :: rest => by
      -- A space takes one character off the front and a pair takes two, as in both relations.
      by_cases isSpace : c ∈ spaces
      · rcases spaced_or_breaks rest with ⟨b, spaced⟩ | ⟨place, breaks⟩
        · exact .inl ⟨b, .space isSpace spaced⟩
        · exact .inr ⟨place + 1, .space isSpace breaks⟩
      · cases first : value? c with
        | none => exact .inr ⟨0, .first isSpace (not_isDigit_iff.2 first)⟩
        | some high =>
            match rest with
            | [] => exact .inr ⟨1, .second (isDigit_iff.2 first) nofun⟩
            | d :: others =>
                cases second : value? d with
                | none =>
                    refine .inr ⟨1, .second (isDigit_iff.2 first) ?_⟩
                    rintro _ ⟨⟩
                    exact not_isDigit_iff.2 second
                | some low =>
                    have isPair := isPair_ofNat first second
                    rcases spaced_or_breaks others with ⟨b, spaced⟩ | ⟨place, breaks⟩
                    · exact .inl ⟨_, .pair isPair spaced⟩
                    · exact .inr ⟨place + 2, .pair isPair breaks⟩

/-! ### The whole reader -/

/-- There is nothing but ASCII in spaced pairs. -/
theorem Spaced.ascii {body : List Char} {b : Bytes} (spaced : Spaced body b) :
    ∀ c ∈ body, c.toNat < 128 := by
  have space : ∀ c ∈ spaces, c.toNat < 128 := by simp [spaces]
  induction spaced with
  | done => exact nofun
  | @space d rest b isSpace _ ih =>
      rintro c (_ | ⟨_, behind⟩)
      · exact space d isSpace
      · exact ih c behind
  | pair isPair _ ih =>
      rintro c (_ | ⟨_, _ | ⟨_, behind⟩⟩)
      · exact ascii_of_value? (isDigit_iff.1 isPair.1)
      · exact ascii_of_value? (isDigit_iff.1 isPair.2)
      · exact ih c behind

theorem findIdx?_beyond_eq_none {body : List Char} (ascii : ∀ c ∈ body, c.toNat < 128) :
    body.findIdx? (fun c => 128 ≤ c.toNat) = none := by
  simpa using ascii

theorem parseChars_of_denotes {chars : List Char} {b : Bytes} (denotes : Denotes chars b) :
    parseChars chars = .ok b := by
  obtain ⟨body, isBody, even, spaced⟩ := denotes
  obtain rfl := isBody_iff.1 isBody
  simp only [parseChars, even, findIdx?_beyond_eq_none spaced.ascii, pairs_of_spaced spaced]
  rfl

theorem parseChars_of_flaw {chars : List Char} {e : HexError} (flaw : Flaw chars e) :
    parseChars chars = .error e := by
  cases flaw with
  | odd isBody odd =>
      obtain rfl := isBody_iff.1 isBody
      simp only [parseChars, odd]
      rfl
  | @foreign body place c isBody even here beyond ascii =>
      obtain rfl := isBody_iff.1 isBody
      obtain ⟨within, shown⟩ := List.getElem?_eq_some_iff.1 here
      have found : (unmark chars).findIdx? (fun c => 128 ≤ c.toNat) = some place := by
        rw [List.findIdx?_eq_some_iff_getElem]
        refine ⟨within, by simpa [shown] using beyond, fun i before => ?_⟩
        have small := ascii (unmark chars)[i] (List.mem_take_iff_getElem.2 ⟨i, by omega, rfl⟩)
        simpa using small
      simp only [parseChars, even, found]
      rfl
  | broken isBody even ascii breaks =>
      obtain rfl := isBody_iff.1 isBody
      simp only [parseChars, even, findIdx?_beyond_eq_none ascii, pairs_of_breaks breaks,
        Nat.zero_add]
      rfl

/-- Characters denote octets or have a flaw. -/
theorem denotes_or_flaw (chars : List Char) :
    (∃ b, Denotes chars b) ∨ ∃ e, Flaw chars e := by
  have isBody : IsBody chars (unmark chars) := isBody_iff.2 rfl
  -- The cases are split in the order in which flaws count: number, alphabet, pairs.
  rcases Nat.mod_two_eq_zero_or_one (unmark chars).length with even | odd
  · cases found : (unmark chars).findIdx? (fun c => 128 ≤ c.toNat) with
    | some place =>
        obtain ⟨within, beyond, before⟩ := List.findIdx?_eq_some_iff_getElem.1 found
        refine .inr ⟨_, .foreign isBody even (List.getElem?_eq_getElem within)
          (of_decide_eq_true beyond) fun d member => ?_⟩
        obtain ⟨i, below, rfl⟩ := List.mem_take_iff_getElem.1 member
        simpa using before i (by omega)
    | none =>
        have ascii : ∀ c ∈ unmark chars, c.toNat < 128 := by simpa using found
        rcases spaced_or_breaks (unmark chars) with ⟨b, spaced⟩ | ⟨place, breaks⟩
        · exact .inl ⟨b, _, isBody, even, spaced⟩
        · exact .inr ⟨_, .broken isBody even ascii breaks⟩
  · exact .inr ⟨_, .odd isBody odd⟩

/-- Octets are read from the characters that denote them, and from no others. -/
theorem parseChars_eq_ok_iff {chars : List Char} {b : Bytes} :
    parseChars chars = .ok b ↔ Denotes chars b := by
  refine ⟨fun read => ?_, parseChars_of_denotes⟩
  rcases denotes_or_flaw chars with ⟨octets, denotes⟩ | ⟨e, flaw⟩
  · rw [parseChars_of_denotes denotes, Except.ok.injEq] at read
    rwa [← read]
  · rw [parseChars_of_flaw flaw] at read
    cases read

/-- Characters are refused for their flaw, and for nothing else. -/
theorem parseChars_eq_error_iff {chars : List Char} {e : HexError} :
    parseChars chars = .error e ↔ Flaw chars e := by
  refine ⟨fun refused => ?_, parseChars_of_flaw⟩
  rcases denotes_or_flaw chars with ⟨octets, denotes⟩ | ⟨found, flaw⟩
  · rw [parseChars_of_denotes denotes] at refused
    cases refused
  · rw [parseChars_of_flaw flaw, Except.error.injEq] at refused
    rwa [← refused]

instance (chars : List Char) (b : Bytes) : Decidable (Denotes chars b) :=
  decidable_of_iff _ parseChars_eq_ok_iff

instance (chars : List Char) (e : HexError) : Decidable (Flaw chars e) :=
  decidable_of_iff _ parseChars_eq_error_iff

/-! ### What is printed -/

theorem spaced_digits (b : Bytes) : Spaced (digits b) b := by
  induction b with
  | nil => exact .done
  | cons x rest ih => exact .pair (isPair_digit x) ih

theorem length_digits_even (b : Bytes) : (digits b).length % 2 = 0 := by
  rw [length_digits, Nat.mul_mod_right]

/-- The marked digits of octets denote them. -/
theorem denotes_ofBytes (b : Bytes) : Denotes (ofBytes b).toList b := by
  rw [ofBytes, String.toList_ofList]
  exact ⟨_, .small _, length_digits_even b, spaced_digits b⟩

/-- The bare digits of octets denote them, as no digit can be taken for the letter of a mark. -/
theorem denotes_bare (b : Bytes) : Denotes (bare b).toList b := by
  have noLetter : ∀ letter, value? letter = none → ∀ rest, digits b ≠ '0' :: letter :: rest := by
    intro letter none rest marked
    have isDigit := value?_of_mem_digits (b := b) (c := letter) (by simp [marked])
    rw [none] at isDigit
    cases isDigit
  rw [bare, String.toList_ofList]
  exact ⟨_, .unmarked (noLetter 'x' rfl) (noLetter 'X' rfl), length_digits_even b, spaced_digits b⟩

end MultisigQueue.Hex
