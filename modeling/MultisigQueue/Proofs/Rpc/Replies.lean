/-
Module: MultisigQueue.Proofs.Rpc.Replies
Purpose: What is read from hexadecimal arguments and replies, and that printed octets come through.
Main exports:
  HexError.cause, Value.hexBytes_eq_ok_iff, Value.hexBytes_eq_error_iff, Rpc.callResult_eq_ok_iff,
  Rpc.Gives, Rpc.Answered, Rpc.Answers, Rpc.ethCall_of_answers, Rpc.Carries, hexText_exact
-/
import MultisigQueue.Proofs.Rpc.Retries
import MultisigQueue.Proofs.Text.Grammar

namespace MultisigQueue

/-!
Arguments and the replies to calls are read by the same grammar. A text that denotes octets is read
as them and any other is refused for its flaw, which is always one of the value. A node that prints
octets as digits writes a text that denotes them, so the caller gets the octets that the node had.
-/

/-- The flaw of a hexadecimal text as the cause for which it is refused. -/
def HexError.cause : HexError → InputError
  | oddLength => .oddHex
  | badDigit position => .badHex position

/-- A text is refused as something of the right kind. -/
theorem HexError.sort_cause (flaw : HexError) : flaw.cause.sort = .value := by
  cases flaw <;> rfl

namespace Value

theorem hexChars_eq (chars : List Char) :
    hexChars chars = (Hex.parseChars chars).mapError HexError.cause := by
  rw [hexChars]
  cases Hex.parseChars chars with
  | ok b => rfl
  | error flaw => cases flaw <;> rfl

/-- A text is read by its characters, where half a character that stands alone counts as one that
replaces it. -/
theorem hexBytes_ofPoints (points : List Nat) :
    (ofPoints points).hexBytes = hexChars (points.map Text.charOf) := by
  rw [ofPoints]
  split
  · rfl
  · rw [hexBytes, String.toList_ofList]

theorem hexChars_eq_ok_iff {chars : List Char} {b : Bytes} :
    hexChars chars = .ok b ↔ Hex.Denotes chars b := by
  rw [hexChars_eq, mapError_eq_ok_iff, Hex.parseChars_eq_ok_iff]

/-- Octets are read from a text that denotes them, and from no other. -/
theorem hexBytes_eq_ok_iff {points : List Nat} {b : Bytes} :
    (ofPoints points).hexBytes = .ok b ↔ Hex.Denotes (points.map Text.charOf) b := by
  rw [hexBytes_ofPoints, hexChars_eq_ok_iff]

/-- A text is refused for its flaw, and for nothing else. -/
theorem hexBytes_eq_error_iff {points : List Nat} {e : InputError} :
    (ofPoints points).hexBytes = .error e ↔
      ∃ flaw, Hex.Flaw (points.map Text.charOf) flaw ∧ flaw.cause = e := by
  simp only [hexBytes_ofPoints, hexChars_eq, mapError_eq_error_iff, Hex.parseChars_eq_error_iff]

end Value

namespace Rpc

/-- The result of a call is read as hexadecimal text is. -/
theorem callResult_eq_ok_iff {result : Value} {b : Bytes} :
    callResult result = .ok b ↔ result.hexBytes = .ok b := by
  cases result with
  | text s => cases read : (Value.text s).hexBytes <;> simp [callResult, read]
  | unpaired points => cases read : (Value.unpaired points).hexBytes <;> simp [callResult, read]
  | _ => exact ⟨nofun, nofun⟩

/-- Whether a response gives a result: its document is an object with the result and without an
error. -/
inductive Gives (r : HttpResponse) (value : Value) : Prop where
  | object {fields : List (String × Value)}
      (isObject : document? r.body = .ok (some (.object fields)))
      (noError : Value.field? fields "error" = none ∨ Value.field? fields "error" = some .null)
      (hasResult : Value.field? fields "result" = some value) : Gives r value

theorem result_of_gives {r : HttpResponse} {value : Value} (gives : Gives r value)
    (method : Value) : result method r = .ok value := by
  cases gives with
  | object isObject noError hasResult =>
      rw [result_object method isObject]
      rcases noError with noError | noError <;> simp [noError, hasResult]

section Calls

variable {σ : Type} {t : Transport σ} {o : Options} {posted : HttpRequest} {r : HttpResponse}
  {left number : Nat} {before after : σ}

/-- Whether attempts to post a request come to a response: after outcomes that may pass and the
pauses that follow them, with so many retries left and the next attempt of a number. -/
inductive Answered (t : Transport σ) (o : Options) (posted : HttpRequest) (r : HttpResponse) :
    Nat → Nat → σ → σ → Prop where
  | now {left number : Nat} {before after : σ}
      (came : (t.post posted).run before = (.response r, after))
      (final : (Outcome.response r).IsFinal) : Answered t o posted r left number before after
  | later {left number : Nat} {before between rested after : σ} {outcome : Outcome}
      {text : String} {seconds : Float} (came : (t.post posted).run before = (outcome, between))
      (transient : Transient outcome text) (paused : o.pauseAfter number = .ok seconds)
      (waited : (t.pause seconds).run between = (.ok (), rested))
      (rest : Answered t o posted r left (number + 1) rested after) :
      Answered t o posted r (left + 1) number before after

/-- Attempts that come to a response end with what it means. -/
theorem runFrom_attempts_of_answered {request : Request} {document : String}
    (written : request.body = .ok document)
    (answered : Answered t o (o.posted request) r left number before after) {line : Line σ}
    (isOpen : line.connection.isOpen = true) (options : line.connection.options = o)
    (transport : line.transport = before) :
    (attempts t request (left + 1) number).runFrom line =
      (result request.method r, { line with transport := after }) := by
  induction answered generalizing line with
  | @now left number before after came final =>
      subst options transport
      rw [runFrom_attempts_succ written left number isOpen came,
        transientText?_eq_none_iff.2 final]
      rfl
  | @later left number before between rested after outcome text seconds came transient paused
      waited rest ih =>
      subst options transport
      rw [runFrom_attempts_succ written (left + 1) number isOpen came,
        transientText?_eq_some_iff.2 transient]
      simp only [Options.pauseAfter] at paused
      simp only [Nat.succ_ne_zero, if_false, paused, waited]
      exact ih isOpen rfl rfl

variable {line : Line σ} {target : Address} {data : Bytes} {block : Value}

/-- Whether a read-only call over a line is answered by a response: the line is open, the call can
be written, and the attempts to post it, as many as the line makes, come to the response. -/
structure Answers (t : Transport σ) (line : Line σ) (target : Address) (data : Bytes)
    (block : Value) (r : HttpResponse) (after : σ) : Prop where
  isOpen : line.connection.isOpen = true
  named : Json.isWhole block = true
  answered : ∃ retries : Nat, line.connection.options.maxRetries = .int retries ∧
    Answered t line.connection.options (line.connection.options.posted
      { id := line.connection.nextId, method := callMethod,
        params := callParams target data block }) r retries 1 line.transport after

/-- A call that is answered with a text of octets comes to the octets. -/
theorem ethCall_of_answers {value : Value} {b : Bytes}
    (answers : Answers t line target data block r after) (gives : Gives r value)
    (read : value.hexBytes = .ok b) :
    (ethCall t target data block).runFrom line =
      (.ok b, { line.numbered with transport := after }) := by
  obtain ⟨document, written⟩ := body_ethCall line.connection.nextId target data answers.named
  obtain ⟨retries, limited, answered⟩ := answers.answered
  have asked : (request t callMethod (callParams target data block)).runFrom line =
      (.ok value, { line.numbered with transport := after }) := by
    rw [runFrom_request limited, ← result_of_gives gives callMethod]
    exact runFrom_attempts_of_answered written answered answers.isOpen rfl rfl
  rw [runFrom_ethCall]
  simp only [asked, Except.bind, callResult_eq_ok_iff.2 read]
  rfl

end Calls

/-- Whether a text carries octets to wherever hexadecimal text is read: they are read from it as an
argument and as the result of a call, and every call that is answered with it comes to them. -/
structure Carries (text : String) (b : Bytes) : Prop where
  argument : (Value.text text).hexBytes = .ok b
  result : callResult (.text text) = .ok b
  reply : ∀ (σ : Type) (t : Transport σ) (line : Line σ) (target : Address) (data : Bytes)
    (block : Value) (r : HttpResponse) (after : σ), Answers t line target data block r after →
      Gives r (.text text) →
        (ethCall t target data block).runFrom line =
          (.ok b, { line.numbered with transport := after })

/-- A text that denotes octets carries them. -/
theorem carries_of_denotes {text : String} {b : Bytes} (denotes : Hex.Denotes text.toList b) :
    Carries text b := by
  have read : (Value.text text).hexBytes = .ok b := Value.hexChars_eq_ok_iff.2 denotes
  exact
    { argument := read
      result := callResult_eq_ok_iff.2 read
      reply := fun _ _ _ _ _ _ _ _ answers gives => ethCall_of_answers answers gives read }

end Rpc

section Exactness

open Value (ofPoints hexBytes_eq_ok_iff hexBytes_eq_error_iff)
open Rpc

/-- Octets are read from exactly the texts that denote them, every other text is refused as a bad
value and for its flaw, and octets that are printed, with a mark or without, come through every
reading, that of the reply to a call included. -/
theorem hexText_exact (points : List Nat) (b : Bytes) :
    ((ofPoints points).hexBytes = .ok b ↔ Hex.Denotes (points.map Text.charOf) b) ∧
    ((¬∃ octets, Hex.Denotes (points.map Text.charOf) octets) ↔
      ∃ e, (ofPoints points).hexBytes = .error e ∧ e.sort = .value) ∧
    (∀ e, (ofPoints points).hexBytes = .error e ↔
      ∃ flaw, Hex.Flaw (points.map Text.charOf) flaw ∧ flaw.cause = e) ∧
    Carries (Hex.ofBytes b) b ∧ Carries (Hex.bare b) b := by
  refine ⟨hexBytes_eq_ok_iff, ?refused, fun e => hexBytes_eq_error_iff, ?marked, ?bare⟩
  case refused =>
    constructor
    · intro none
      cases read : (ofPoints points).hexBytes with
      | ok octets => exact absurd ⟨octets, hexBytes_eq_ok_iff.1 read⟩ none
      | error e =>
          obtain ⟨flaw, -, rfl⟩ := hexBytes_eq_error_iff.1 read
          exact ⟨_, rfl, flaw.sort_cause⟩
    · rintro ⟨e, refused, -⟩ ⟨octets, denotes⟩
      rw [hexBytes_eq_ok_iff.2 denotes] at refused
      cases refused
  case marked => exact carries_of_denotes (Hex.denotes_ofBytes b)
  case bare => exact carries_of_denotes (Hex.denotes_bare b)

/-- The response of a node that prints two octets. -/
def Rpc.printedReply : HttpResponse where
  status := 200
  body := [123, 34, 106, 115, 111, 110, 114, 112, 99, 34, 58, 34, 50, 46, 48, 34, 44, 34, 105, 100,
    34, 58, 48, 44, 34, 114, 101, 115, 117, 108, 116, 34, 58, 34, 48, 120, 99, 97, 102, 101, 34,
    125]

theorem gives_printedReply : Gives printedReply (.text (Hex.ofBytes [0xca, 0xfe])) := by
  have isObject : document? printedReply.body = .ok (some (.object
      [("jsonrpc", .text "2.0"), ("id", .int 0), ("result", .text "0xcafe")])) := rfl
  exact .object isObject (.inl rfl) rfl

/-- A line with two retries and no pauses that loses an attempt, finds the node too busy for another
and gets the printed octets for the third. -/
def Rpc.Line.printed : Line (List (Except String HttpResponse)) where
  connection :=
    { options :=
        { url := "http://rpc.test"
          maxRetries := .int 2
          backoffBase := .int 0
          backoffFactor := .int 2 } }
  transport := [.error "lost", .ok ⟨503, []⟩, .ok printedReply]

theorem answers_printed : Answers scripted .printed .zero [1, 2] (.int 16) printedReply [] := by
  have final : (Outcome.response printedReply).IsFinal := transientText?_eq_none_iff.1 rfl
  refine ⟨rfl, rfl, 2, rfl, ?_⟩
  exact .later rfl (.failed "lost") rfl rfl <|
    .later rfl (.status (by decide)) rfl rfl (.now rfl final)

/-- Octets are read from digits in both cases with white space around their pairs; a space inside a
pair and half a character are refused where they stand; and a call that is answered in the end with
printed octets comes to them. -/
theorem hexText_exact_spaced :
    (ofPoints (Text.points "0X cA\tFe\n ")).hexBytes = .ok [0xca, 0xfe] ∧
    (ofPoints (Text.points "0xc afe\n")).hexBytes = .error (.badHex 1) ∧
    (¬∃ octets, Hex.Denotes ((Text.points "0xc afe\n").map Text.charOf) octets) ∧
    (ofPoints [0x30, 0xd800]).hexBytes = .error (.badHex 1) ∧
    ((ethCall scripted .zero [1, 2] (.int 16)).runFrom .printed).1 = .ok [0xca, 0xfe] := by
  obtain ⟨read, -, -, printed, -⟩ :=
    hexText_exact (Text.points "0X cA\tFe\n ") [0xca, 0xfe]
  obtain ⟨-, refused, flawed, -⟩ := hexText_exact (Text.points "0xc afe\n") []
  obtain ⟨-, -, half, -⟩ := hexText_exact [0x30, 0xd800] []
  have inside := (flawed (.badHex 1)).2 ⟨.badDigit 1, by decide +kernel, rfl⟩
  refine ⟨read.2 (by decide +kernel), inside, refused.2 ⟨_, inside, rfl⟩, ?half, ?called⟩
  case half => exact (half (.badHex 1)).2 ⟨.badDigit 1, by decide +kernel, rfl⟩
  case called =>
    rw [printed.reply _ _ _ _ _ _ _ _ answers_printed gives_printedReply]

end Exactness

end MultisigQueue
