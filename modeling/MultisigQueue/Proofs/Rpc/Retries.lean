/-
Module: MultisigQueue.Proofs.Rpc.Retries
Purpose: How often requests are posted, what is waited for in between, and what they come to.
Main exports:
  Rpc.Transient, Rpc.Tape, Rpc.Course, Rpc.exists_course, Rpc.Exchange, Rpc.Exchange.Retries,
  Rpc.inTurn, Rpc.MadeInTurn, Rpc.Retried, Rpc.inTurn_retried
-/
import Mathlib.Data.ENat.Lattice
import MultisigQueue.Proofs.Rpc.Failures

namespace MultisigQueue.Rpc

/-!
A transport gives outcomes by an endless script and keeps what is done to it. A request is posted
until an outcome is not transient or no retry is left, and there is a pause before every attempt but
the first. The pauses grow with the number of the attempt. One that has grown too long to be
computed breaks a request off: with enough retries that is a third end beside the other two.
-/

/-- An outcome that may pass, with the text in which it is told. -/
inductive Transient : Outcome → String → Prop where
  | failed (text : String) : Transient (.failed text) text
  | status {r : HttpResponse} (passes : r.status ∈ ([429, 502, 503, 504] : List Int)) :
      Transient (.response r) ("HTTP " ++ Numeral.decimal r.status)

/-- Whether an outcome ends the attempts. -/
def Outcome.IsFinal (outcome : Outcome) : Prop := ∀ text, ¬Transient outcome text

theorem transientText?_eq_some_iff {outcome : Outcome} {text : String} :
    transientText? outcome = some text ↔ Transient outcome text := by
  constructor
  · intro told
    cases outcome with
    | failed words =>
        cases told
        exact .failed text
    | gaveUp name => cases told
    | response r =>
        simp only [transientText?, Option.ite_none_right_eq_some, Option.some.injEq] at told
        obtain ⟨passes, rfl⟩ := told
        exact .status (List.contains_iff_mem.1 passes)
  · intro transient
    cases transient with
    | failed => rfl
    | status passes => exact if_pos (List.contains_iff_mem.2 passes)

theorem transientText?_eq_none_iff {outcome : Outcome} :
    transientText? outcome = none ↔ outcome.IsFinal := by
  simp only [Option.eq_none_iff_forall_ne_some, ne_eq, transientText?_eq_some_iff, Outcome.IsFinal]

/-- The place, counted from 1, of the first item of an endless sequence that has a property, if any
has it. -/
noncomputable def firstOf (p : Nat → Prop) : ℕ∞ := ⨅ i : { i // p i }, ((i.val + 1 : Nat) : ℕ∞)

theorem le_firstOf_iff {p : Nat → Prop} {n : Nat} :
    ((n + 1 : Nat) : ℕ∞) ≤ firstOf p ↔ ∀ i < n, ¬p i := by
  rw [firstOf, le_iInf_iff]
  constructor
  · intro least i below holds
    have late : n + 1 ≤ i + 1 := by exact_mod_cast least ⟨i, holds⟩
    omega
  · rintro none ⟨i, holds⟩
    have late : n ≤ i := Nat.le_of_not_lt fun below => none i below holds
    exact_mod_cast Nat.succ_le_succ late

theorem firstOf_le_iff {p : Nat → Prop} {n : Nat} : firstOf p ≤ n ↔ ∃ i < n, p i := by
  constructor
  · intro early
    have before : firstOf p < (n + 1 : Nat) := early.trans_lt (by exact_mod_cast n.lt_succ_self)
    obtain ⟨⟨i, holds⟩, below⟩ := iInf_lt_iff.1 before
    have small : i + 1 < n + 1 := by exact_mod_cast below
    exact ⟨i, by omega, holds⟩
  · rintro ⟨i, below, holds⟩
    exact iInf_le_of_le ⟨i, holds⟩ (by exact_mod_cast below)

/-- The pause after an attempt over a connection. What is added at random is left to the transport.
-/
def Options.pauseAfter (o : Options) (number : Nat) : Except InputError Float :=
  backoff o.backoffBase o.backoffFactor (.int number)

/-- The number of the first attempt after which the pause cannot be computed. -/
noncomputable def Options.firstUnpaused (o : Options) : ℕ∞ :=
  firstOf fun i => ∃ cause, o.pauseAfter (i + 1) = .error cause

/-- What is done to a transport. -/
inductive Act where
  | posted (r : HttpRequest)
  | waited (seconds : Float)

/-- What is done to a transport for a request with these pauses between its attempts. -/
def actsOf (posted : HttpRequest) (pauses : List Float) : List Act :=
  .posted posted :: pauses.flatMap fun seconds => [.waited seconds, .posted posted]

/-- An endless script of outcomes, with the number of those that have been given and with what has
been done until then. -/
structure Tape where
  script : Nat → Outcome
  given : Nat := 0
  acts : List Act := []

namespace Tape

/-- The transport that gives the outcomes of its script one after another, and notes every pause
without refusing any. -/
def transport : Transport Tape where
  post r := modifyGet fun tape =>
    (tape.script tape.given,
      { tape with given := tape.given + 1, acts := tape.acts ++ [.posted r] })
  pause seconds := do
    modify fun tape => { tape with acts := tape.acts ++ [.waited seconds] }
    return .ok ()

/-- A tape after the attempts to make a request, with these pauses between them. -/
def after (tape : Tape) (posted : HttpRequest) (pauses : List Float) : Tape :=
  { tape with
    given := tape.given + (pauses.length + 1)
    acts := tape.acts ++ actsOf posted pauses }

theorem post_run (tape : Tape) (posted : HttpRequest) :
    (transport.post posted).run tape = (tape.script tape.given, tape.after posted []) := rfl

/-- The attempts after a pause and those before it are made one after the other. -/
theorem after_pause (tape : Tape) (posted : HttpRequest) (seconds : Float) (pauses : List Float) :
    (((transport.pause seconds).run (tape.after posted [])).2).after posted pauses =
      tape.after posted (seconds :: pauses) := by
  have acts : tape.acts ++ actsOf posted [] ++ [.waited seconds] ++ actsOf posted pauses =
      tape.acts ++ actsOf posted (seconds :: pauses) := by
    simp [actsOf]
  have given : tape.given + (0 + 1) + (pauses.length + 1) =
      tape.given + (pauses.length + 1 + 1) := by
    omega
  calc ((transport.pause seconds).run (tape.after posted [])).2.after posted pauses
      = { script := tape.script
          given := tape.given + (0 + 1) + (pauses.length + 1)
          acts := tape.acts ++ actsOf posted [] ++ [.waited seconds] ++ actsOf posted pauses } :=
        rfl
    _ = tape.after posted (seconds :: pauses) := by rw [acts, given]; rfl

end Tape

/-- A request that cannot be written is not posted over an open connection. -/
theorem runFrom_attempts_unwritten {σ : Type} {t : Transport σ} {request : Request}
    {cause : InputError} (refused : request.body = .error cause) (left : Nat) (number : Int)
    {line : Line σ} (isOpen : line.connection.isOpen = true) :
    (attempts t request (left + 1) number).runFrom line = (.error (.input cause), line) := by
  rw [attempts]
  simp only [Query.runFrom_bind, Query.runFrom_get, isOpen, if_true, Query.runFrom_input, refused]
  rfl

/-- The course of the attempts to make a request, from a place in the script on, with so many
retries left and the next attempt of a number: the pauses that are made, and what it comes to. -/
inductive Course (o : Options) (method : Value) (script : Nat → Outcome) :
    Nat → Nat → Nat → List Float → Except Fault Value → Prop where
  | settled {start left number : Nat} (final : (script start).IsFinal) :
      Course o method script start left number [] (settle method (script start))
  | exhausted {start number : Nat} {text : String} (transient : Transient (script start) text) :
      Course o method script start 0 number []
        (.error (.rpc (.transportFailed method (.text text))))
  | brokenOff {start left number : Nat} {text : String} {cause : InputError}
      (transient : Transient (script start) text) (tooLong : o.pauseAfter number = .error cause) :
      Course o method script start (left + 1) number [] (.error (.input cause))
  | retried {start left number : Nat} {text : String} {seconds : Float} {pauses : List Float}
      {outcome : Except Fault Value} (transient : Transient (script start) text)
      (paused : o.pauseAfter number = .ok seconds)
      (rest : Course o method script (start + 1) left (number + 1) pauses outcome) :
      Course o method script start (left + 1) number (seconds :: pauses) outcome

/-- The attempts to make a request that can be written take a course, and all that is done to the
transport is to post the request and to wait for the pauses. -/
theorem exists_course {request : Request} {document : String}
    (written : request.body = .ok document) (retries number : Nat) (line : Line Tape)
    (isOpen : line.connection.isOpen = true) :
    ∃ pauses outcome,
      Course line.connection.options request.method line.transport.script line.transport.given
        retries number pauses outcome ∧
      (attempts Tape.transport request (retries + 1) number).runFrom line =
        (outcome, { line with
          transport := line.transport.after (line.connection.options.posted request) pauses }) := by
  induction retries generalizing number line with
  | zero =>
      rw [runFrom_attempts_succ written 0 number isOpen (Tape.post_run _ _)]
      cases passes : transientText? (line.transport.script line.transport.given) with
      | none => exact ⟨[], _, .settled (transientText?_eq_none_iff.1 passes), rfl⟩
      | some text => exact ⟨[], _, .exhausted (transientText?_eq_some_iff.1 passes), rfl⟩
  | succ retries ih =>
      rw [runFrom_attempts_succ written (retries + 1) number isOpen (Tape.post_run _ _)]
      cases passes : transientText? (line.transport.script line.transport.given) with
      | none => exact ⟨[], _, .settled (transientText?_eq_none_iff.1 passes), rfl⟩
      | some text =>
          have transient := transientText?_eq_some_iff.1 passes
          simp only [Nat.succ_ne_zero, if_false]
          cases paused : backoff line.connection.options.backoffBase
              line.connection.options.backoffFactor (.int number) with
          | error cause => exact ⟨[], _, .brokenOff transient paused, rfl⟩
          | ok seconds =>
              obtain ⟨pauses, outcome, course, run⟩ := ih (number + 1) { line with
                transport := ((Tape.transport.pause seconds).run
                  (line.transport.after (line.connection.options.posted request) [])).2 } isOpen
              refine ⟨seconds :: pauses, outcome, .retried transient paused course, ?_⟩
              rw [← Tape.after_pause]
              exact run

namespace Course

variable {o : Options} {method : Value} {script : Nat → Outcome} {start left number : Nat}
  {pauses : List Float} {outcome : Except Fault Value}

/-- No more retries are made than are left. -/
theorem length_le (course : Course o method script start left number pauses outcome) :
    pauses.length ≤ left := by
  induction course with
  | settled | exhausted | brokenOff => exact Nat.zero_le _
  | retried _ _ _ ih => exact Nat.succ_le_succ ih

/-- Every outcome before the last one is transient. -/
theorem not_isFinal (course : Course o method script start left number pauses outcome) :
    ∀ i < pauses.length, ¬(script (start + i)).IsFinal := by
  induction course with
  | settled | exhausted | brokenOff => exact fun i below => nomatch below
  | retried transient _ _ ih =>
      intro i below final
      cases i with
      | zero => exact final _ transient
      | succ i =>
          refine ih i (Nat.lt_of_succ_lt_succ below) ?_
          rwa [Nat.add_assoc, Nat.add_comm 1 i]

/-- The pause after every attempt before the last one is the one that belongs to its number. -/
theorem pauseAfter_eq (course : Course o method script start left number pauses outcome) :
    ∀ (i : Nat) (below : i < pauses.length), o.pauseAfter (number + i) = .ok pauses[i] := by
  induction course with
  | settled | exhausted | brokenOff => exact fun i below => nomatch below
  | retried _ paused _ ih =>
      intro i below
      cases i with
      | zero => exact paused
      | succ i =>
          have later := ih i (Nat.lt_of_succ_lt_succ below)
          rwa [Nat.add_assoc, Nat.add_comm 1 i] at later

/-- The attempts end with an outcome that is final, with the last retry, or with a pause that cannot
be computed. -/
theorem ends (course : Course o method script start left number pauses outcome) :
    ((script (start + pauses.length)).IsFinal ∧
        outcome = settle method (script (start + pauses.length))) ∨
      (∃ text, Transient (script (start + pauses.length)) text ∧
        ((pauses.length = left ∧ outcome = .error (.rpc (.transportFailed method (.text text)))) ∨
          (pauses.length < left ∧ ∃ cause, o.pauseAfter (number + pauses.length) = .error cause ∧
            outcome = .error (.input cause)))) := by
  induction course with
  | settled final => exact .inl ⟨final, rfl⟩
  | exhausted transient => exact .inr ⟨_, transient, .inl ⟨rfl, rfl⟩⟩
  | brokenOff transient tooLong =>
      exact .inr ⟨_, transient, .inr ⟨Nat.succ_pos _, _, tooLong, rfl⟩⟩
  | @retried start left number text seconds pauses outcome _ _ _ ih =>
      have place : start + (seconds :: pauses).length = start + 1 + pauses.length := by
        rw [List.length_cons]
        omega
      have count : number + (seconds :: pauses).length = number + 1 + pauses.length := by
        rw [List.length_cons]
        omega
      rw [place, count, List.length_cons, Nat.succ_lt_succ_iff, Nat.succ_inj]
      exact ih

end Course

/-- What has become of a request: the place in the script from which it was answered, the pauses
between its attempts, and what it came to. A request that cannot be written is not posted. -/
structure Exchange where
  request : Request
  start : Nat
  pauses : List Float
  outcome : Except Fault Value

namespace Exchange

/-- How often the request is posted. -/
def posts (x : Exchange) : Nat :=
  match x.request.body with
  | .ok _ => x.pauses.length + 1
  | .error _ => 0

/-- What is done to the transport. -/
def acts (o : Options) (x : Exchange) : List Act :=
  match x.request.body with
  | .ok _ => actsOf (o.posted x.request) x.pauses
  | .error _ => []

/-- The number of the first attempt whose outcome is final. -/
noncomputable def firstFinal (x : Exchange) (script : Nat → Outcome) : ℕ∞ :=
  firstOf fun i => (script (x.start + i)).IsFinal

/-- Whether a request is made with so many retries: it is posted until an outcome is final, until no
retry is left or until a pause cannot be computed, whichever comes first, and comes to what that end
says. -/
structure Retries (o : Options) (retries : Nat) (script : Nat → Outcome) (x : Exchange) : Prop where
  posts_eq : (x.posts : ℕ∞) =
    min (min (x.firstFinal script) (retries + 1 : Nat)) o.firstUnpaused
  pauses_eq : ∀ (i : Nat) (below : i < x.pauses.length),
    o.pauseAfter (i + 1) = .ok x.pauses[i]
  settled : x.firstFinal script ≤ (retries + 1 : Nat) → x.firstFinal script ≤ o.firstUnpaused →
    x.outcome = settle x.request.method (script (x.start + x.pauses.length))
  exhausted : (retries + 1 : Nat) < x.firstFinal script →
    (retries + 1 : Nat) ≤ o.firstUnpaused →
      ∃ text, Transient (script (x.start + retries)) text ∧
        x.outcome = .error (.rpc (.transportFailed x.request.method (.text text)))
  brokenOff : o.firstUnpaused < min (x.firstFinal script) (retries + 1 : Nat) →
    ∃ cause, o.pauseAfter x.posts = .error cause ∧ x.outcome = .error (.input cause)

/-- Whether a request is made with so many retries if it can be written, and otherwise fails for the
cause for which it cannot. -/
structure IsMade (o : Options) (retries : Nat) (script : Nat → Outcome) (x : Exchange) : Prop where
  retries : ∀ document, x.request.body = .ok document → x.Retries o retries script
  unwritten : ∀ cause, x.request.body = .error cause → x.outcome = .error (.input cause)

/-- A request whose attempts take a course is made with so many retries. -/
theorem retries_of_course {o : Options} {retries : Nat} {script : Nat → Outcome} {x : Exchange}
    {document : String} (written : x.request.body = .ok document)
    (course : Course o x.request.method script x.start retries 1 x.pauses x.outcome) :
    x.Retries o retries script := by
  have posts : x.posts = x.pauses.length + 1 := by rw [Exchange.posts, written]
  have few : x.posts ≤ retries + 1 := by
    rw [posts]
    exact Nat.succ_le_succ course.length_le
  have notSooner : (x.posts : ℕ∞) ≤ x.firstFinal script := by
    rw [posts]
    exact le_firstOf_iff.2 course.not_isFinal
  have paused : ∀ (i : Nat) (below : i < x.pauses.length),
      o.pauseAfter (i + 1) = .ok x.pauses[i] := by
    intro i below
    rw [Nat.add_comm]
    exact course.pauseAfter_eq i below
  have unbroken : (x.posts : ℕ∞) ≤ o.firstUnpaused := by
    rw [posts]
    refine le_firstOf_iff.2 ?_
    rintro i below ⟨cause, tooLong⟩
    rw [paused i below] at tooLong
    cases tooLong
  have most : (x.posts : ℕ∞) ≤ min (min (x.firstFinal script) (retries + 1 : Nat))
      o.firstUnpaused :=
    le_min (le_min notSooner (by exact_mod_cast few)) unbroken
  -- Each of the three ends bounds the number of posts from below by one of the three numbers.
  rcases course.ends with ⟨final, came⟩ | ⟨text, transient, unsettled⟩
  · have reached : x.firstFinal script ≤ x.posts :=
      firstOf_le_iff.2 ⟨x.pauses.length, by omega, final⟩
    refine ⟨?_, paused, fun _ _ => came, fun later => ?_, fun sooner => ?_⟩
    · exact le_antisymm most (min_le_of_left_le (min_le_of_left_le reached))
    · exact absurd (reached.trans (by exact_mod_cast few)) (not_le_of_gt later)
    · exact absurd (reached.trans unbroken) (not_le_of_gt (sooner.trans_le (min_le_left _ _)))
  · have beyond : ¬x.firstFinal script ≤ x.posts := by
      rw [firstFinal, firstOf_le_iff]
      rintro ⟨i, below, final⟩
      rw [posts] at below
      rcases Nat.lt_succ_iff_lt_or_eq.1 below with before | rfl
      · exact course.not_isFinal i before final
      · exact final text transient
    rcases unsettled with ⟨last, came⟩ | ⟨more, cause, tooLong, came⟩
    · have all : ((retries + 1 : Nat) : ℕ∞) = x.posts := by rw [posts, last]
      refine ⟨?_, paused, fun reached _ => ?_, fun _ _ => ?_, fun sooner => ?_⟩
      · exact le_antisymm most (min_le_of_left_le (min_le_of_right_le all.le))
      · exact absurd (reached.trans all.le) beyond
      · exact ⟨text, last ▸ transient, came⟩
      · exact absurd (all.le.trans unbroken) (not_le_of_gt (sooner.trans_le (min_le_right _ _)))
    · rw [Nat.add_comm] at tooLong
      have broken : o.firstUnpaused ≤ x.posts :=
        firstOf_le_iff.2 ⟨x.pauses.length, by omega, cause, tooLong⟩
      refine ⟨?_, paused, fun _ reached => ?_, fun _ left => ?_, fun _ => ?_⟩
      · exact le_antisymm most (min_le_of_right_le broken)
      · exact absurd (reached.trans broken) beyond
      · have fewer : retries + 1 ≤ x.posts := by exact_mod_cast left.trans broken
        omega
      · exact ⟨cause, posts ▸ tooLong, came⟩

end Exchange

/-- Makes requests one after another, whatever becomes of each. -/
def inTurn {σ : Type} (t : Transport σ) :
    List (Value × Value) → Line σ → List (Except Fault Value) × Line σ
  | [], line => ([], line)
  | (method, params) :: rest, line =>
    let (outcome, next) := (request t method params).runFrom line
    let (others, last) := inTurn t rest next
    (outcome :: others, last)

/-- An open connection by a tape. -/
def Line.onTape (o : Options) (nextId : Int) (tape : Tape) : Line Tape where
  connection := { options := o, nextId }
  transport := tape

/-- A tape after some requests. -/
def Tape.afterAll (tape : Tape) (o : Options) (exchanges : List Exchange) : Tape :=
  { tape with
    given := tape.given + (exchanges.map Exchange.posts).sum
    acts := tape.acts ++ exchanges.flatMap (Exchange.acts o) }

/-- Requests for some methods with their parameters, under consecutive numbers. -/
def numbered (firstId : Int) (asked : List (Value × Value)) : List Request :=
  asked.mapIdx fun i (method, params) => { id := firstId + i, method, params }

theorem numbered_cons (firstId : Int) (method params : Value) (rest : List (Value × Value)) :
    numbered firstId ((method, params) :: rest) =
      { id := firstId, method, params } :: numbered (firstId + 1) rest := by
  have next : ∀ i : Nat, firstId + 1 + (i : Int) = firstId + ((i + 1 : Nat) : Int) := by
    intro i
    omega
  simp [numbered, List.mapIdx_cons, next]

/-- Whether requests are made in turn as these exchanges: under consecutive numbers, each from where
the one before it has left the script, and with so many retries. -/
structure MadeInTurn (o : Options) (retries : Nat) (firstId : Int) (tape : Tape)
    (asked : List (Value × Value)) (exchanges : List Exchange) : Prop where
  run : inTurn Tape.transport asked (.onTape o firstId tape) =
    (exchanges.map Exchange.outcome,
      .onTape o (firstId + asked.length) (tape.afterAll o exchanges))
  requests : exchanges.map Exchange.request = numbered firstId asked
  starts : ∀ before x behind, exchanges = before ++ x :: behind →
    x.start = tape.given + (before.map Exchange.posts).sum
  made : ∀ x ∈ exchanges, x.IsMade o retries tape.script

/-- Whether requests are made in turn as these exchanges, and whether nothing more is done to the
transport once the connection has been closed. -/
structure Retried (o : Options) (retries : Nat) (firstId : Int) (tape : Tape)
    (asked : List (Value × Value)) (exchanges : List Exchange) : Prop
    extends MadeInTurn o retries firstId tape asked exchanges where
  closed : ∀ later : List (Value × Value),
    let line := (close.runFrom (.onTape o (firstId + asked.length)
      (tape.afterAll o exchanges))).2
    (inTurn Tape.transport later line).1 =
        later.map (fun (method, _) => .error (.rpc
          { code := RpcError.internalCode, message := .text "client is closed", method })) ∧
      (inTurn Tape.transport later line).2.transport = tape.afterAll o exchanges

/-- A request over an open connection is made with so many retries. -/
theorem exists_exchange {o : Options} {retries : Nat} (limited : o.maxRetries = .int retries)
    (id : Int) (tape : Tape) (method params : Value) :
    ∃ x : Exchange, x.request = { id, method, params } ∧ x.start = tape.given ∧
      x.IsMade o retries tape.script ∧
      (request Tape.transport method params).runFrom (.onTape o id tape) =
        (x.outcome, .onTape o (id + 1) (tape.afterAll o [x])) := by
  have started : (request Tape.transport method params).runFrom (.onTape o id tape) =
      (attempts Tape.transport { id, method, params } (retries + 1) 1).runFrom
        (.onTape o (id + 1) tape) :=
    runFrom_request limited method params
  rw [started]
  cases written : Request.body { id, method, params } with
  | ok document =>
      obtain ⟨pauses, outcome, course, run⟩ :=
        exists_course written retries 1 (.onTape o (id + 1) tape) rfl
      refine ⟨⟨{ id, method, params }, tape.given, pauses, outcome⟩, rfl, rfl, ⟨?_, ?_⟩, ?_⟩
      · exact fun _ _ => Exchange.retries_of_course written course
      · intro cause refused
        rw [written] at refused
        cases refused
      · have same : tape.after (o.posted { id, method, params }) pauses =
            tape.afterAll o [⟨{ id, method, params }, tape.given, pauses, outcome⟩] := by
          simp [Tape.after, Tape.afterAll, Exchange.posts, Exchange.acts, written]
        rw [← same]
        exact run
  | error cause =>
      refine ⟨⟨{ id, method, params }, tape.given, [], .error (.input cause)⟩, rfl, rfl,
        ⟨?_, ?_⟩, ?_⟩
      · intro document isWritten
        rw [written] at isWritten
        cases isWritten
      · intro other refused
        rw [written] at refused
        cases refused
        rfl
      · have same : tape = tape.afterAll o
            [⟨{ id, method, params }, tape.given, [], .error (.input cause)⟩] := by
          simp [Tape.afterAll, Exchange.posts, Exchange.acts, written]
        rw [← same]
        exact runFrom_attempts_unwritten written retries 1 rfl

/-- Requests over a closed connection fail, and nothing is done to the transport. -/
theorem inTurn_closed {σ : Type} (t : Transport σ) (asked : List (Value × Value)) (line : Line σ)
    {retries : Nat} (limited : line.connection.options.maxRetries = .int retries)
    (isClosed : line.connection.isOpen = false) :
    (inTurn t asked line).1 = asked.map (fun (method, _) => .error (.rpc (closedError method))) ∧
      (inTurn t asked line).2.transport = line.transport := by
  induction asked generalizing line with
  | nil => exact ⟨rfl, rfl⟩
  | cons first rest ih =>
      obtain ⟨method, params⟩ := first
      have fails : (request t method params).runFrom line =
          (.error (.rpc (closedError method)), line.numbered) := by
        rw [runFrom_request limited]
        exact runFrom_attempts_closed _ retries 1 isClosed
      obtain ⟨others, untouched⟩ := ih line.numbered limited isClosed
      constructor
      · simp only [inTurn, fails, List.map_cons, others]
      · simp only [inTurn, fails]
        exact untouched

/-- A request whose method and parameters are made of characters can be written. -/
theorem body_of_isWhole (id : Int) (method params : Value)
    (methodWhole : Json.isWhole method = true) (paramsWhole : Json.isWhole params = true) :
    ∃ document, Request.body { id, method, params } = .ok document := by
  have inList : Json.isWhole (paramsOf params) = true := by
    cases params with
    | list items => exact paramsWhole
    | object fields => exact paramsWhole
    | bytes _ | unpaired _ => cases paramsWhole
    | _ => rfl
  refine ⟨_, Json.strict_of_isWhole Json.compact ?_⟩
  simp [Request.payload, Json.isWhole, Json.fieldsAreWhole, methodWhole, inList]

theorem Tape.afterAll_cons (tape : Tape) (o : Options) (x : Exchange) (rest : List Exchange) :
    (tape.afterAll o [x]).afterAll o rest = tape.afterAll o (x :: rest) := by
  simp [afterAll, Nat.add_assoc]

/-- Requests over an open connection are made in turn. -/
theorem exists_madeInTurn {o : Options} {retries : Nat} (limited : o.maxRetries = .int retries)
    (firstId : Int) (tape : Tape) (asked : List (Value × Value)) :
    ∃ exchanges, MadeInTurn o retries firstId tape asked exchanges := by
  induction asked generalizing firstId tape with
  | nil =>
      refine ⟨[], ?_, rfl, fun before x behind same => ?_, fun x member => nomatch member⟩
      · simp [inTurn, Tape.afterAll]
      · exact absurd same.symm (List.append_ne_nil_of_right_ne_nil _ (List.cons_ne_nil _ _))
  | cons first rest ih =>
      obtain ⟨method, params⟩ := first
      obtain ⟨x, isRequest, starts, isMade, run⟩ :=
        exists_exchange limited firstId tape method params
      obtain ⟨others, later⟩ := ih (firstId + 1) (tape.afterAll o [x])
      refine ⟨x :: others, ?run, ?requests, ?starts, List.forall_mem_cons.2 ⟨isMade, later.made⟩⟩
      case run =>
        have number : firstId + 1 + (rest.length : Int) =
            firstId + ((rest.length + 1 : Nat) : Int) := by
          omega
        simp only [inTurn, run, later.run, number, Tape.afterAll_cons, List.map_cons,
          List.length_cons]
      case requests => rw [List.map_cons, isRequest, later.requests, numbered_cons]
      case starts =>
        intro before y behind same
        cases before with
        | nil =>
            cases same
            simpa using starts
        | cons z before =>
            obtain ⟨rfl, isOther⟩ := List.cons.inj same
            rw [later.starts before y behind isOther]
            simp [Tape.afterAll, Nat.add_assoc]

/-- Requests whose methods and parameters are made of characters are all written. -/
theorem MadeInTurn.retries_of_isWhole {o : Options} {retries : Nat} {firstId : Int} {tape : Tape}
    {asked : List (Value × Value)} {exchanges : List Exchange}
    (inTurn : MadeInTurn o retries firstId tape asked exchanges)
    (whole : ∀ a ∈ asked, Json.isWhole a.1 = true ∧ Json.isWhole a.2 = true) :
    ∀ x ∈ exchanges, x.Retries o retries tape.script := by
  intro x member
  have isNumbered : x.request ∈ numbered firstId asked :=
    inTurn.requests ▸ List.mem_map_of_mem member
  obtain ⟨i, below, isRequest⟩ := List.mem_mapIdx.1 isNumbered
  obtain ⟨methodWhole, paramsWhole⟩ := whole asked[i] (List.getElem_mem below)
  obtain ⟨document, written⟩ := body_of_isWhole (firstId + i) _ _ methodWhole paramsWhole
  exact (inTurn.made x member).retries document (isRequest ▸ written)

/-- Requests over a connection are made in turn, with as many retries as the connection has, until
it is closed. -/
theorem inTurn_retried {o : Options} {retries : Nat} (limited : o.maxRetries = .int retries)
    (firstId : Int) (tape : Tape) (asked : List (Value × Value)) :
    ∃ exchanges, Retried o retries firstId tape asked exchanges := by
  obtain ⟨exchanges, made⟩ := exists_madeInTurn limited firstId tape asked
  exact ⟨exchanges, made, fun later => inTurn_closed Tape.transport later _ limited rfl⟩

/-- A script that finds the node too busy, loses the second attempt, brings a result for the third
and loses all others. -/
def Tape.sample : Tape where
  script
    | 0 => .response ⟨503, []⟩
    | 2 => .response ⟨200, [123, 34, 114, 101, 115, 117, 108, 116, 34, 58, 49, 125]⟩
    | _ => .failed "lost"

/-- Two requests with two retries each, of which the first is answered by the sample script and the
second is not. -/
theorem inTurn_retried_sample :
    ∃ exchanges, Retried { url := "http://rpc.test", maxRetries := .int 2 } 2 1700000000000 .sample
        [(.text "eth_chainId", .null), (callMethod, callParams .zero [1, 2] (.text "latest"))]
        exchanges ∧
      ∀ x ∈ exchanges,
        x.Retries { url := "http://rpc.test", maxRetries := .int 2 } 2 Tape.sample.script := by
  obtain ⟨exchanges, retried⟩ :=
    inTurn_retried (o := { url := "http://rpc.test", maxRetries := .int 2 }) rfl 1700000000000
      .sample [(.text "eth_chainId", .null), (callMethod, callParams .zero [1, 2] (.text "latest"))]
  refine ⟨exchanges, retried, retried.retries_of_isWhole ?_⟩
  simp [callMethod, callParams, blockParam, Json.isWhole, Json.areWhole, Json.fieldsAreWhole]

/-- A power of integers that is too large to be rounded leaves no pause for a real base. -/
theorem backoff_of_large {x : Float} {b e n : Int} {number : Value} {cause : InputError}
    (before : attemptsBefore number = .ok (.int e))
    (raised : power (.int b) (.int e) = .ok (.int n))
    (large : Value.finiteReal n = .error cause) :
    backoff (.real x) (.int b) number = .error cause := by
  simp only [backoff, before, operand, Value.number?, raised, product, realNumber, large, bind,
    Except.bind]

/-- A connection with many retries that asks for no pauses, but doubles them. -/
def Options.doubling : Options where
  url := "http://rpc.test"
  maxRetries := .int 1025
  backoffBase := .real 0.0
  backoffFactor := .int 2

/-- The last pause of this connection cannot be computed: its power is the first power of 2 beyond
the real numbers. -/
theorem firstUnpaused_doubling : Options.doubling.firstUnpaused ≤ (1025 : Nat) := by
  have raised : power (.int 2) (.int 1024) = .ok (.int (2 ^ (1024 : Nat))) := rfl
  have large : Value.finiteReal (2 ^ (1024 : Nat)) = .error .integerOverflow := by
    rw [Value.finiteReal, if_pos (by decide +kernel)]
  exact firstOf_le_iff.2 ⟨1024, by decide, .integerOverflow, backoff_of_large rfl raised large⟩

/-- With enough retries a request that never goes through makes fewer attempts than it has, and
fails in another way than by the transport, since a pause cannot be computed. The factor is an
integer here, whose powers are exact, and 1025 retries are enough. With the usual factor of 1.8 it
takes 1209: then it is a power of real numbers that is too large, for the same base of 0.0. -/
theorem request_brokenOff :
    ∃ cause last, (request Tape.transport (.text "eth_chainId") .null).runFrom
        (.onTape .doubling 0 { script := fun _ => .failed "lost" }) =
          (.error (.input cause), last) ∧
      last.transport.given < 1025 + 1 := by
  have limited : Options.doubling.maxRetries = .int (1025 : Nat) := rfl
  obtain ⟨document, written⟩ := body_of_isWhole 0 (.text "eth_chainId") .null rfl rfl
  obtain ⟨x, isRequest, -, isMade, run⟩ := exists_exchange limited 0
    { script := fun _ => .failed "lost" } (.text "eth_chainId") .null
  have retried := isMade.retries document (isRequest ▸ written)
  have never : ((1025 + 1 : Nat) : ℕ∞) ≤ x.firstFinal fun _ => .failed "lost" :=
    le_firstOf_iff.2 fun _ _ final => final "lost" (.failed "lost")
  have broken : Options.doubling.firstUnpaused <
      min (x.firstFinal fun _ => .failed "lost") (1025 + 1 : Nat) := by
    rw [min_eq_right never]
    exact firstUnpaused_doubling.trans_lt (by decide)
  obtain ⟨cause, -, came⟩ := retried.brokenOff broken
  refine ⟨cause, _, run.trans (by rw [came]), ?_⟩
  have posts : (x.posts : ℕ∞) < (1025 + 1 : Nat) := by
    rw [retried.posts_eq]
    exact (min_le_right _ _).trans_lt (broken.trans_le (min_le_right _ _))
  simpa [Line.onTape, Tape.afterAll] using (by exact_mod_cast posts : x.posts < 1025 + 1)

end MultisigQueue.Rpc
