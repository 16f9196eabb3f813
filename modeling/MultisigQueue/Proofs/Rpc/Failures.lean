/-
Module: MultisigQueue.Proofs.Rpc.Failures
Purpose: What a request over a connection can come to, whatever the node answers.
Main exports:
  Rpc.Escapes, Rpc.result_settles, Rpc.Breaks, Rpc.Settles, Rpc.attempts_settle,
  Rpc.settles_unless_broken
-/
import MultisigQueue.Proofs.Json.Writer
import MultisigQueue.Proofs.Query
import MultisigQueue.Rpc.Connection

namespace MultisigQueue.Rpc

/-!
A request comes to a result, or to a failure that says what went wrong at the node or on the way to
it. There are three exceptions. One is a response that breaks the reading of it: a document beyond
the limits of reading, an error that is no object, or an error whose code is no number. The others
are a pause that is too long to be computed, and one that is computed and then refused. They are all
the exceptions there are, and the first of them always is one.
-/

/-- Why a response breaks the reading of it. -/
inductive Escapes (r : HttpResponse) : InputError → Prop where
  | beyond {cause : InputError} (unread : document? r.body = .error cause) : Escapes r cause
  | noObject {fields : List (String × Value)} {given : Value}
      (isObject : document? r.body = .ok (some (.object fields)))
      (hasError : Value.field? fields "error" = some given) (isSome : given ≠ .null)
      (other : ∀ members, given ≠ .object members) :
      Escapes r (.noAttribute given.kindName "get")
  | noNumber {fields members : List (String × Value)} {cause : InputError}
      (isObject : document? r.body = .ok (some (.object fields)))
      (hasError : Value.field? fields "error" = some (.object members))
      (uncounted : ((Value.field? members "code").getD (.int RpcError.serverCode)).toInt =
        .error cause) :
      Escapes r cause

/-- Whether an outcome is a result or a failure of the node, or else has one of some causes. -/
def Settles {α : Type} (causes : InputError → Prop) (outcome : Except Fault α) : Prop :=
  (∃ value, outcome = .ok value) ∨ (∃ e, outcome = .error (.rpc e)) ∨
    ∃ cause, outcome = .error (.input cause) ∧ causes cause

theorem Settles.imp {α : Type} {causes others : InputError → Prop} {outcome : Except Fault α}
    (settles : Settles causes outcome) (weaker : ∀ cause, causes cause → others cause) :
    Settles others outcome := by
  rcases settles with result | failure | ⟨cause, same, isCause⟩
  · exact .inl result
  · exact .inr (.inl failure)
  · exact .inr (.inr ⟨cause, same, weaker cause isCause⟩)

/-- A response with an object is an error if there is one, and else a result. -/
theorem result_object (method : Value) {r : HttpResponse} {fields : List (String × Value)}
    (read : document? r.body = .ok (some (.object fields))) :
    result method r =
      match Value.field? fields "error" with
      | none | some .null =>
        match Value.field? fields "result" with
        | some value => .ok value
        | none =>
          .error (.rpc (broken "Malformed JSON-RPC response" method (.object fields) .null))
      | some given =>
        match RpcError.ofObject given method ((Value.field? fields "id").getD .null)
            (.int r.status) with
        | .ok e => .error (.rpc e)
        | .error cause => .error (.input cause) := by
  simp only [result, read, liftM, monadLift, MonadLift.monadLift, Except.mapError, bind,
    Except.bind]
  cases Value.field? fields "error" with
  | none => cases Value.field? fields "result" <;> rfl
  | some given =>
      cases given with
      | null => cases Value.field? fields "result" <;> rfl
      | _ =>
          simp only
          generalize RpcError.ofObject _ _ _ _ = told
          cases told <;> rfl

/-- An error is told as it was given if it is an object with a number for its code. -/
theorem ofObject_settles {r : HttpResponse} {fields : List (String × Value)} {given : Value}
    (read : document? r.body = .ok (some (.object fields)))
    (hasError : Value.field? fields "error" = some given) (isSome : given ≠ .null)
    (method requestId httpStatus : Value) :
    (∃ e, RpcError.ofObject given method requestId httpStatus = .ok e) ∨
      ∃ cause, RpcError.ofObject given method requestId httpStatus = .error cause ∧
        Escapes r cause := by
  cases given with
  | object members =>
      simp only [RpcError.ofObject]
      cases counted : ((Value.field? members "code").getD (.int RpcError.serverCode)).toInt with
      | ok code => exact .inl ⟨_, rfl⟩
      | error cause => exact .inr ⟨cause, rfl, .noNumber read hasError counted⟩
  | null => exact absurd rfl isSome
  | _ => exact .inr ⟨_, rfl, .noObject read hasError isSome (fun _ same => nomatch same)⟩

/-- A response gives a result or a failure of the node unless it breaks the reading of it. -/
theorem result_settles (method : Value) (r : HttpResponse) :
    Settles (Escapes r) (result method r) := by
  cases read : document? r.body with
  | error cause =>
      unfold result
      rw [read]
      exact .inr (.inr ⟨cause, rfl, .beyond read⟩)
  | ok found =>
      rcases found with _ | document
      · unfold result
        rw [read]
        exact .inr (.inl ⟨_, rfl⟩)
      · cases document with
        | object fields =>
            rw [result_object method read]
            cases hasError : Value.field? fields "error" with
            | none => cases Value.field? fields "result" <;> simp [Settles]
            | some given =>
                cases given with
                | null => cases Value.field? fields "result" <;> simp [Settles]
                | _ =>
                    rcases ofObject_settles read hasError (by simp) method
                      ((Value.field? fields "id").getD .null) (.int r.status) with
                      ⟨e, told⟩ | ⟨cause, told, escapes⟩
                    · simp only [told]
                      exact .inr (.inl ⟨e, rfl⟩)
                    · simp only [told]
                      exact .inr (.inr ⟨cause, rfl, escapes⟩)
        | _ =>
            unfold result
            rw [read]
            exact .inr (.inl ⟨_, rfl⟩)

/-- A response that breaks the reading of it gives neither. -/
theorem result_of_escapes (method : Value) {r : HttpResponse} {cause : InputError}
    (escapes : Escapes r cause) : result method r = .error (.input cause) := by
  cases escapes with
  | beyond unread =>
      unfold result
      rw [unread]
      rfl
  | @noObject fields given isObject hasError isSome other =>
      rw [result_object method isObject, hasError]
      cases given with
      | null => exact absurd rfl isSome
      | object members => exact absurd rfl (other members)
      | _ => rfl
  | noNumber isObject hasError uncounted =>
      rw [result_object method isObject, hasError]
      simp only [RpcError.ofObject, uncounted]
      rfl

section Attempts

variable {σ : Type} {t : Transport σ}

/-- Why a request ends with another failure than one of the node: the last response breaks the
reading of it, or a pause after one of the attempts cannot be computed or is refused. -/
inductive Breaks (t : Transport σ) (posted : HttpRequest) (o : Options) (retries : Nat) (last : σ) :
    InputError → Prop where
  | response {r : HttpResponse} {s : σ} {cause : InputError}
      (answered : (t.post posted).run s = (.response r, last))
      (isFinal : isTransientStatus r.status = false) (escapes : Escapes r cause) :
      Breaks t posted o retries last cause
  | pause {number : Int} {cause : InputError} (isFirst : 1 ≤ number) (isRetried : number ≤ retries)
      (tooLong : backoff o.backoffBase o.backoffFactor (.int number) = .error cause) :
      Breaks t posted o retries last cause
  | refused {number : Int} {seconds : Float} {s : σ} {cause : InputError} (isFirst : 1 ≤ number)
      (isRetried : number ≤ retries)
      (paused : backoff o.backoffBase o.backoffFactor (.int number) = .ok seconds)
      (refused : (t.pause seconds).run s = (.error cause, last)) :
      Breaks t posted o retries last cause

/-- What is posted for a request over a connection. -/
def Options.posted (o : Options) (request : Request) : HttpRequest :=
  { url := o.url, headers := o.headers, request }

theorem runFrom_post (request : Request) (line : Line σ) :
    (post t request).runFrom line =
      (.ok ((t.post (line.connection.options.posted request)).run line.transport).1,
        { line with
          transport :=
            ((t.post (line.connection.options.posted request)).run line.transport).2 }) :=
  rfl

/-- A closed connection makes no attempt. -/
theorem runFrom_attempts_closed (request : Request) (left : Nat) (number : Int) {line : Line σ}
    (closed : line.connection.isOpen = false) :
    (attempts t request (left + 1) number).runFrom line =
      (.error (.rpc (closedError request.method)), line) := by
  rw [attempts]
  simp only [Query.runFrom_bind, Query.runFrom_get, closed]
  rfl

/-- What an attempt over an open connection leads to. -/
theorem runFrom_attempts_succ {request : Request} {document : String}
    (written : request.body = .ok document) (left : Nat) (number : Int) {line : Line σ}
    (isOpen : line.connection.isOpen = true) {outcome : Outcome} {after : σ}
    (answered : (t.post (line.connection.options.posted request)).run line.transport =
      (outcome, after)) :
    (attempts t request (left + 1) number).runFrom line =
      match transientText? outcome with
      | none => (settle request.method outcome, { line with transport := after })
      | some text =>
        if left = 0 then
          (.error (.rpc (.transportFailed request.method (.text text))),
            { line with transport := after })
        else
          match backoff line.connection.options.backoffBase line.connection.options.backoffFactor
              (.int number) with
          | .error cause => (.error (.input cause), { line with transport := after })
          | .ok seconds =>
            match (t.pause seconds).run after with
            | (.error cause, later) => (.error (.input cause), { line with transport := later })
            | (.ok (), later) =>
              (attempts t request left (number + 1)).runFrom { line with transport := later } := by
  rw [attempts]
  simp only [Query.runFrom_bind, Query.runFrom_get, isOpen, if_true, Query.runFrom_input, written,
    runFrom_post, answered, Except.mapError]
  cases transientText? outcome with
  | none => rfl
  | some text =>
      simp only
      split
      · rfl
      · simp only [Query.runFrom_bind, Query.runFrom_input]
        cases backoff line.connection.options.backoffBase line.connection.options.backoffFactor
            (.int number) with
        | error cause => rfl
        | ok seconds =>
            simp only [pause, Query.runFrom_bind, Query.runFrom_get, Except.mapError]
            rcases (t.pause seconds).run after with ⟨cause | _, later⟩
            · rfl
            · rfl

/-- Attempts to make a request that can be written come to a result or a failure of the node, unless
a response or a pause breaks them off. -/
theorem attempts_settle (stays : ∀ posted s name, ((t.post posted).run s).1 ≠ .gaveUp name)
    {request : Request} {document : String} (written : request.body = .ok document) {o : Options}
    {retries left : Nat} {number : Int} (isFirst : 1 ≤ number) (few : number + left ≤ retries + 2)
    {line : Line σ} (options : line.connection.options = o) :
    ∃ outcome last, (attempts t request left number).runFrom line = (outcome, last) ∧
      Settles (Breaks t (o.posted request) o retries last.transport) outcome := by
  induction left generalizing number line with
  | zero => exact ⟨_, line, rfl, .inr (.inl ⟨_, rfl⟩)⟩
  | succ left ih =>
      cases isOpen : line.connection.isOpen with
      | false =>
          exact ⟨_, line, runFrom_attempts_closed request left number isOpen, .inr (.inl ⟨_, rfl⟩)⟩
      | true =>
          subst options
          rcases answered : (t.post (line.connection.options.posted request)).run line.transport
            with ⟨outcome, after⟩
          rw [runFrom_attempts_succ written left number isOpen answered]
          cases passes : transientText? outcome with
          | none =>
              refine ⟨_, _, rfl, ?_⟩
              cases outcome with
              | response r =>
                  have isFinal : isTransientStatus r.status = false := by
                    simpa [transientText?] using passes
                  exact (result_settles request.method r).imp fun cause escapes =>
                    .response answered isFinal escapes
              | failed text => cases passes
              | gaveUp name => exact absurd (congrArg Prod.fst answered) (stays _ _ name)
          | some text =>
              simp only
              split
              · exact ⟨_, _, rfl, .inr (.inl ⟨_, rfl⟩)⟩
              · rename_i more
                split
                · rename_i cause tooLong
                  refine ⟨_, _, rfl, .inr (.inr ⟨cause, rfl, .pause isFirst ?_ tooLong⟩)⟩
                  omega
                · rename_i seconds paused
                  rcases waited : (t.pause seconds).run after with ⟨cause | _, later⟩
                  · refine ⟨_, _, rfl,
                      .inr (.inr ⟨cause, rfl, .refused isFirst ?_ paused waited⟩)⟩
                    omega
                  · exact ih (by omega) (by omega) rfl

/-- The number of attempts is one more than that of retries. -/
theorem Options.attemptCount_int {o : Options} {retries : Nat}
    (limited : o.maxRetries = .int retries) : o.attemptCount = .ok (retries + 1) := by
  have counted : (retries + 2 - 1 : Int).toNat = retries + 1 := by omega
  rw [attemptCount, limited]
  exact congrArg Except.ok counted

/-- The line with the number of its next request raised. -/
def Line.numbered (line : Line σ) : Line σ :=
  { line with connection := { line.connection with nextId := line.connection.nextId + 1 } }

/-- A request makes its attempts under the next number. -/
theorem runFrom_request {line : Line σ} {retries : Nat}
    (limited : line.connection.options.maxRetries = .int retries) (method params : Value) :
    (request t method params).runFrom line =
      (attempts t { id := line.connection.nextId, method, params } (retries + 1) 1).runFrom
        line.numbered := by
  simp only [request, Query.runFrom_bind, Query.runFrom_get, Query.runFrom_set,
    Query.runFrom_input, Options.attemptCount_int limited]
  rfl

/-- A request comes to a result or a failure of the node, unless it is broken off. -/
theorem request_settles (stays : ∀ posted s name, ((t.post posted).run s).1 ≠ .gaveUp name)
    {line : Line σ} {retries : Nat}
    (limited : line.connection.options.maxRetries = .int retries) {method params : Value}
    {document : String}
    (written : Request.body { id := line.connection.nextId, method, params } = .ok document) :
    ∃ outcome last, (request t method params).runFrom line = (outcome, last) ∧
      Settles (Breaks t (line.connection.options.posted
        { id := line.connection.nextId, method, params }) line.connection.options retries
        last.transport) outcome := by
  rw [runFrom_request limited]
  exact attempts_settle stays written (by omega) (by omega) rfl

/-- A read-only call at a block that is a number or a name can be written. -/
theorem body_ethCall (id : Int) (target : Address) (data : Bytes) {block : Value}
    (named : Json.isWhole block = true) :
    ∃ document, Request.body
      { id, method := callMethod, params := callParams target data block } = .ok document := by
  have whole : Json.isWhole (blockParam block) = true := by
    cases block with
    | int n => rfl
    | bool b => rfl
    | _ => exact named
  refine ⟨_, Json.strict_of_isWhole Json.compact ?_⟩
  simp [Request.payload, paramsOf, callParams, callMethod, Json.isWhole, Json.areWhole,
    Json.fieldsAreWhole, whole]

/-- The result of a read-only call is bytes or a failure of the node. -/
theorem callResult_settles {causes : InputError → Prop} {outcome : Except Fault Value}
    (settles : Settles causes outcome) :
    Settles causes (outcome.bind fun result => (callResult result).mapError Fault.rpc) := by
  rcases settles with ⟨value, rfl⟩ | ⟨e, rfl⟩ | ⟨cause, rfl, isCause⟩
  · cases read : callResult value with
    | ok bytes => exact .inl ⟨bytes, by simp [Except.bind, read, Except.mapError]⟩
    | error e => exact .inr (.inl ⟨e, by simp [Except.bind, read, Except.mapError]⟩)
  · exact .inr (.inl ⟨e, rfl⟩)
  · exact .inr (.inr ⟨cause, rfl, isCause⟩)

theorem runFrom_ethCall (target : Address) (data : Bytes) (block : Value) (line : Line σ) :
    (ethCall t target data block).runFrom line =
      let asked := (request t callMethod (callParams target data block)).runFrom line
      (asked.1.bind fun result => (callResult result).mapError Fault.rpc, asked.2) := by
  rw [ethCall, Query.runFrom_bind]
  rcases (request t callMethod (callParams target data block)).runFrom line with ⟨e | result, last⟩
  · rfl
  · simp only
    cases read : callResult result <;> simp [Except.bind, read, Except.mapError]

/-- A response that breaks the reading of it breaks the request. -/
theorem request_of_escapes {line : Line σ} {method params : Value} {document : String}
    {retries : Nat} {r : HttpResponse} {after : σ} {cause : InputError}
    (limited : line.connection.options.maxRetries = .int retries)
    (written : Request.body { id := line.connection.nextId, method, params } = .ok document)
    (isOpen : line.connection.isOpen = true)
    (answered : (t.post (line.connection.options.posted
      { id := line.connection.nextId, method, params })).run line.transport =
        (.response r, after))
    (isFinal : isTransientStatus r.status = false) (escapes : Escapes r cause) :
    ((request t method params).runFrom line).1 = .error (.input cause) := by
  have passes : transientText? (.response r) = none := by
    simp [transientText?, isFinal]
  have opened : line.numbered.connection.isOpen = true := isOpen
  have here : (t.post (line.numbered.connection.options.posted
      { id := line.connection.nextId, method, params })).run line.numbered.transport =
        (.response r, after) := answered
  rw [runFrom_request limited, runFrom_attempts_succ written retries 1 opened here, passes]
  simp only [settle]
  exact result_of_escapes method escapes

end Attempts

/-- Over a transport that fails only in ways that may pass, a request comes to a result or to a
failure of the node, whatever the node answers, and so does a read-only call. The only exceptions
are a response that breaks the reading of it and a pause that cannot be computed or is refused, and
such a response always is one. -/
theorem settles_unless_broken {σ : Type} {t : Transport σ}
    (stays : ∀ posted s name, ((t.post posted).run s).1 ≠ .gaveUp name) (line : Line σ)
    {retries : Nat} (limited : line.connection.options.maxRetries = .int retries) :
    (∀ method params document,
      Request.body { id := line.connection.nextId, method, params } = .ok document →
      ∃ outcome last, (request t method params).runFrom line = (outcome, last) ∧
        Settles (Breaks t (line.connection.options.posted
          { id := line.connection.nextId, method, params }) line.connection.options retries
          last.transport) outcome) ∧
    (∀ target data block, Json.isWhole block = true →
      ∃ outcome last, (ethCall t target data block).runFrom line = (outcome, last) ∧
        Settles (Breaks t (line.connection.options.posted
          { id := line.connection.nextId, method := callMethod,
            params := callParams target data block }) line.connection.options retries
          last.transport) outcome) ∧
    ∀ method params document r after cause,
      Request.body { id := line.connection.nextId, method, params } = .ok document →
      line.connection.isOpen = true →
      (t.post (line.connection.options.posted
        { id := line.connection.nextId, method, params })).run line.transport =
          (.response r, after) →
      isTransientStatus r.status = false → Escapes r cause →
        ((request t method params).runFrom line).1 = .error (.input cause) := by
  refine ⟨?request, ?call, ?broken⟩
  case request =>
    intro method params document written
    exact request_settles stays limited written
  case call =>
    intro target data block named
    rcases body_ethCall line.connection.nextId target data named with ⟨document, written⟩
    rcases request_settles stays limited written with ⟨outcome, last, asked, settles⟩
    refine ⟨_, last, ?asked, callResult_settles settles⟩
    rw [runFrom_ethCall, asked]
  case broken =>
    intro method params document r after cause written isOpen answered isFinal escapes
    exact request_of_escapes limited written isOpen answered isFinal escapes

/-- A transport that answers by a script and fails after its end. It takes no time to wait, but
refuses what a clock refuses. -/
def scripted : Transport (List (Except String HttpResponse)) where
  post _ := do
    match ← get with
    | [] => return .failed "no reply scripted"
    | first :: rest =>
      set rest
      match first with
      | .ok r => return .response r
      | .error text => return .failed text
  pause seconds :=
    match refusal? seconds with
    | some cause => return .error cause
    | none => return .ok ()

theorem scripted_stays (posted : HttpRequest) (script : List (Except String HttpResponse))
    (name : String) : ((scripted.post posted).run script).1 ≠ .gaveUp name := by
  rcases script with _ | ⟨text | r, rest⟩ <;> exact fun same => nomatch same

/-- A response whose error is a text. -/
def textualError : HttpResponse where
  status := 200
  body := [123, 34, 101, 114, 114, 111, 114, 34, 58, 34, 98, 111, 111, 109, 34, 125]

theorem escapes_textualError : Escapes textualError (.noAttribute "str" "get") := by
  have isObject : document? textualError.body =
      .ok (some (.object [("error", .text "boom")])) := rfl
  exact .noObject isObject rfl (fun same => nomatch same) (fun _ same => nomatch same)

/-- A connection with two retries that is answered by a script. -/
def Line.sample (script : List (Except String HttpResponse)) :
    Line (List (Except String HttpResponse)) where
  connection := { options := { url := "http://rpc.test", maxRetries := .int 2 } }
  transport := script

/-- A request whose first attempt fails, whose second finds the node too busy, and whose third is
answered by a text for an error. -/
theorem settles_unless_broken_sample :
    (∃ outcome last, (request scripted (.text "eth_chainId") .null).runFrom
        (Line.sample [.error "lost", .ok ⟨503, []⟩, .ok textualError]) = (outcome, last) ∧
      Settles (Breaks scripted
        ((Line.sample []).connection.options.posted
          { id := 0, method := .text "eth_chainId", params := .null })
        (Line.sample []).connection.options 2 last.transport) outcome) ∧
    (∃ outcome last, (ethCall scripted .zero [1, 2] (.int 16)).runFrom
        (Line.sample [.error "lost", .ok ⟨503, []⟩, .ok textualError]) = (outcome, last) ∧
      Settles (Breaks scripted
        ((Line.sample []).connection.options.posted
          { id := 0, method := callMethod, params := callParams .zero [1, 2] (.int 16) })
        (Line.sample []).connection.options 2 last.transport) outcome) ∧
    ((request scripted (.text "eth_chainId") .null).runFrom
        (Line.sample [.ok textualError])).1 = .error (.input (.noAttribute "str" "get")) := by
  have written : Request.body { id := 0, method := .text "eth_chainId", params := .null } = .ok _ :=
    Json.strict_of_isWhole Json.compact rfl
  have limited : ∀ script, (Line.sample script).connection.options.maxRetries = .int (2 : Nat) :=
    fun _ => rfl
  obtain ⟨requested, called, -⟩ := settles_unless_broken scripted_stays
    (.sample [.error "lost", .ok ⟨503, []⟩, .ok textualError]) (limited _)
  obtain ⟨-, -, broken⟩ := settles_unless_broken scripted_stays
    (.sample [.ok textualError]) (limited _)
  refine ⟨requested _ _ _ written, called _ _ _ rfl, ?_⟩
  exact broken _ _ _ textualError [] _ written rfl rfl rfl escapes_textualError

/-- An answer of the node that is no result makes a request fail as no failure of the node does, and
a read-only call with it. -/
theorem request_textualError :
    ((request scripted (.text "eth_chainId") .null).runFrom (Line.sample [.ok textualError])).1 =
        .error (.input (.noAttribute "str" "get")) ∧
      ((ethCall scripted .zero [] (.text "latest")).runFrom (Line.sample [.ok textualError])).1 =
        .error (.input (.noAttribute "str" "get")) := by
  have limited : (Line.sample [.ok textualError]).connection.options.maxRetries = .int (2 : Nat) :=
    rfl
  constructor
  · have written : Request.body { id := 0, method := .text "eth_chainId", params := .null } =
        .ok _ := Json.strict_of_isWhole Json.compact rfl
    exact request_of_escapes limited written rfl rfl rfl escapes_textualError
  · have named : Json.isWhole (.text "latest") = true := rfl
    obtain ⟨document, written⟩ := body_ethCall 0 .zero [] named
    have fails : ((request scripted callMethod (callParams .zero [] (.text "latest"))).runFrom
        (Line.sample [.ok textualError])).1 = .error (.input (.noAttribute "str" "get")) :=
      request_of_escapes limited written rfl rfl rfl escapes_textualError
    rw [runFrom_ethCall]
    simp only [fails]
    rfl

end MultisigQueue.Rpc
