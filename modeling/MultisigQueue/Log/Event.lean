/-
Module: MultisigQueue.Log.Event
Purpose: Log events, and each as one line of JSON or as lines for the eye.
Main exports:
  Log.shorten, Log.Origin, Log.Event, Log.Event.json, Log.Event.console
-/
import MultisigQueue.Json.Writer
import MultisigQueue.Text.Encoding

namespace MultisigQueue.Log

/-!
Logs must not carry whole signatures: of a byte string in a field that is named like a part of one,
only the first four octets and the length are told. Every event tells where it comes from, at which
level and when, whatever it says of that itself; it also tells its service, unless it names one
itself. For the eye, traces come last, on lines of their own.
-/

/-- The fields of an event. -/
abbrev Fields : Type := List (String × Value)

/-- The fields that hold parts of signatures. -/
def signatureFields : List String := ["r", "vs", "signature", "signatures"]

/-- The first four octets of a byte string, and its length. -/
def shortened (b : Bytes) : Value :=
  .text s!"{Hex.ofBytes (b.take 4)}…({b.length}B)"

/-- Fields in which parts of signatures are shortened. -/
def shorten (fields : Fields) : Fields :=
  fields.map fun (key, value) =>
    match value with
    | .bytes b => (key, if signatureFields.contains key then shortened b else .bytes b)
    | other => (key, other)

/-- The fields of a loosely typed event, shortened. -/
def shortenGiven : Value → Except InputError Fields
  | .object fields => .ok (shorten fields)
  | other => .error (.noAttribute other.kindName "get")

/-- Fields in which byte strings are read as text. -/
def decodeTexts (fields : Fields) : Fields :=
  fields.map fun (key, value) =>
    match value with
    | .bytes b => (key, .text (String.ofList (Utf8.decodeLossy b)))
    | other => (key, other)

/-- Where an event comes from, at which level and when. -/
structure Origin where
  logger : String
  level : String
  time : String
  /-- The service that events are ascribed to which do not name one. -/
  service : Value

/-- Fields without those of some names. -/
def without (names : List String) (fields : Fields) : Fields :=
  fields.filter fun entry => !names.contains entry.1

/-- The fields that ask for a trace, of which there is none. -/
def traceRequests : List String := ["stack_info", "exc_info"]

/-- The fields that belong to the way of an event through the layout. -/
def layoutFields : List String := ["_record", "_from_structlog"]

/-- Something that is told, with all its fields in order. -/
structure Event where
  fields : Fields

namespace Event

/-- Fields with the one of the service. -/
def ascribed (service : Value) (fields : Fields) : Fields :=
  if fields.any fun entry => entry.1 == "service" then fields else fields ++ [("service", service)]

/-- The event that some fields make up. -/
def ofFields (o : Origin) (fields : Fields) : Event :=
  let fields := Value.setField fields "logger" (.text o.logger)
  let fields := Value.setField fields "level" (.text o.level)
  let fields := Value.setField fields "timestamp" (.text o.time)
  { fields := ascribed o.service (decodeTexts (shorten (without traceRequests fields))) }

/-- The fields that are laid out. -/
def laidOut (e : Event) : Fields := without layoutFields e.fields

/-- An event as a line of JSON. -/
def json (e : Event) : String := Json.write Json.spaced (.object e.laidOut)

/-- A text filled up with blanks on the right. -/
def padded (width : Nat) (text : List Nat) : List Nat :=
  text ++ List.replicate (width - text.length) ' '.toNat

/-- Whether a text has to stand between quotes to be told from what is around it. -/
def needsQuotes (text : List Nat) : Bool :=
  (text.map Text.charOf).any [' ', '\t', '=', '\r', '\n', '\x22', '\x27'].contains

/-- A value for the eye. -/
def fieldText (v : Value) : List Nat :=
  match v with
  | .text _ | .unpaired _ =>
    if needsQuotes v.plainPoints then Text.points v.shown else v.plainPoints
  | other => Text.points other.shown

/-- A text between brackets. -/
def bracketed (text : List Nat) : List Nat := Text.points "[" ++ text ++ Text.points "]"

/-- The fields that have a column of their own, with the layout of each. -/
def columns : List (String × (List Nat → List Nat)) :=
  [("timestamp", id), ("level", fun text => bracketed (padded 9 text)), ("event", padded 30),
   ("logger", bracketed), ("logger_name", bracketed)]

/-- The fields that hold traces. -/
def traceFields : List String := ["stack", "exception"]

/-- The line of an event for the eye, without its traces. -/
def headline (fields : Fields) : List Nat :=
  let head := columns.filterMap fun (name, layout) =>
    (Value.field? fields name).map fun v => layout v.plainPoints
  let others := without (columns.map Prod.fst) fields
  let parts := head ++ others.map fun (key, v) => Text.points (key ++ "=") ++ fieldText v
  let line := (Text.points " ").intercalate (parts.filter (!·.isEmpty))
  (line.reverse.dropWhile (· == ' '.toNat)).reverse

/-- A trace in some fields, if there is one. -/
def trace? (fields : Fields) (name : String) : Option (List Nat) :=
  match Value.field? fields name with
  | none | some .null => none
  | some v => some v.plainPoints

/-- The line between two traces. -/
def ruler : List Nat := List.replicate 79 '='.toNat

/-- An event as lines for the eye. -/
def console (e : Event) : List Nat :=
  let fields := e.laidOut
  let head := headline (without traceFields fields)
  let parts :=
    match trace? fields "stack", trace? fields "exception" with
    | none, none => [head]
    | none, some exception => [head, exception]
    | some stack, none => [head, stack]
    | some stack, some exception => [head, stack, [], ruler, [], exception]
  (Text.points "\n").intercalate parts

/-- An event as messages show it, for want of any layout. -/
def shown (e : Event) : String := (Value.object e.fields).shown

end Event

end MultisigQueue.Log
