/-
Module: MultisigQueue.Log
Purpose: Levels, setting logging up, and what is written for an event or a record.
Main exports:
  Log.Level, Log.Method, Log.State, Log.setup, Log.emit, Log.record
-/
import MultisigQueue.Error
import MultisigQueue.Log.Event
import MultisigQueue.Log.Template
import MultisigQueue.Settings.Source
import MultisigQueue.Text.LetterCase
import MultisigQueue.Text.Lines
import MultisigQueue.Value.Equality

namespace MultisigQueue.Log

/-!
Logging is set up by a level, a format and the name of the service, each of which may come from the
environment. Two loggers of the transport have levels of their own. A setup that fails half way
leaves what it has done before.
-/

/-- A level; what is below the level of a logger is not written. -/
abbrev Level : Type := Int

namespace Level

/-- The level that stands for none. -/
def notSet : Level := 0

/-- The level of a program that has not set up logging. -/
def warning : Level := 30

/-- The levels with names; of two names the first is the one that is shown. -/
def names : List (String × Level) :=
  [("CRITICAL", 50), ("ERROR", 40), ("WARNING", 30), ("INFO", 20), ("DEBUG", 10), ("NOTSET", 0),
   ("FATAL", 50), ("WARN", 30)]

/-- The level of a name, which must be in capitals, if there is one. -/
def ofName? (name : String) : Option Level :=
  (names.find? fun entry => entry.1 == name).map Prod.snd

/-- The level of a name, or the reason why there is none. -/
def ofName (name : String) : Except InputError Level :=
  match ofName? name with
  | some level => .ok level
  | none => .error (.unknownLevel (.text name))

/-- A level that may be given as a truth value. -/
def number : Value → Level
  | .int n => n
  | .bool true => 1
  | _ => notSet

/-- The name of a level, or what it is given as. -/
def nameGiven (level : Value) : String :=
  match names.find? fun entry => entry.2 == number level with
  | some (name, _) => name
  | none => "Level " ++ level.plain

/-- The name of a level. -/
def name (level : Level) : String := nameGiven (.int level)

/-- The name of a level in small letters, as events carry it. -/
def label (level : Level) : String := String.ofList (level.name.toList.map Char.toLower)

end Level

/-- A way to tell an event. -/
structure Method where
  name : String
  level : Level
  /-- The name that the way has first. -/
  ownName : String := name
  /-- Whether a trace is told along. -/
  traces : Bool := false
deriving DecidableEq, Repr

/-- The ways to tell an event. -/
def methods : List Method :=
  [{ name := "debug", level := 10 }, { name := "info", level := 20 },
   { name := "warning", level := 30 }, { name := "warn", level := 30, ownName := "warning" },
   { name := "error", level := 40 }, { name := "exception", level := 40, traces := true },
   { name := "critical", level := 50 }, { name := "fatal", level := 50 }]

/-- Where events are written. -/
structure Sink where
  service : Value
  isConsole : Bool

/-- How logging has been set up. -/
structure State where
  /-- The service that events are ascribed to, once a setup has begun. -/
  service : Option Value := none
  sink : Option Sink := none
  /-- The level as it was given. -/
  level : Value := .int Level.warning
  /-- The levels of the loggers that have their own. -/
  ownLevels : List (String × Level) := []

/-- The loggers of the transport, with the variable that holds the level of each. -/
def transportLoggers : List (String × String) :=
  [("httpcore", "LOG_LEVEL_HTTPCORE"), ("httpx", "LOG_LEVEL_HTTPX")]

/-- What logging is set up with. -/
structure Choice where
  service : Value := .text "harbour-sdk"
  level : Value := .null
  format : Value := .null

/-- The value of a variable, unless it is missing or empty. -/
def assigned? (env : Environment) (name : String) : Option String :=
  (env.get? name).filter fun s => !s.isEmpty

/-- The level chosen, or else the one in the environment, in any case, or else that of information.
-/
def chosenLevel (env : Environment) (choice : Value) : Except InputError Value :=
  let level :=
    if choice.isTrue then choice
    else .text (((assigned? env "LOG_LEVEL").map Text.capitalized).getD "INFO")
  match level with
  | .text s => (Level.ofName s).map Value.int
  | .unpaired codePoints => .error (.unknownLevel (.unpaired codePoints))
  | .int n => .ok (.int n)
  | .bool b => .ok (.bool b)
  | other => .error (.levelKind other)

/-- Whether the format chosen, or else the one in the environment, is that for the eye. -/
def choosesConsole (env : Environment) (choice : Value) : Except InputError Bool :=
  let format :=
    if choice.isTrue then choice else .text ((assigned? env "LOG_FORMAT").getD "json")
  match format with
  | .text s => .ok (Text.lowered s.toList == "console".toList)
  | .unpaired _ | .bytes _ => .ok false
  | other => .error (.noAttribute other.kindName "lower")

/-- The state with a level for one logger. -/
def State.setOwnLevel (s : State) (logger : String) (level : Level) : State :=
  { s with ownLevels := (logger, level) :: s.ownLevels.filter fun entry => entry.1 != logger }

/-- Gives the loggers of the transport their levels, up to the first that the environment spoils. -/
def setTransportLevels (env : Environment) :
    List (String × String) → State → Except InputError Unit × State
  | [], s => (.ok (), s)
  | (logger, source) :: rest, s =>
    match Level.ofName ((env.get? source).getD "WARNING") with
    | .ok level => setTransportLevels env rest (s.setOwnLevel logger level)
    | .error e => (.error e, s)

/-- Sets logging up. -/
def setup (env : Environment) (choice : Choice) (s : State) : Except InputError Unit × State :=
  match choosesConsole env choice.format with
  | .error e => (.error e, s)
  | .ok isConsole =>
    let s := { s with service := some choice.service }
    match chosenLevel env choice.level with
    | .error e => (.error e, s)
    | .ok level =>
      let sink : Sink := { service := choice.service, isConsole }
      setTransportLevels env transportLoggers { s with level, sink := some sink }

/-- The level that a logger has of its own; none without a setup. -/
def State.ownLevel (s : State) (logger : String) : Level :=
  ((s.ownLevels.find? fun entry => entry.1 == logger).map Prod.snd).getD Level.notSet

/-- Whether one logger is another or stands under it. -/
def isUnder (logger parent : String) : Bool :=
  logger == parent || (parent ++ ".").toList.isPrefixOf logger.toList

/-- The level that counts for a logger: its own, or else that of the one it stands under. -/
def State.effectiveLevel (s : State) (logger : String) : Level :=
  match s.ownLevels.find? fun entry => isUnder logger entry.1 && entry.2 != Level.notSet with
  | some (_, level) => level
  | none => Level.number s.level

/-- The lines of what is written at once. -/
def written (text : List Nat) : List Value :=
  (Text.lines (text ++ Text.points "\n")).map Value.ofPoints

/-- The lines that are written for an event. -/
def Sink.lines (sink : Sink) (e : Event) : List Value :=
  written (if sink.isConsole then e.console else Text.points e.json)

/-- The logger of an event that is given a name. -/
def ownLogger : String := "harbour_sdk.logging"

/-- The logger of an event that is not. -/
def mainLogger : String := "__main__"

/-- The kind of what tells events, by whether a setup has begun. -/
def tellerKind (isSetUp : Bool) : String :=
  if isSetUp then "BoundLogger" else "BoundLoggerFilteringAtNotset"

/-- The way to tell an event that goes by a name. -/
def method (isSetUp : Bool) (name : String) : Except InputError Method :=
  match methods.find? fun m => m.name == name with
  | some m => .ok m
  | none => .error (.noAttribute (tellerKind isSetUp) name)

/-- Fields that can be told besides the event itself: none of them is named like something that is
told in another way. -/
def freeFields (m : Method) (fields : Fields) : Except InputError Fields :=
  match fields.find? fun entry => entry.1 == "self" || entry.1 == "event" with
  | some (name, _) => .error (.repeatedArgument (tellerKind true ++ "." ++ m.ownName) name)
  | none =>
    if fields.any fun entry => entry.1 == "method_name" then
      .error (.repeatedArgument (tellerKind true ++ "._proxy_to_logger") "method_name")
    else .ok fields

/-- The fields of an event in the order in which they are told. A missing event has none of its own.
-/
def toldFields (name : Value) (event : Value) (fields : Fields) : Fields :=
  let bound := if name.isTrue then [("logger", name)] else []
  let all := fields.foldl (fun before (key, value) => Value.setField before key value) bound
  match event with
  | .null => all
  | event => Value.setField all "event" event

/-- Tells an event. Without a sink it is only shown, if it warns; before any setup it is written
elsewhere. -/
def emit (s : State) (time : String) (name : Value) (level : String) (event : Value)
    (fields : Fields) : Except InputError (List Value) := do
  let m ← method s.service.isSome level
  match s.service with
  | none => return []
  | some service =>
    let fields ← freeFields m fields
    let logger := if name.isTrue then ownLogger else mainLogger
    if m.level < s.effectiveLevel logger then return []
    let fields := toldFields name event fields
    match Value.field? fields "_record" with
    | none | some .null => pure ()
    | some record => throw (.noAttribute record.kindName "name")
    let event := Event.ofFields { logger, level := Level.label m.level, time, service } fields
    match s.sink with
    | some sink => return sink.lines event
    | none =>
      if m.level < Level.warning then return []
      let trace := if m.traces then "\nNoneType: None" else ""
      return written (Text.points (event.shown ++ trace))

/-- A message with its arguments, if they fit it; without arguments it stands as it is. -/
def message? (message : Value) (args : List Value) : Option Value :=
  if args.isEmpty then some message.asText
  else (Template.fill? message.plainPoints args).map Value.ofPoints

/-- The line that tells of a message that its arguments do not fit. -/
def misfit : Value := .text "--- Logging error ---"

/-- The logger at the top, whose name may be left out. -/
def rootLogger : String := "root"

/-- Writes a record of another library. Without a sink only the message is written, if it warns. -/
def record (s : State) (time logger level : String) (message : Value) (args : List Value) :
    List Value :=
  let logger := if logger.isEmpty then rootLogger else logger
  match Level.ofName? level with
  | none => []
  | some number =>
    if number < s.effectiveLevel logger then []
    else
      match s.sink, message? message args with
      | some sink, some event =>
        let origin : Origin :=
          { logger, level := Level.label number, time, service := sink.service }
        sink.lines (Event.ofFields origin [("event", event)])
      | none, some event => if number < Level.warning then [] else written event.plainPoints
      | some _, none => [misfit]
      | none, none => if number < Level.warning then [] else [misfit]

end MultisigQueue.Log
