/-
Module: MultisigQueue.Settings.Source
Purpose: Where settings come from, which source goes before which, and settings kept for reuse.
Main exports:
  Environment, Settings.Source, Settings.load, Settings.Shelf
-/
import MultisigQueue.Settings
import MultisigQueue.Settings.EnvFile

namespace MultisigQueue

/-!
A value given directly goes before one in the environment, that before one in the file of the
environment, and that before the default. A name in the environment is the name of a setting after
`HARBOUR_`, in any case; of two spellings of one name the later one counts. A variable has a name
that is not empty and holds no sign of equality, and neither the name nor the value holds a null
character.
-/

/-- Variables with their values, in the order in which they were first set. -/
abbrev Environment : Type := List (String × String)

/-- Entries with the one of this name set: in place where there is one already, else at the end. -/
def setEntry {α : Type} (entries : List (String × α)) (name : String) (value : α) :
    List (String × α) :=
  if entries.any fun entry => entry.1 == name then
    entries.map fun entry => if entry.1 == name then (name, value) else entry
  else entries ++ [(name, value)]

/-- The value of the entry of exactly this name. -/
def valueNamed? {α : Type} (entries : List (String × α)) (name : String) : Option α :=
  (entries.find? fun entry => entry.1 == name).map Prod.snd

/-- A name in small letters. -/
def folded (name : String) : List Char := Text.lowered name.toList

/-- The value of the last entry of this name in any case. -/
def lastValue? {α : Type} (entries : List (String × α)) (name : String) : Option α :=
  (entries.reverse.find? fun entry => folded entry.1 == folded name).map Prod.snd

namespace Environment

/-- A text that a variable can hold, or be named. -/
def admissible : Value → Except InputError String
  | .text s => if s.toList.contains '\x00' then .error .nullCharacter else .ok s
  | other => .error (.textExpected other.kindName)

/-- The environment with a variable set, or removed if the value is missing. -/
def change (env : Environment) (name : String) (value : Value) : Except InputError Environment :=
  match value with
  | .null => .ok (env.filter fun entry => entry.1 != name)
  | given => do
    let value ← admissible given
    let name ← admissible (.text name)
    if name.toList.contains '=' then throw .illegalName
    if name.isEmpty then throw .emptyName
    return setEntry env name value

/-- The environment after some changes in order, up to the first one that is refused. -/
def changeAll (env : Environment) : List (String × Value) → Environment × Except InputError Unit
  | [] => (env, .ok ())
  | (name, value) :: rest =>
    match env.change name value with
    | .ok changed => changed.changeAll rest
    | .error e => (env, .error e)

/-- The value of a variable of exactly this name. -/
def get? (env : Environment) (name : String) : Option String := valueNamed? env name

/-- The value of a variable of this name in any case. -/
def getFolded? (env : Environment) (name : String) : Option String := lastValue? env name

/-- The names of a file with the values assigned last, if any are. References are to the names
before, and then to the environment. -/
def ofFile (env : Environment) (file : String) : List (String × Option String) :=
  (EnvFile.parse file).foldl
    (fun before (name, value) =>
      let value? := fun name =>
        ((valueNamed? before name).map fun v => v.getD "").or (env.get? name)
      setEntry before name (value.map (EnvFile.expand value?)))
    []

end Environment

namespace Settings

/-- What surrounds a program: its environment and the file that adds to it. -/
structure Source where
  environment : Environment := []
  file : String := ""
deriving Inhabited

/-- The variable that holds a setting. -/
def Field.variable (f : Field) : String := "harbour_" ++ f.name

/-- The value of a setting in the surroundings. -/
def Source.value? (s : Source) (f : Field) : Option Value :=
  let inFile := (lastValue? (s.environment.ofFile s.file) f.variable).join
  ((s.environment.getFolded? f.variable).or inFile).map Value.text

/-- The settings for some values given directly; names that are not settings are ignored. -/
def load (s : Source) (given : Overrides) : Except (List FieldFailure) Settings :=
  ofValues fun f => ((Value.field? given f.name).or (s.value? f)).getD f.default

/-- Settings kept for reuse after they have once been loaded. -/
structure Shelf where
  kept : Option Settings := none

/-- The settings kept, or else loaded now and kept from now on. -/
def Shelf.get (shelf : Shelf) (s : Source) : Except (List FieldFailure) (Settings × Shelf) :=
  match shelf.kept with
  | some settings => .ok (settings, shelf)
  | none => do
    let settings ← load s []
    return (settings, { kept := some settings })

end Settings

end MultisigQueue
