import DriverMonitor.Gaze.Angle
import DriverMonitor.Identity.Slot

/-! # The command line

The program has six commands. Options are given as `--name value`, `--name=value`, `-n value`,
`-nvalue` or `-n=value`; a value that stands alone does not begin with a dash. Two options, `--dev`
and `--config`, go before the command or behind it. No option stands twice on the same side.
-/

namespace DriverMonitor

inductive Command where
  | enroll (name : String) (slot : Option SlotId) (embeddings : String) (calibration : Option String)
  | authenticate (faces : String)
  | list
  | inspect (slot : SlotId)
  | remove (slot : SlotId)
  | replay (input : String) (slot : Option SlotId) (strategy : Option GazeStrategy)
  deriving DecidableEq, Repr

/-- A command with the options that go with every command. -/
structure Invocation where
  /-- Whether profiles are kept below the working directory. -/
  development : Bool
  /-- Where the configuration is, if not in the usual place. -/
  config : Option String
  command : Command
  deriving DecidableEq, Repr

/-- Why a command line is no invocation. -/
inductive UsageStop where
  | help
  | wrong
  deriving DecidableEq, Repr

/-! ## Options -/

/-- What the value of an option may be. -/
inductive OptionValue where
  | nothing
  | text
  /-- A path, which is never empty. -/
  | path
  | slot
  | strategy
  deriving DecidableEq, Repr

/-- Whether a text is a value of its kind. -/
def OptionValue.admits (kind : OptionValue) (value : String) : Bool :=
  match kind with
  | nothing | text => true
  | path => !value.isEmpty
  | slot => (SlotId.parse? value).isSome
  | strategy => (GazeStrategy.ofName? value).isSome

/-- An option by its long name, and its short name if it has one. -/
structure OptionName where
  long : String
  short : Option Char := none
  value : OptionValue
  deriving DecidableEq, Repr

def globalOptions : List OptionName := [⟨"dev", none, .nothing⟩, ⟨"config", none, .path⟩]

/-- An option with a short name that is its first letter. -/
def OptionName.lettered (long : String) (value : OptionValue) : OptionName :=
  ⟨long, long.toList.head?, value⟩

/-- The options of each command. -/
def commandOptions : List (String × List OptionName) :=
  [("enroll", [.lettered "name" .text, .lettered "slot" .slot, .lettered "embeddings" .path,
      .lettered "calibration" .path]),
    ("authenticate", [.lettered "faces" .path]),
    ("list", []),
    ("inspect", [.lettered "slot" .slot]),
    ("remove", [.lettered "slot" .slot]),
    ("replay", [.lettered "input" .path, .lettered "slot" .slot, ⟨"strategy", none, .strategy⟩])]

/-- The options that were given, by long name; one without a value has the empty text. -/
abbrev Given := List (String × String)

/-- Adds an option, which must not have been given. -/
def Given.add (given : Given) (option : OptionName) (value : String) : Except UsageStop Given :=
  if given.any (·.1 == option.long) ∨ !option.value.admits value then .error .wrong
  else .ok ((option.long, value) :: given)

/-- Whether an argument can stand alone as a value. -/
def standsAlone (argument : String) : Bool :=
  argument == "-" || argument.toList.head? != some '-'

/-- The value of an option, attached to it or the next argument, and the arguments left. -/
def takeValue (option : OptionName) (attached : Option String) (rest : List String) :
    Except UsageStop (String × List String) :=
  match option.value, attached, rest with
  | .nothing, none, rest => .ok ("", rest)
  | .nothing, some _, _ => .error .wrong
  | _, some value, rest => .ok (value, rest)
  | _, none, value :: rest => if standsAlone value then .ok (value, rest) else .error .wrong
  | _, none, [] => .error .wrong

/-- The option that an argument names, with the value attached to it; nothing for an argument that is
no option. -/
def readOption (options : List OptionName) (argument : String) :
    Except UsageStop (Option (OptionName × Option String)) :=
  match argument.toList with
  | ['-'] => .ok none
  | '-' :: '-' :: name =>
    let (long, value) := name.span (· != '=')
    if long = "help".toList then .error (if value = [] then .help else .wrong)
    else
      match options.find? (·.long.toList == long) with
      | none => .error .wrong
      | some option =>
        -- the equals sign is still in front of the value
        .ok (some (option, if value = [] then none else some (String.ofList (value.drop 1))))
  | '-' :: letter :: value =>
    if letter = 'h' then .error .help
    else
      match options.find? (·.short == some letter) with
      | none => .error .wrong
      | some option =>
        let value := if value.head? = some '=' then value.drop 1 else value
        .ok (some (option,
          if argument.toList.length = 2 then none else some (String.ofList value)))
  | _ => .ok none

/-- Reads options up to the first argument that is none, which is given back with what follows it. -/
def readOptions (options : List OptionName) :
    Nat → Given → List String → Except UsageStop (Given × List String)
  | 0, given, rest => .ok (given, rest)
  | _, given, [] => .ok (given, [])
  | steps + 1, given, argument :: rest =>
    if argument = "--" then if rest = [] then .ok (given, []) else .error .wrong
    else do
      match ← readOption options argument with
      | none => return (given, argument :: rest)
      | some (option, attached) =>
        let (value, rest) ← takeValue option attached rest
        readOptions options steps (← given.add option value) rest

/-! ## Commands -/

namespace Given

def value? (given : Given) (name : String) : Option String := given.lookup name

def need (given : Given) (name : String) : Except UsageStop String :=
  (given.value? name).elim (.error .wrong) .ok

def slot? (given : Given) : Option SlotId := (given.value? "slot").bind SlotId.parse?

def needSlot (given : Given) : Except UsageStop SlotId := given.slot?.elim (.error .wrong) .ok

def strategy? (given : Given) : Option GazeStrategy :=
  (given.value? "strategy").bind GazeStrategy.ofName?

end Given

/-- The command of a name with the options given. -/
def Command.ofGiven (name : String) (given : Given) : Except UsageStop Command := do
  match name with
  | "enroll" =>
    return .enroll (← given.need "name") given.slot? (← given.need "embeddings")
      (given.value? "calibration")
  | "authenticate" => return .authenticate (← given.need "faces")
  | "list" => return .list
  | "inspect" => return .inspect (← given.needSlot)
  | "remove" => return .remove (← given.needSlot)
  | "replay" => return .replay (← given.need "input") given.slot? given.strategy?
  | _ => throw .wrong

/-- What stops a command line that asks for help with what it names: with nothing, with one command,
or with help itself. -/
def helpStop (names : List String) : UsageStop :=
  match names with
  | [] => .help
  | [name] => if name = "help" ∨ (commandOptions.lookup name).isSome then .help else .wrong
  | _ => .wrong

def Invocation.parse (arguments : List String) : Except UsageStop Invocation := do
  let steps := arguments.length
  let (before, rest) ← readOptions globalOptions steps [] arguments
  let name :: rest := rest | throw .wrong
  if name = "help" then throw (helpStop rest)
  let some options := commandOptions.lookup name | throw .wrong
  let (given, rest) ← readOptions (options ++ globalOptions) steps [] rest
  if rest ≠ [] then throw .wrong
  let command ← Command.ofGiven name given
  return {
    development := (before ++ given).any (·.1 == "dev")
    config := (given.value? "config").or (before.value? "config")
    command }

end DriverMonitor
