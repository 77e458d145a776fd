import ClassDiagram.CommandLine.Switch
import ClassDiagram.LogFormat

/-!
# Requests

A request is what a command line asks for: one of four commands, and settings
that go with any of them.  The settings may stand before the name of the command
and after it, and one that stands in both places counts as it stands after.

No log is kept.  The level of one is checked and then dropped, and its format is
kept to know whether one was given.
-/

namespace ClassDiagram.CommandLine

/-! ## Commands -/

/-- What the program can do. -/
inductive Command where
  /-- Writes the files for a drawing. -/
  | generate (input : String) (options : Option String) (targets : List String)
      (output : String)
  /-- Writes the model of a drawing. -/
  | inspect (input : String) (output : Option String)
  /-- Tells whether a drawing has a model, and what it holds. -/
  | validate (input : String)
  /-- Lists the targets and the dialects. -/
  | targets (json : Bool)
deriving DecidableEq, Repr

/-- What goes with any command. -/
structure Settings where
  /-- Tells more. -/
  verbose : Bool := false
  /-- The format of the log. -/
  logFormat : Option LogFormat := none
deriving DecidableEq, Repr

/-- What a command line asks for. -/
structure Request where
  settings : Settings
  command : Command
deriving DecidableEq, Repr

/-! ## Switches -/

/-- The directory that files are written into if none is given. -/
def defaultOutput : String := "generated"

/-- The levels of a log. -/
def logLevels : List String := ["trace", "debug", "info", "warn", "error"]

/-- A switch whose value is a path, which is not empty. -/
def pathSwitch (name : String) (letter : Char) : Switch where
  name := name
  letter := some letter
  takesValue := true
  admits := fun path => !path.isEmpty

/-- A switch whose value is one of some words. -/
def choiceSwitch (name : String) (choices : List String) : Switch where
  name := name
  takesValue := true
  admits := choices.contains

/-- The switches of any command. -/
def commonSwitches : List Switch :=
  [{ name := "verbose", letter := some 'v' }, choiceSwitch "log-level" logLevels,
   choiceSwitch "log-format" (LogFormat.all.map (·.name)),
   { name := "help", letter := some 'h', stop := some .help }]

/-- The switches that stand before the name of a command. -/
def outerSwitches : List Switch :=
  { name := "version", letter := some 'V', stop := some .version } :: commonSwitches

/-- The commands by name, each with its switches. -/
def commandSwitches : List (String × List Switch) :=
  [("generate",
     [pathSwitch "input" 'i', pathSwitch "config" 'c',
      { name := "target", letter := some 't', takesValue := true, repeatable := true },
      pathSwitch "output" 'o']),
   ("inspect", [pathSwitch "input" 'i', pathSwitch "output" 'o']),
   ("validate", [pathSwitch "input" 'i']),
   ("targets", [{ name := "json" }])]

/-- The names of the commands. -/
def commandNames : List String := commandSwitches.map (·.1)

/-- The word that asks for help. -/
def helpWord : String := "help"

/-! ## Reading requests -/

/-- A list of targets, separated by commas. -/
def targetList (value : String) : List String :=
  match Text.rawPieces [','] value.toList with
  | some (first, others) => (first :: others).map .ofList
  | none => []

/-- The settings that some switches make. -/
def Settings.ofGiven (given : Given) : Settings where
  verbose := given.has "verbose"
  logFormat := (given.value? "log-format").bind LogFormat.ofName?

/-- The settings before a command joined with those after it. -/
def Settings.join (outer inner : Settings) : Settings where
  verbose := outer.verbose || inner.verbose
  logFormat := inner.logFormat.or outer.logFormat

/-- The command with a name and some switches. -/
def Command.ofGiven? (name : String) (given : Given) : Option Command :=
  match name with
  | "generate" =>
      if given.has "target" then
        (given.value? "input").map fun input =>
          .generate input (given.value? "config") ((given.values "target").flatMap targetList)
            ((given.value? "output").getD defaultOutput)
      else none
  | "inspect" => (given.value? "input").map fun input => .inspect input (given.value? "output")
  | "validate" => (given.value? "input").map .validate
  | "targets" => some (.targets (given.has "json"))
  | _ => none

/-- The request for the command with a name and the arguments after it. -/
def Request.ofCommand (outer : Settings) (name : String) (arguments : List String) :
    Except Stop Request := do
  match commandSwitches.lookup name with
  | none => .error .usage
  | some switches =>
      let (given, _) ← readSwitches (switches ++ commonSwitches) [] {} arguments
      match Command.ofGiven? name given with
      | none => .error .usage
      | some command => return { settings := outer.join (.ofGiven given), command }

/-- What the word for help leads to: help on the program or on one command. -/
def helpOn (arguments : List String) : Stop :=
  match arguments with
  | [] => .help
  | [name] => if (helpWord :: commandNames).contains name then .help else .usage
  | _ => .usage

/-- The request of a command line. -/
def Request.ofArguments (arguments : List String) : Except Stop Request := do
  let (given, rest) ← readSwitches outerSwitches (helpWord :: commandNames) {} arguments
  match rest with
  | [] => .error .usage
  | word :: rest =>
      if word = helpWord then .error (helpOn rest)
      else Request.ofCommand (.ofGiven given) word rest

end ClassDiagram.CommandLine
