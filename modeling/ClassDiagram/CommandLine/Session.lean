import ClassDiagram.CommandLine.Request
import ClassDiagram.Drawing.Document
import ClassDiagram.Model.Document
import ClassDiagram.Options.Document
import ClassDiagram.Run

/-!
# Sessions

A session answers one command line.  Its `Outcome` is what the program prints
and the status it ends with.  Files and the standard input are reached through
`Surroundings`, so a session runs wherever there is a file system.

An outcome of status 0 is a success, of status 1 a failure, and of status 2 a
command line that cannot be read.
-/

namespace ClassDiagram.CommandLine

open Files

/-! ## Outcomes -/

/-- The name of the program. -/
def programName : String := "classforge"

/-- The version of the program. -/
def programVersion : String := "0.1.0"

/-- What a session prints, and how it ends. -/
structure Outcome where
  /-- What goes to the standard output. -/
  output : String := ""
  /-- What goes to the standard error. -/
  errors : String := ""
  /-- The status at the end. -/
  status : Nat := 0
deriving DecidableEq, Repr

/-- The outcome with something printed to the standard error before it. -/
def Outcome.after (errors : String) (o : Outcome) : Outcome := { o with errors := errors ++ o.errors }

/-- What the program is told by the user in a document. -/
inductive DocumentKind where
  | drawing
  | options
deriving DecidableEq, Repr

/-- What a document is called. -/
def DocumentKind.noun : DocumentKind → String
  | .drawing => "style tree"
  | .options => "config file"

/-- The report of a document with other contents than it should have. -/
def DocumentKind.invalidReport : DocumentKind → String
  | .drawing => "Invalid style tree"
  | .options => "Invalid generator configuration"

/-- Why a command fails. -/
inductive Failure where
  /-- A file cannot be read. -/
  | unreadable (kind : DocumentKind) (path : String) (fault : Fault)
  /-- The standard input cannot be read. -/
  | noInput (fault : Fault)
  /-- A document, from a file or from the standard input, does not hold what it should. -/
  | invalid (kind : DocumentKind) (path : Option String)
  /-- The drawing has no model. -/
  | build (cause : BuildError)
  /-- The run does not succeed. -/
  | run (cause : RunError)
  /-- A file cannot be written. -/
  | unwritable (path : String) (fault : Fault)
deriving DecidableEq, Repr

/-- The report of a failure. -/
def Failure.message : Failure → String
  | .unreadable kind path fault =>
      "Failed to read " ++ kind.noun ++ " '" ++ path ++ "': " ++ fault.message
  | .noInput fault => fault.message
  | .invalid kind (some path) =>
      "Failed to parse " ++ kind.noun ++ " '" ++ path ++ "': " ++ kind.invalidReport
  | .invalid kind none => kind.invalidReport
  | .build cause => cause.message
  | .run cause => cause.message
  | .unwritable path fault => "Failed to write output file '" ++ path ++ "': " ++ fault.message

/-- The outcome of a failure. -/
def Failure.outcome (f : Failure) : Outcome where
  errors := "Error: " ++ f.message ++ "\n"
  status := 1

/-- How the program is used. -/
def usageText : String :=
  "Usage: " ++ programName ++ " [OPTIONS] <COMMAND>\n\nCommands:\n"
    ++ String.join (commandNames.map fun name => "  " ++ name ++ "\n")

/-- The outcome of a command line without a request. -/
def Stop.outcome : Stop → Outcome
  | .usage => { errors := usageText, status := 2 }
  | .help => { output := usageText }
  | .version => { output := programName ++ " " ++ programVersion ++ "\n" }

/-! ## Texts -/

/-- What is printed for a run: how many files each target got. -/
def writtenText (r : Report) : String :=
  String.join (r.written.map fun (name, paths) =>
    name ++ ": " ++ toString paths.length ++ " file(s)\n")

/-- The paths that a run wrote, one to a line. -/
def pathText (r : Report) : String :=
  String.join ((r.written.flatMap (·.2)).map fun path => "  " ++ path ++ "\n")

/-- What is printed for a drawing with a model. -/
def summaryText (s : BuildSummary) : String :=
  "✓ Valid diagram: " ++ toString s.classes ++ " classes, " ++ toString s.properties
    ++ " properties, " ++ toString s.methods ++ " methods\n"
    ++ "  edges: " ++ toString s.linked ++ " linked, " ++ toString s.ignored ++ " ignored, "
    ++ toString s.skipped ++ " skipped\n"

/-- What is printed for a drawing that is read. -/
def sizeText (d : Drawing) : String :=
  "Read " ++ toString d.cells.size ++ " cells and " ++ toString d.connectors.size
    ++ " relationship edges\n"

/-- The names of the targets. -/
def targetNames : List String := Target.all.map (·.name)

/-- The names of the dialects. -/
def dialectNames : List String := Schema.dialects.map (·.name)

/-- The targets and the dialects, one to a line. -/
def listingText : String :=
  let names (l : List String) : String := String.join (l.map fun name => "  " ++ name ++ "\n")
  "Targets:\n" ++ names targetNames ++ "\nSQL dialects (targets.sql.dialect):\n"
    ++ names dialectNames

/-- The targets and the dialects as a document. -/
def listingDocument : String :=
  (Json.object [("dialects", .ofList .string dialectNames),
    ("targets", .ofList .string targetNames)]).pretty ++ "\n"

/-- The warning about a log, whose format the environment gives if no switch does. -/
def logWarning (settings : Settings) (environment : Option String) : String :=
  match settings.logFormat, environment with
  | none, some name =>
      if (LogFormat.ofName? name).isNone then
        "Warning: Failed to initialize logging: Invalid log format: "
          ++ LogFormat.unknownReport name ++ "\n"
      else ""
  | _, _ => ""

/-- The greeting of a session that tells more. -/
def greeting (settings : Settings) : String :=
  if settings.verbose then "Classforge v" ++ programVersion ++ "\n" else ""

/-! ## Commands -/

/-- The name of the standard input and of the standard output among paths. -/
def standardStream : String := "-"

/-- What a session may use of the world around it. -/
structure Surroundings (m : Type → Type) where
  /-- The files. -/
  files : FileSystem m
  /-- All of the standard input. -/
  input : m (Except Fault String)

section

variable {m : Type → Type} [Monad m]

namespace Surroundings

/-- Reads a document from a file. -/
def readFile {α : Type} (w : Surroundings m) (kind : DocumentKind) (parse : String → Option α)
    (path : String) : ExceptT Failure m α := do
  match ← w.files.read path with
  | .error fault => throw (.unreadable kind path fault)
  | .ok document =>
      match parse document with
      | some a => pure a
      | none => throw (.invalid kind (some path))

/-- Reads a drawing from a file or from the standard input. -/
def readDrawing (w : Surroundings m) (path : String) : ExceptT Failure m Drawing := do
  if path = standardStream then
    match ← w.input with
    | .error fault => throw (.noInput fault)
    | .ok document =>
        match Drawing.parse? document with
        | some d => pure d
        | none => throw (.invalid .drawing none)
  else w.readFile .drawing Drawing.parse? path

/-- Reads the options from a file, if one is given. -/
def readOptions (w : Surroundings m) (path : Option String) : ExceptT Failure m Options :=
  match path with
  | some path => w.readFile .options Options.parse? path
  | none => pure {}

/-- Writes the files for a drawing.  The options are read before the drawing. -/
def generate (w : Surroundings m) (verbose : Bool) (input : String) (options : Option String)
    (targets : List String) (output : String) : ExceptT Failure m Outcome := do
  let o ← w.readOptions options
  let d ← w.readDrawing input
  match ← (ClassDiagram.run w.files o d targets output : m (Except RunError Report)) with
  | .error cause => throw (.run cause)
  | .ok r => return { output := writtenText r, errors := if verbose then pathText r else "" }

/-- Writes the model of a drawing to a file or to the standard output. -/
def inspect (w : Surroundings m) (input : String) (output : Option String) :
    ExceptT Failure m Outcome := do
  let d ← w.readDrawing input
  match Model.ofDrawing d with
  | .error cause => throw (.build cause)
  | .ok (model, _) =>
      let path := output.getD standardStream
      if path = standardStream then return { output := model.document ++ "\n" }
      else
        match ← w.files.write path model.document with
        | some fault => throw (.unwritable path fault)
        | none => return {}

/-- Tells whether a drawing has a model.  One without is reported on both streams. -/
def validate (w : Surroundings m) (verbose : Bool) (input : String) :
    ExceptT Failure m Outcome := do
  let d ← w.readDrawing input
  let outcome : Outcome :=
    match Model.ofDrawing d with
    | .ok (_, summary) => { output := summaryText summary }
    | .error cause =>
        { (Failure.build cause).outcome with
          output := "✗ Invalid diagram: " ++ cause.message ++ "\n" }
  return outcome.after (if verbose then sizeText d else "")

end Surroundings

/-- Does what a command says. -/
def Command.perform (w : Surroundings m) (verbose : Bool) : Command → ExceptT Failure m Outcome
  | .generate input options spellings output =>
      w.generate verbose input options spellings output
  | .inspect input output => w.inspect input output
  | .validate input => w.validate verbose input
  | .targets json => return { output := if json then listingDocument else listingText }

/-- The outcome of a request. -/
def Request.answer (w : Surroundings m) (logFormat : Option String) (r : Request) : m Outcome := do
  let outcome : Outcome :=
    match ← (r.command.perform w r.settings.verbose).run with
    | .ok outcome => outcome
    | .error failure => failure.outcome
  return outcome.after (logWarning r.settings logFormat ++ greeting r.settings)

/-- The outcome of a command line, where the environment may give the format of the log. -/
def session (w : Surroundings m) (logFormat : Option String) (arguments : List String) :
    m Outcome :=
  match Request.ofArguments arguments with
  | .error stop => pure stop.outcome
  | .ok r => r.answer w logFormat

end

end ClassDiagram.CommandLine
