import ClassDiagram.Files.System
import ClassDiagram.Model.OfDrawing
import ClassDiagram.Target

/-!
# Runs

A run turns a drawing into files.  All that can be refused is checked first: the
targets, in the order they are named, and then the drawing.  What is left is a
`Plan`, which says what to write and where.

With more than one backend, each writes into a directory of its own below the
given one.  The steps of a plan are performed one after the other, and the first
fault ends the run.
-/

namespace ClassDiagram

open Files

/-! ## Plans -/

/-- What one backend is to write, and into which directory. -/
structure Job where
  /-- The name of the target. -/
  target : String
  directory : String
  files : List Emit.File
deriving DecidableEq, Repr

/-- A change to the files around a run. -/
inductive Change where
  /-- Makes a directory and those above it. -/
  | makeDirs
  /-- Writes a file. -/
  | write (content : String)
deriving DecidableEq, Repr

/-- A change for the sake of a target. -/
structure Step where
  /-- The name of the target. -/
  target : String
  path : String
  change : Change
deriving DecidableEq, Repr

namespace Job

/-- The path of a file. -/
def pathOf (j : Job) (file : Emit.File) : String := Path.join j.directory file.1

/-- The paths of the files, in order. -/
def paths (j : Job) : List String := j.files.map j.pathOf

/-- The steps of a job: its directory first, and then its files. -/
def steps (j : Job) : List Step :=
  ⟨j.target, j.directory, .makeDirs⟩
    :: j.files.map fun file => ⟨j.target, j.pathOf file, .write file.2⟩

end Job

/-- What a run is to write. -/
structure Plan where
  /-- The number of entities. -/
  classes : Nat
  jobs : List Job
deriving DecidableEq, Repr

/-- Why a run does not succeed. -/
inductive RunError where
  /-- A target has no backend. -/
  | selection (cause : SelectionError)
  /-- The drawing has no model. -/
  | build (cause : BuildError)
  /-- A step of a target is refused. -/
  | refused (target path : String) (fault : Fault)
deriving DecidableEq, Repr

/-- The report of a run that does not succeed. -/
def RunError.message : RunError → String
  | .selection cause => cause.message
  | .build cause => "Failed to build syntax tree: " ++ cause.message
  | .refused target path fault =>
      "Target '" ++ target ++ "' failed: Failed to write " ++ target ++ " output: "
        ++ report path fault.message ++ ": " ++ fault.message

namespace Plan

/-- The directory that a backend writes into. -/
def directoryFor (backends : List Emit.Backend) (out : String) (b : Emit.Backend) : String :=
  if backends.length > 1 then Path.join out b.name else out

/-- The plan for some backends. -/
def ofBackends (m : Model) (o : Options) (backends : List Emit.Backend) (out : String) : Plan where
  classes := m.entities.size
  jobs := backends.map fun b => ⟨b.name, directoryFor backends out b, b.files m o⟩

/-- The plan for a drawing and some spellings of targets. -/
def ofDrawing (o : Options) (d : Drawing) (targets : List String) (out : String) :
    Except RunError Plan := do
  let backends ← (select o targets).mapError .selection
  let (m, _) ← (Model.ofDrawing d).mapError .build
  return ofBackends m o backends out

/-- The steps of a plan, job by job. -/
def steps (p : Plan) : List Step := p.jobs.flatMap Job.steps

end Plan

/-! ## Performing plans -/

/-- What a run has written. -/
structure Report where
  /-- The number of entities. -/
  classes : Nat
  /-- The paths written for each target, in order. -/
  written : List (String × List String)
deriving DecidableEq, Repr

/-- The number of files written. -/
def Report.fileCount (r : Report) : Nat := (r.written.flatMap (·.2)).length

/-- The report of a plan all of whose steps are performed. -/
def Plan.report (p : Plan) : Report where
  classes := p.classes
  written := p.jobs.map fun j => (j.target, j.paths)

section

variable {m : Type → Type} [Monad m]

/-- Performs a step. -/
def Step.perform (fs : FileSystem m) (s : Step) : m (Option Fault) :=
  match s.change with
  | .makeDirs => fs.makeDirs s.path
  | .write content => fs.write s.path content

/-- Performs steps until one is refused, and tells which one that is. -/
def performAll (fs : FileSystem m) : List Step → m (Option (Step × Fault))
  | [] => pure none
  | s :: rest => do
      match ← s.perform fs with
      | none => performAll fs rest
      | some fault => pure (some (s, fault))

/-- Performs a plan. -/
def Plan.perform (fs : FileSystem m) (p : Plan) : m (Except RunError Report) := do
  match ← performAll fs p.steps with
  | none => pure (.ok p.report)
  | some (s, fault) => pure (.error (.refused s.target s.path fault))

/-- Turns a drawing into files. -/
def run (fs : FileSystem m) (o : Options) (d : Drawing) (targets : List String) (out : String) :
    m (Except RunError Report) :=
  match Plan.ofDrawing o d targets out with
  | .ok p => p.perform fs
  | .error e => pure (.error e)

end

end ClassDiagram
