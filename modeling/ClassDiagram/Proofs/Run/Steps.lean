import ClassDiagram.Proofs.Files.System
import ClassDiagram.Run

/-!
# The steps of a run

A step is *attempted* when the file system is asked for its change (`Step.Attempted`).
A list of steps is *performed* when one after the other is attempted and succeeds.  A run
performs its steps in this way up to the first that is refused and attempts none after it
(`exists_refused_of_performAll`).

A step that is attempted changes the disk only at the paths that it writes or makes.  So
do any number of them (`Performed.changed`), whatever the file system refuses.  And what
they write can be read where it was written, as long as nothing else is written there
(`Performed.readsBack`).
-/

namespace ClassDiagram

open Files Files.Disk

variable {σ : Type} {fs : FileSystem (StateM σ)} {disk : σ → Disk} {s s' t : σ}

/-! ## One step -/

namespace Step

/-- The path of the file that a step writes. -/
def files (step : Step) : List String :=
  match step.change with
  | .makeDirs => []
  | .write _ => [step.path]

/-- The paths of the directories that a step makes sure of. -/
def directories (step : Step) : List String :=
  match step.change with
  | .makeDirs => Path.ancestors step.path
  | .write _ => []

/-- The file system is asked for the change of a step. -/
inductive Attempted (fs : FileSystem (StateM σ)) : Step → Option Fault → σ → σ → Prop where
  | makeDirs {target path : String} {result : Option Fault} {s s' : σ}
      (answer : fs.makeDirs path s = (result, s')) :
      Attempted fs ⟨target, path, .makeDirs⟩ result s s'
  | write {target path content : String} {result : Option Fault} {s s' : σ}
      (answer : fs.write path content s = (result, s')) :
      Attempted fs ⟨target, path, .write content⟩ result s s'

variable {step : Step} {result : Option Fault}

/-- To perform a step is to attempt it. -/
theorem attempted_of_perform (h : step.perform fs s = (result, s')) :
    step.Attempted fs result s s' := by
  obtain ⟨target, path, change⟩ := step
  cases change with
  | makeDirs => exact .makeDirs h
  | write content => exact .write h

theorem Attempted.answer_write {target path content : String}
    (h : Attempted fs ⟨target, path, .write content⟩ result s s') :
    fs.write path content s = (result, s') := by
  cases h with
  | write answer => exact answer

/-- A step changes the disk at its own paths only, be it performed or refused. -/
theorem Attempted.changed (backed : fs.Backed disk) (h : step.Attempted fs result s s') :
    Changed step.files step.directories (disk s) (disk s') := by
  cases h with
  | makeDirs answer => exact backed.confined_makeDirs _ _ _ _ answer
  | write answer => exact backed.confined_write _ _ _ _ _ answer

end Step

/-! ## Any number of steps -/

/-- Steps succeed one after the other. -/
inductive Performed (fs : FileSystem (StateM σ)) : List Step → σ → σ → Prop where
  | nil {s : σ} : Performed fs [] s s
  | cons {step : Step} {rest : List Step} {s t s' : σ} (first : step.Attempted fs none s t)
      (others : Performed fs rest t s') : Performed fs (step :: rest) s s'

variable {step : Step} {steps rest : List Step} {fault : Fault}

theorem performAll_cons_of_none (h : step.perform fs s = (none, t)) :
    performAll fs (step :: rest) s = performAll fs rest t := by
  rw [performAll]
  simp only [bind, StateT.bind, h]

theorem performAll_cons_of_some (h : step.perform fs s = (some fault, t)) :
    performAll fs (step :: rest) s = (some (step, fault), t) := by
  rw [performAll]
  simp only [bind, StateT.bind, h]
  rfl

/-- A run without a fault has performed all of its steps. -/
theorem performed_of_performAll (h : performAll fs steps s = (none, s')) :
    Performed fs steps s s' := by
  induction steps generalizing s with
  | nil =>
    cases h
    exact .nil
  | cons step rest ih =>
    rcases hfirst : step.perform fs s with ⟨result, t⟩
    cases result with
    | none =>
      rw [performAll_cons_of_none hfirst] at h
      exact .cons (Step.attempted_of_perform hfirst) (ih h)
    | some fault =>
      rw [performAll_cons_of_some hfirst] at h
      cases h

/-- Steps are performed up to the one that is refused, and none after it. -/
theorem exists_refused_of_performAll (h : performAll fs steps s = (some (step, fault), s')) :
    ∃ before after t, steps = before ++ step :: after ∧ Performed fs before s t ∧
      step.Attempted fs (some fault) t s' := by
  induction steps generalizing s with
  | nil => cases h
  | cons first rest ih =>
    rcases hfirst : first.perform fs s with ⟨result, t⟩
    cases result with
    | none =>
      rw [performAll_cons_of_none hfirst] at h
      obtain ⟨before, after, u, rfl, hbefore, hrefused⟩ := ih h
      have hperformed := Step.attempted_of_perform hfirst
      exact ⟨first :: before, after, u, rfl, .cons hperformed hbefore, hrefused⟩
    | some fault' =>
      rw [performAll_cons_of_some hfirst] at h
      cases h
      exact ⟨[], rest, s, rfl, .nil, Step.attempted_of_perform hfirst⟩

/-- Steps that are performed change the disk at their own paths only. -/
theorem Performed.changed (backed : fs.Backed disk) (h : Performed fs steps s s') :
    Changed (steps.flatMap Step.files) (steps.flatMap Step.directories) (disk s) (disk s') := by
  induction h with
  | nil => exact .refl _
  | @cons step rest s t s' first _ ih =>
    have hfirst := first.changed backed
    rw [List.flatMap_cons, List.flatMap_cons]
    exact (hfirst.mono (List.subset_append_left _ _) (List.subset_append_left _ _)).trans
      (ih.mono (List.subset_append_right _ _) (List.subset_append_right _ _))

/-- Steps that were performed in a row were performed one part after the other. -/
theorem exists_of_performed_append {before after : List Step}
    (h : Performed fs (before ++ after) s s') :
    ∃ t, Performed fs before s t ∧ Performed fs after t s' := by
  induction before generalizing s with
  | nil => exact ⟨s, .nil, h⟩
  | cons step rest ih =>
    cases h with
    | cons first others =>
      obtain ⟨t, hbefore, hafter⟩ := ih others
      exact ⟨t, .cons first hbefore, hafter⟩

/-- Every file that some steps write holds what was written to it, unless a later step or a write
to one of some other paths went to its place. -/
def ReadsBack (steps : List Step) (others : List String) (d : Disk) : Prop :=
  ∀ before target path content after, steps = before ++ ⟨target, path, .write content⟩ :: after →
    (∀ later ∈ after.flatMap Step.files ++ others, d.placeOf? later ≠ d.placeOf? path) →
    d.read path = .ok content

/-- What steps that are performed write can be read, also after further changes. -/
theorem Performed.readsBack (backed : fs.Backed disk) (h : Performed fs steps s t)
    {others directories : List String} (stays : Changed others directories (disk t) (disk s')) :
    ReadsBack steps others (disk s') := by
  rintro before target path content after rfl hlater
  obtain ⟨u, -, hrest⟩ := exists_of_performed_append h
  cases hrest with
  | @cons _ _ _ v _ first rest =>
    have hread := read_of_write (backed.write path content u v first.answer_write)
    have hafter := (rest.changed backed).mono (List.subset_append_left _ others)
      (List.subset_append_left _ directories)
    have hchanged := hafter.trans
      (stays.mono (List.subset_append_right _ _) (List.subset_append_right _ _))
    exact hchanged.read hread hlater

/-! ## Jobs -/

theorem Job.files_steps (j : Job) : j.steps.flatMap Step.files = j.paths := by
  rw [steps, paths, List.flatMap_cons, List.flatMap_map, List.map_eq_flatMap]
  rfl

theorem Job.directories_steps (j : Job) :
    j.steps.flatMap Step.directories = Path.ancestors j.directory := by
  rw [steps, List.flatMap_cons, List.flatMap_map]
  show Path.ancestors j.directory ++ j.files.flatMap (fun _ => []) = _
  rw [List.flatMap_eq_nil_iff.2 fun _ _ => rfl, List.append_nil]

end ClassDiagram
