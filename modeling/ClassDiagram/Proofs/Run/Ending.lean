import ClassDiagram.Proofs.Model.OfDrawing
import ClassDiagram.Proofs.Run.Steps
import ClassDiagram.Proofs.Target.Selection

/-!
# How a run ends

A run is refused for the first of its targets that is refused, and otherwise for a
drawing without a model.  In both cases it has not touched any file.

A run that is not refused has a job for each of its targets, in the order in which they
are first mentioned.  It ends either with all steps of all jobs performed, or at the
first step that the file system refuses.  What was there and what was written before
stays then (`run_checked`).  Either way a file that was written can be read, unless another
one was written in its place.
-/

namespace ClassDiagram

open Files Files.Disk

variable {σ : Type} {fs : FileSystem (StateM σ)} {disk : σ → Disk} {s s' : σ} {o : Options}
  {d : Drawing} {m : Model} {summary : BuildSummary} {targets : List String} {out : String}

/-! ## Jobs for targets -/

/-- The directory of a target.  Targets that are not alone have directories of their own. -/
def directoryOf (mentioned : List Target) (out : String) (t : Target) : String :=
  if 1 < mentioned.length then Path.join out t.name else out

/-- The job for one of the targets of a run: it writes what the backend of the target makes of
the model. -/
def IsJob (o : Options) (m : Model) (mentioned : List Target) (out : String) (t : Target)
    (j : Job) : Prop :=
  ∃ b, t.backend o = .ok b ∧ j = ⟨t.name, directoryOf mentioned out t, b.files m o⟩

/-- Backends that correspond to targets have the jobs for these. -/
theorem forall₂_isJob {backends : List Emit.Backend} {mentioned : List Target}
    (h : List.Forall₂ (fun t b => Target.backend o t = .ok b) mentioned backends) :
    List.Forall₂ (IsJob o m mentioned out) mentioned (Plan.ofBackends m o backends out).jobs := by
  rw [Plan.ofBackends, List.forall₂_map_right_iff]
  have hlength := h.length_eq
  refine h.imp fun t b hb => ⟨b, hb, ?_⟩
  rw [Plan.directoryFor, directoryOf, hlength, Target.name_of_backend hb]

/-! ## Endings -/

/-- How a run with some jobs can end. -/
inductive Ending (fs : FileSystem (StateM σ)) (disk : σ → Disk) (classes : Nat)
    (jobs : List Job) (s : σ) : Except RunError Report → σ → Prop where
  /-- All steps are performed.  The disk has changed at the paths that are reported and by the
  directories for them, and nowhere else.  The files hold what was written to them last. -/
  | performed {s' : σ} (all : Performed fs (jobs.flatMap Job.steps) s s')
      (changed : Changed (jobs.flatMap Job.paths) (jobs.flatMap (Path.ancestors ·.directory))
        (disk s) (disk s'))
      (kept : ReadsBack (jobs.flatMap Job.steps) [] (disk s')) :
      Ending fs disk classes jobs s (.ok ⟨classes, jobs.map fun j => (j.target, j.paths)⟩) s'
  /-- A step is refused after some that are performed, and none is attempted after it.  Apart
  from what was to be done in this step the disk is as the steps before have left it, and the
  files that they wrote can be read. -/
  | refused {before after : List Step} {step : Step} {fault : Fault} {t s' : σ}
      (split : jobs.flatMap Job.steps = before ++ step :: after)
      (earlier : Performed fs before s t) (last : step.Attempted fs (some fault) t s')
      (changed : Changed (before.flatMap Step.files) (before.flatMap Step.directories)
        (disk s) (disk t))
      (stays : Changed step.files step.directories (disk t) (disk s'))
      (kept : ReadsBack before step.files (disk s')) :
      Ending fs disk classes jobs s (.error (.refused step.target step.path fault)) s'

theorem flatMap_files_steps (jobs : List Job) :
    (jobs.flatMap Job.steps).flatMap Step.files = jobs.flatMap Job.paths := by
  rw [List.flatMap_assoc]
  exact congrArg (List.flatMap · jobs) (funext Job.files_steps)

theorem flatMap_directories_steps (jobs : List Job) :
    (jobs.flatMap Job.steps).flatMap Step.directories =
      jobs.flatMap (Path.ancestors ·.directory) := by
  rw [List.flatMap_assoc]
  exact congrArg (List.flatMap · jobs) (funext Job.directories_steps)

/-- A plan is performed to the end or up to the first step that is refused. -/
theorem ending_perform (backed : fs.Backed disk) (p : Plan) {result : Except RunError Report}
    (h : p.perform fs s = (result, s')) : Ending fs disk p.classes p.jobs s result s' := by
  rw [Plan.perform] at h
  simp only [bind, StateT.bind] at h
  rcases hall : performAll fs p.steps s with ⟨stopped, t⟩
  rw [hall] at h
  cases stopped with
  | none =>
    cases h
    have all := performed_of_performAll hall
    have changed := all.changed backed
    rw [Plan.steps, flatMap_files_steps, flatMap_directories_steps] at changed
    exact .performed all changed (all.readsBack backed (.refl _ : Changed [] [] _ _))
  | some refused =>
    cases h
    obtain ⟨before, after, u, split, earlier, last⟩ := exists_refused_of_performAll hall
    have stays := last.changed backed
    exact .refused split earlier last (earlier.changed backed) stays
      (earlier.readsBack backed stays)

/-! ## Runs -/

/-- A run whose targets are refused does nothing, whatever the drawing is. -/
theorem run_of_refusal? {cause : SelectionError}
    (h : targets.findSome? (refusal? o) = some cause) :
    run fs o d targets out s = (.error (.selection cause), s) := by
  have hplan : Plan.ofDrawing o d targets out = .error (.selection cause) := by
    rw [Plan.ofDrawing, select_of_refusal? h]
    rfl
  rw [run, hplan]
  rfl

/-- A run whose drawing has no model does nothing. -/
theorem run_of_build_error (h : targets.findSome? (refusal? o) = none) {cause : BuildError}
    (hbuild : Model.ofDrawing d = .error cause) :
    run fs o d targets out s = (.error (.build cause), s) := by
  obtain ⟨backends, hselect, -⟩ := exists_select h
  have hplan : Plan.ofDrawing o d targets out = .error (.build cause) := by
    rw [Plan.ofDrawing, hselect, hbuild]
    rfl
  rw [run, hplan]
  rfl

/-- A run over a drawing that can be read does the jobs of its targets, one after the other, to an
ending. -/
theorem exists_ending (backed : fs.Backed disk) (h : targets.findSome? (refusal? o) = none)
    (hbuild : Model.ofDrawing d = .ok (m, summary)) :
    ∃ jobs result s', run fs o d targets out s = (result, s') ∧
      List.Forall₂ (IsJob o m (mentioned targets) out) (mentioned targets) jobs ∧
      Ending fs disk m.entities.size jobs s result s' := by
  obtain ⟨backends, hselect, hbackends⟩ := exists_select h
  have hplan : Plan.ofDrawing o d targets out = .ok (Plan.ofBackends m o backends out) := by
    rw [Plan.ofDrawing, hselect, hbuild]
    rfl
  rcases hrun : run fs o d targets out s with ⟨result, s'⟩
  refine ⟨(Plan.ofBackends m o backends out).jobs, result, s', rfl, forall₂_isJob hbackends, ?_⟩
  rw [run, hplan] at hrun
  exact ending_perform backed (Plan.ofBackends m o backends out) hrun

/-- A run touches files only after everything was checked: first the targets, in their order,
and then the drawing.  It performs the job of each target that is mentioned once, in the order of
the first mentions, and ends with the last job or with the first step that is refused. -/
theorem run_checked (backed : fs.Backed disk) (o : Options) (d : Drawing) (targets : List String)
    (out : String) (s : σ) :
    (∀ cause, targets.findSome? (refusal? o) = some cause →
      run fs o d targets out s = (.error (.selection cause), s)) ∧
    (targets.findSome? (refusal? o) = none →
      (∀ cause, Model.ofDrawing d = .error cause →
        run fs o d targets out s = (.error (.build cause), s)) ∧
      ∀ m summary, Model.ofDrawing d = .ok (m, summary) →
        ∃ jobs result s', run fs o d targets out s = (result, s') ∧
          List.Forall₂ (IsJob o m (mentioned targets) out) (mentioned targets) jobs ∧
          Ending fs disk m.entities.size jobs s result s') :=
  ⟨fun _ hcause => run_of_refusal? hcause, fun hnone =>
    ⟨fun _ hbuild => run_of_build_error hnone hbuild, fun _ _ hbuild =>
      exists_ending backed hnone hbuild⟩⟩

/-- A disk with a file where the second target is to have its directory. -/
def blocked : Disk := ⟨.ofList [(["out"], .directory), (["out", "python"], .file "# notes")]⟩

/-- The run is refused where the directory for Python was to be.  The notes are still there, and so
are the files for C#. -/
theorem run_checked_blocked : Disk.fileSystem.Backed id ∧
    mentioned ["C#", " py", "cs"] = [.csharp, .python] ∧
    ∃ m jobs disk, run fileSystem {} .tree ["C#", " py", "cs"] "out" blocked =
        (.error (.refused "python" "out/python" .occupied), disk) ∧
      List.Forall₂ (IsJob {} m [.csharp, .python] "out") [.csharp, .python] jobs ∧
      Ending fileSystem id 2 jobs blocked
        (.error (.refused "python" "out/python" .occupied)) disk ∧
      disk.entries.keys = [["out"], ["out", "python"], ["out", "csharp"],
        ["out", "csharp", "Node.cs"], ["out", "csharp", "Walkable.cs"]] ∧
      disk.read "out/python" = .ok "# notes" ∧
      disk.read "out/csharp/Walkable.cs" =
        .ok "using System;\n\npublic interface Walkable\n\x7b\n\n\x7d\n" := by
  obtain ⟨-, hchecked⟩ :=
    run_checked Disk.backed_fileSystem {} .tree ["C#", " py", "cs"] "out" blocked
  obtain ⟨jobs, result, disk, hrun, hjobs, hending⟩ := (hchecked (by decide)).2 _ _ rfl
  obtain rfl : result = .error (.refused "python" "out/python" .occupied) :=
    (congrArg Prod.fst hrun).symm.trans (by decide +kernel)
  have hdisk : (run fileSystem {} .tree ["C#", " py", "cs"] "out" blocked).2 = disk :=
    congrArg Prod.snd hrun
  refine ⟨Disk.backed_fileSystem, by decide, _, jobs, disk, hrun, hjobs, hending, ?_⟩
  rw [← hdisk]
  exact ⟨by decide +kernel, by decide +kernel, by decide +kernel⟩

end ClassDiagram
