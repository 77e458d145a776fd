import ClassDiagram.Proofs.Files.Held
import ClassDiagram.Proofs.Run.Steps
import ClassDiagram.Proofs.Target.Embedding

/-!
# What is left of the files of a job

A file is named after its entity, and nothing keeps the entities of a model from having
one name.  A job then writes to one path more than once.  It reports the path each time,
but only the last file is left (`Job.files_left`).

So no file is lost exactly when all files with one path hold the same.  For this it is
enough that the names of the entities differ and that none of them starts at the root.
Drawings need not be like this (`Job.twins_lost`).
-/

namespace ClassDiagram

open Files

variable {σ : Type} {fs : FileSystem (StateM σ)} {s s' : σ}

/-! ## Names and paths -/

/-- Relative paths that give one path below a base are the same. -/
theorem Files.Path.eq_of_join_eq {base path path' : String} (h : isAbsolute path = false)
    (h' : isAbsolute path' = false) (heq : join base path = join base path') : path = path' := by
  rw [join, join, h, h', Bool.or_false] at heq
  by_cases hempty : base.isEmpty = true
  · rw [if_pos hempty, if_pos hempty] at heq
    exact heq
  · rw [if_neg hempty, if_neg hempty] at heq
    by_cases hslash : endsInSlash base = true
    · rw [if_pos hslash, if_pos hslash] at heq
      exact (String.append_right_inj base).1 heq
    · rw [if_neg hslash, if_neg hslash] at heq
      exact (String.append_right_inj _).1 heq

theorem Emit.Emitter.isAbsolute_fileName (em : Emitter) (e : Entity) :
    Path.isAbsolute (em.fileName e) = Path.isAbsolute e.name := by
  rw [fileName, Path.isAbsolute, Path.isAbsolute, String.toList_append, String.toList_append,
    List.head?_append, List.head?_append]
  cases e.name.toList.head? with
  | none => rfl
  | some c => rfl

/-- Entities of one language with one file name have one name. -/
theorem Emit.Emitter.name_of_fileName_eq {em : Emitter} {e e' : Entity}
    (h : em.fileName e = em.fileName e') : e.name = e'.name := by
  rw [fileName, fileName, String.append_left_inj, String.append_left_inj] at h
  exact h

/-- The files of a backend are one for each entity that it picks, or a single script. -/
theorem Target.Serves.files_cases {t : Target} {b : Emit.Backend} (hb : t.Serves b) (m : Model)
    (o : Options) :
    b.files m o = (b.emitter.accepted m).map (b.emitter.fileFor b.entityText m o) ∨
      ∃ file, b.files m o = [file] := by
  rcases hb.cases with ⟨em, -, rfl⟩ | ⟨d, rfl⟩
  · exact Or.inl rfl
  · cases hscript : Schema.scriptFile? o with
    | none => exact Or.inl (hb.files_of_entities hscript m)
    | some name =>
      right
      show ∃ file, Schema.files d m o = [file]
      rw [Schema.files_eq, hscript]
      exact ⟨_, rfl⟩

/-! ## Writing one file after the other -/

/-- Of the elements with one image there is a last one. -/
theorem exists_last_of_mem_map {α β : Type} [DecidableEq β] {f : α → β} {l : List α} {b : β}
    (h : b ∈ l.map f) : ∃ before last after, l = before ++ last :: after ∧ f last = b ∧
      ∀ later ∈ after, f later ≠ b := by
  induction l with
  | nil => cases h
  | cons a rest ih =>
    by_cases hrest : b ∈ rest.map f
    · obtain ⟨before, last, after, rfl, hlast, hafter⟩ := ih hrest
      exact ⟨a :: before, last, after, rfl, hlast, hafter⟩
    · rw [List.map_cons, List.mem_cons] at h
      refine ⟨[], a, rest, rfl, (h.resolve_right hrest).symm, fun later hlater heq => hrest ?_⟩
      rw [← heq]
      exact List.mem_map_of_mem hlater

namespace Job

variable {j : Job} {paths : List String} {path held : String} {file : Emit.File}
  {files before after : List Emit.File}

/-- The job of a backend for a model. -/
def of (b : Emit.Backend) (m : Model) (o : Options) (directory : String) : Job :=
  ⟨b.name, directory, b.files m o⟩

/-- The step that writes a file. -/
def writeOf (j : Job) (file : Emit.File) : Step := ⟨j.target, j.pathOf file, .write file.2⟩

/-- All files of the job are there. -/
def Kept (fs : FileSystem (StateM σ)) (j : Job) (s : σ) : Prop :=
  ∀ file ∈ j.files, fs.Holds s (j.pathOf file) file.2

/-- Once the directory is made, the files of a job are written in their order. -/
theorem performed_files (h : Performed fs j.steps s s') :
    ∃ t, Performed fs (j.files.map j.writeOf) t s' := by
  cases h with
  | cons _ others => exact ⟨_, others⟩

/-- A file stays while others are written. -/
theorem holds_of_forall_ne (apart : fs.Apart paths) (hfiles : ∀ file ∈ files, j.pathOf file ∈ paths)
    (hpath : path ∈ paths) (hne : ∀ file ∈ files, j.pathOf file ≠ path)
    (h : Performed fs (files.map j.writeOf) s s') (hheld : fs.Holds s path held) :
    fs.Holds s' path held := by
  induction files generalizing s with
  | nil =>
    cases h
    exact hheld
  | cons file rest ih =>
    obtain ⟨hfile, hrest⟩ := List.forall_mem_cons.1 hfiles
    obtain ⟨hnefile, hnerest⟩ := List.forall_mem_cons.1 hne
    cases h with
    | @cons _ _ _ t _ first others =>
      exact ih hrest hnerest others
        (apart.others _ hfile path hpath hnefile.symm file.2 s t first.answer_write held hheld)

/-- A file is left with the contents of the last write to its path. -/
theorem holds_last (apart : fs.Apart paths)
    (hfiles : ∀ f ∈ before ++ file :: after, j.pathOf f ∈ paths)
    (hlast : ∀ later ∈ after, j.pathOf later ≠ j.pathOf file)
    (h : Performed fs ((before ++ file :: after).map j.writeOf) s s') :
    fs.Holds s' (j.pathOf file) file.2 := by
  have hfile : j.pathOf file ∈ paths := hfiles file (by simp)
  induction before generalizing s with
  | nil =>
    cases h with
    | @cons _ _ _ t _ first others =>
      have hafter : ∀ later ∈ after, j.pathOf later ∈ paths := fun later hlater =>
        hfiles later (List.mem_cons_of_mem _ hlater)
      exact holds_of_forall_ne apart hafter hfile hlast others
        (apart.written _ hfile file.2 s t first.answer_write)
  | cons _ before ih =>
    cases h with
    | cons _ others => exact ih (List.forall_mem_cons.1 hfiles).2 others

/-- The last file with a path is left. -/
theorem holds_of_files_eq (apart : fs.Apart j.paths) (h : Performed fs j.steps s s')
    (hfiles : j.files = before ++ file :: after)
    (hlast : ∀ later ∈ after, j.pathOf later ≠ j.pathOf file) :
    fs.Holds s' (j.pathOf file) file.2 := by
  obtain ⟨t, hwrites⟩ := performed_files h
  have hpaths : ∀ f ∈ j.files, j.pathOf f ∈ j.paths := fun _ => List.mem_map_of_mem
  rw [hfiles] at hwrites hpaths
  exact holds_last apart hpaths hlast hwrites

/-- All files are kept exactly when those with one path are the same. -/
theorem kept_iff (apart : fs.Apart j.paths) (h : Performed fs j.steps s s') :
    j.Kept fs s' ↔
      ∀ file ∈ j.files, ∀ other ∈ j.files, j.pathOf other = j.pathOf file → other.2 = file.2 := by
  constructor
  · intro hkept file hfile other hother hpath
    have hheld := hkept other hother
    rw [hpath] at hheld
    exact hheld.unique (hkept file hfile)
  · intro hsame file hfile
    obtain ⟨before, last, after, hfiles, hlast, hafter⟩ :=
      exists_last_of_mem_map (List.mem_map_of_mem (f := j.pathOf) hfile)
    have hmem : last ∈ j.files := by
      rw [hfiles]
      simp
    rw [← hsame file hfile last hmem hlast, ← hlast]
    rw [← hlast] at hafter
    exact holds_of_files_eq apart h hfiles hafter

/-- Entities with different names, none of which starts at the root, have different paths. -/
theorem eq_of_pathOf_eq {t : Target} {b : Emit.Backend} (hb : t.Serves b) {m : Model} {o : Options}
    {directory : String} (names : ((b.emitter.accepted m).map (·.name)).Nodup)
    (relative : ∀ e ∈ b.emitter.accepted m, Path.isAbsolute e.name = false) {file other : Emit.File}
    (hfile : file ∈ b.files m o) (hother : other ∈ b.files m o)
    (h : (of b m o directory).pathOf other = (of b m o directory).pathOf file) : other = file := by
  rcases hb.files_cases m o with hfiles | ⟨script, hfiles⟩
  · rw [hfiles] at hfile hother
    obtain ⟨e, he, rfl⟩ := List.mem_map.1 hfile
    obtain ⟨e', he', rfl⟩ := List.mem_map.1 hother
    have hrelative : ∀ e ∈ b.emitter.accepted m,
        Path.isAbsolute (b.emitter.fileFor b.entityText m o e).1 = false := fun e he =>
      (b.emitter.isAbsolute_fileName e).trans (relative e he)
    have hname := Emit.Emitter.name_of_fileName_eq
      (Path.eq_of_join_eq (hrelative e' he') (hrelative e he) h)
    rw [List.inj_on_of_nodup_map names he' he hname]
  · rw [hfiles] at hfile hother
    rw [List.mem_singleton.1 hfile, List.mem_singleton.1 hother]

/-- What is left of the files of a job is, at each path, the last file with this path.  So all of
them are kept exactly when those with one path are the same, as when the names of the entities
differ and do not start at the root. -/
theorem files_left {t : Target} {b : Emit.Backend} (hb : t.Serves b) (m : Model) (o : Options)
    (directory : String) (apart : fs.Apart (of b m o directory).paths)
    (h : performAll fs (of b m o directory).steps s = (none, s')) :
    (∀ before file after, b.files m o = before ++ file :: after →
      (∀ later ∈ after, Path.join directory later.1 ≠ Path.join directory file.1) →
      fs.Holds s' (Path.join directory file.1) file.2) ∧
    ((of b m o directory).Kept fs s' ↔ ∀ file ∈ b.files m o, ∀ other ∈ b.files m o,
      Path.join directory other.1 = Path.join directory file.1 → other.2 = file.2) ∧
    (((b.emitter.accepted m).map (·.name)).Nodup →
      (∀ e ∈ b.emitter.accepted m, Path.isAbsolute e.name = false) →
      (of b m o directory).Kept fs s') := by
  have hperformed := performed_of_performAll h
  refine ⟨fun before file after hfiles hafter => ?_, kept_iff apart hperformed, ?_⟩
  · exact holds_of_files_eq apart hperformed hfiles hafter
  · intro names relative
    refine (kept_iff apart hperformed).2 fun file hfile other hother hpath => ?_
    rw [eq_of_pathOf_eq hb names relative hfile hother hpath]

end Job

/-! ## Classes with one name -/

/-- Two class boxes with one name. -/
def Drawing.twins : Drawing where
  root := "1"
  cells := .ofList
    [("a", { id := "a", parent := some "1", style := .ofList [("shape", "umlClass")],
             texts := ["Order"] }),
     ("p", { id := "p", parent := some "a", texts := ["+ total: int32"] }),
     ("b", { id := "b", parent := some "1", style := .ofList [("shape", "umlClass")],
             texts := ["Order"] }),
     ("q", { id := "q", parent := some "b", texts := ["+ buyer: string"] })]

/-- The two classes. -/
def Model.twins : Model :=
  ⟨.ofList
    [("a", { kind := .concrete, name := "Order",
             properties := .ofList
               [(0, { access := .everyone, name := "total", type := "int32" })] }),
     ("b", { kind := .concrete, name := "Order",
             properties := .ofList
               [(0, { access := .everyone, name := "buyer", type := "string" })] })]⟩

/-- The job of writing both classes for PHP. -/
def Job.twins : Job := .of Emit.php.backend .twins {} "out"

theorem Job.files_twins : ∃ first last, Job.twins.files = [first, last] ∧
    Job.twins.pathOf first = "out/Order.php" ∧ Job.twins.pathOf last = "out/Order.php" ∧
    first.2 ≠ last.2 :=
  ⟨_, _, rfl, by decide +kernel, by decide +kernel, by decide +kernel⟩

/-- One path does not hold both classes. -/
theorem Job.not_kept_twins (fs : FileSystem (StateM σ)) (s : σ) : ¬Job.twins.Kept fs s := by
  obtain ⟨first, last, hfiles, hfirst, hlast, hne⟩ := files_twins
  intro hkept
  have hfirstHeld := hkept first (by simp [hfiles])
  have hlastHeld := hkept last (by simp [hfiles])
  rw [hfirst] at hfirstHeld
  rw [hlast] at hlastHeld
  exact hne (hfirstHeld.unique hlastHeld)

/-- Of two classes with one name, only the file of the second is left. -/
theorem Job.files_left_twins : Disk.fileSystem.Apart Job.twins.paths ∧
    ∃ disk, performAll Disk.fileSystem Job.twins.steps ⟨∅⟩ = (none, disk) ∧
      ∃ first last, Job.twins.files = [first, last] ∧
        Disk.fileSystem.Holds disk (Job.twins.pathOf last) last.2 ∧
        ¬Job.twins.Kept Disk.fileSystem disk := by
  have apart : Disk.fileSystem.Apart Job.twins.paths :=
    Disk.apart_fileSystem (by decide +kernel) (by decide +kernel)
  have hnone : (performAll Disk.fileSystem Job.twins.steps ⟨∅⟩).1 = none := by decide +kernel
  rcases hperformed : performAll Disk.fileSystem Job.twins.steps ⟨∅⟩ with ⟨result, disk⟩
  rw [hperformed] at hnone
  obtain rfl : result = none := hnone
  have hphp : Target.php.Serves Emit.php.backend := ⟨{}, rfl⟩
  obtain ⟨hleft, -, -⟩ := Job.files_left hphp .twins {} "out" apart hperformed
  obtain ⟨first, last, hfiles, -⟩ := Job.files_twins
  exact ⟨apart, disk, rfl, first, last, hfiles, hleft [first] last [] hfiles nofun,
    Job.not_kept_twins _ _⟩

/-- Two classes with one name are enough to lose a file, even where nothing is refused and every
path names a file of its own. -/
theorem Job.twins_lost : ¬∀ (σ : Type) (fs : FileSystem (StateM σ)),
    (∀ path content s, (fs.write path content s).1 = none) → (∀ paths, fs.Apart paths) →
    ∀ d m summary, Model.ofDrawing d = .ok (m, summary) →
    ∀ o t b, Target.backend o t = .ok b →
    ∀ directory s s', performAll fs (Job.of b m o directory).steps s = (none, s') →
      (Job.of b m o directory).Kept fs s' := by
  intro kept
  have hnone : (performAll FileSystem.cabinet Job.twins.steps ∅).1 = none := by decide +kernel
  rcases hperformed : performAll FileSystem.cabinet Job.twins.steps ∅ with ⟨result, s'⟩
  rw [hperformed] at hnone
  obtain rfl : result = none := hnone
  exact Job.not_kept_twins _ _ (kept _ FileSystem.cabinet (fun _ _ _ => rfl)
    FileSystem.apart_cabinet .twins .twins _ rfl {} .php _ rfl "out" ∅ s' hperformed)

end ClassDiagram
