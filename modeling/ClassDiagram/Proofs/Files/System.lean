import ClassDiagram.Proofs.Files.Disk

/-!
# File systems with a disk

A file system is *backed* by a disk that is part of its state when the operations that
succeed do to the disk what they say.  Any operation may be refused, and not only for
reasons that the disk shows: it may be full, or locked, and this may change with time.
A directory that is refused leaves the disk as it is.  A file that is refused may have
been written in part, but nothing else was touched.

An action is *confined* to some paths when it changes the disk at them and nowhere
else, however it ends.  Actions that are confined to the same paths may follow each
other (`Confined.bind`), so this holds of whole programs.
-/

namespace ClassDiagram.Files

open Disk (Changed)

variable {σ α β : Type} {disk : σ → Disk}

/-- The files of a file system are those of a disk. -/
structure FileSystem.Backed (fs : FileSystem (StateM σ)) (disk : σ → Disk) : Prop where
  makeDir : ∀ path s s', fs.makeDir path s = (none, s') →
    (disk s).makeDir path = .ok (disk s')
  makeDir_refused : ∀ path s fault s', fs.makeDir path s = (some fault, s') → disk s' = disk s
  isDir : ∀ path s answer s', fs.isDir path s = (answer, s') → disk s' = disk s
  write : ∀ path content s s', fs.write path content s = (none, s') →
    (disk s).write path content = .ok (disk s')
  write_refused : ∀ path content s fault s', fs.write path content s = (some fault, s') →
    Changed [path] [] (disk s) (disk s')

/-- An operation without a fault has changed the disk as it should. -/
theorem Disk.of_change_none (operation : Disk → Except Fault Disk) {d d' : Disk}
    (h : change operation d = (none, d')) : operation d = .ok d' := by
  rw [change] at h
  split at h
  next hchanged =>
    cases h
    exact hchanged
  next => cases h

/-- One with a fault has not changed it. -/
theorem Disk.of_change_some (operation : Disk → Except Fault Disk) {d d' : Disk} {fault : Fault}
    (h : change operation d = (some fault, d')) : d' = d := by
  rw [change] at h
  split at h
  next => cases h
  next =>
    cases h
    rfl

/-- A disk backs its own file system. -/
theorem Disk.backed_fileSystem : fileSystem.Backed id where
  makeDir path _ _ h := of_change_none (·.makeDir path) h
  makeDir_refused path _ _ _ h := of_change_some (·.makeDir path) h
  isDir _ _ _ _ h := (congrArg Prod.snd h).symm
  write path content _ _ h := of_change_none (·.write path content) h
  write_refused path content _ _ _ h := by
    rw [of_change_some (·.write path content) h]
    exact .refl _

/-! ## Confined actions -/

/-- An action changes the disk only by what it writes at some paths and by directories that it
makes at some others. -/
def Confined (disk : σ → Disk) (files directories : List String) (x : StateM σ α) : Prop :=
  ∀ s a s', x s = (a, s') → Changed files directories (disk s) (disk s')

namespace Confined

variable {files files' directories directories' : List String} {x : StateM σ α}

theorem of_eq (h : ∀ s a s', x s = (a, s') → disk s' = disk s) :
    Confined disk files directories x := by
  intro s a s' hx
  rw [h s a s' hx]
  exact .refl _

theorem pure (a : α) : Confined disk files directories (Pure.pure a : StateM σ α) := by
  intro s b s' h
  cases h
  exact .refl _

/-- Confined actions one after the other are confined to the same paths. -/
theorem bind {f : α → StateM σ β} (hx : Confined disk files directories x)
    (hf : ∀ a, Confined disk files directories (f a)) :
    Confined disk files directories (x >>= f) := by
  intro s b s' h
  have hstep : f (x s).1 (x s).2 = (b, s') := h
  exact (hx s _ _ rfl).trans (hf _ _ _ _ hstep)

theorem mono (h : Confined disk files directories x) (hfiles : files ⊆ files')
    (hdirectories : directories ⊆ directories') : Confined disk files' directories' x :=
  fun s a s' hx => (h s a s' hx).mono hfiles hdirectories

end Confined

namespace FileSystem.Backed

variable {fs : FileSystem (StateM σ)} (backed : fs.Backed disk)
include backed

theorem confined_makeDir (path : String) : Confined disk [] [path] (fs.makeDir path) := by
  intro s result s' h
  cases result with
  | none => exact .of_makeDir (backed.makeDir path s s' h)
  | some fault =>
    rw [backed.makeDir_refused path s fault s' h]
    exact .refl _

/-- Writing touches the file at the path, whether it succeeds or not. -/
theorem confined_write (path content : String) :
    Confined disk [path] [] (fs.write path content) := by
  intro s result s' h
  cases result with
  | none => exact .of_write (backed.write path content s s' h)
  | some fault => exact backed.write_refused path content s fault s' h

/-- Asking whether a directory is there changes nothing. -/
theorem confined_excuse (path : String) (result : Option Fault) :
    Confined disk [] [] (fs.excuse path result) := by
  cases result with
  | none => exact .pure none
  | some fault =>
    refine .bind (.of_eq (backed.isDir path)) fun answer => ?_
    cases answer with
    | false => exact .pure (some fault)
    | true => exact .pure none

/-- Directories are made only at the paths that are to be directories. -/
theorem confined_makeInside (paths : List String) :
    Confined disk [] paths (fs.makeInside paths) := by
  induction paths with
  | nil => exact .pure none
  | cons path above ih =>
    have hfirst : Confined disk [] (path :: above) (fs.makeDir path) :=
      (backed.confined_makeDir path).mono (List.Subset.refl _) (by simp)
    have hexcuse (result : Option Fault) :
        Confined disk [] (path :: above) (fs.excuse path result) :=
      (backed.confined_excuse path result).mono (List.Subset.refl _) (List.nil_subset _)
    rw [makeInside]
    refine hfirst.bind fun result => ?_
    split
    next =>
      refine (ih.mono (List.Subset.refl _) (List.subset_cons_self _ _)).bind fun result => ?_
      split
      next => exact hfirst.bind hexcuse
      next fault => exact .pure (some fault)
    next => exact hexcuse result

/-- Directories are made at a path and at those above it. -/
theorem confined_makeDirs (path : String) :
    Confined disk [] (Path.ancestors path) (fs.makeDirs path) :=
  backed.confined_makeInside (Path.ancestors path)

end FileSystem.Backed

end ClassDiagram.Files
