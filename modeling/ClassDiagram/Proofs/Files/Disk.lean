import Mathlib.Data.List.Basic
import ClassDiagram.Files.Disk
import ClassDiagram.Proofs.Member.Parts

/-!
# What operations do to a disk

A path that leads to a name in a directory stands for one place.  It does so for good:
no operation takes a directory away, so a path that could be followed can be followed
later, and to the same place (`placeOf?_of_keeps`).

So it is enough to name the paths that were written and those of the directories that
were made.  `Changed` says of two disks that they differ at the places of these paths
and nowhere else.  It is kept by one operation after another (`Changed.trans`), and the
two operations that change a disk have it.

What is written to a file can be read there (`read_of_write`), and stays while other
places are written (`Changed.read`).  Plain paths lead to the places that their names
say, so which of them lead to one place can be told without the disk
(`eq_names_of_placeOf?`).
-/

namespace ClassDiagram.Files.Disk

variable {d d' d'' : Disk} {path content : String} {place : Place}

/-! ## Places of paths -/

/-- What is at a place. -/
def found? (d : Disk) (place : Place) : Option Entry := d.entries.get? place

/-- The place that a path leads to, if it leads to a name in a directory. -/
def placeOf? (d : Disk) (path : String) : Option Place :=
  match d.destination path with
  | .ok (.name parent name) => some (parent ++ [name])
  | _ => none

theorem placeOf?_of_destination {parent : Place} {name : String}
    (h : d.destination path = .ok (.name parent name)) :
    d.placeOf? path = some (parent ++ [name]) := by
  rw [placeOf?, h]

/-- The place of a path is a name in the directory that is there. -/
theorem destination_of_placeOf? (h : d.placeOf? path = some place) :
    ∃ parent name, d.destination path = .ok (.name parent name) ∧ parent ++ [name] = place := by
  rw [placeOf?] at h
  split at h
  next parent name hdestination => exact ⟨parent, name, hdestination, Option.some.inj h⟩
  next => cases h

theorem eq_names_of_followable {names : List String} (h : followable path = .ok names) :
    names = Path.names path := by
  rw [followable] at h
  split at h
  next => cases h
  next =>
    split at h
    next => cases h
    next =>
      split at h
      next => cases h
      next => exact (Except.ok.inj h).symm

/-- A path leads to its last name, in the directory that the names before lead to. -/
theorem destination_eq_name_iff {parent : Place} {name : String} :
    d.destination path = .ok (.name parent name) ↔ ∃ names, followable path = .ok names ∧
      names.getLast? = some name ∧ ¬(name = Path.here ∨ name = Path.up) ∧
      d.walk [] names.dropLast = .ok parent := by
  constructor
  · intro h
    rw [destination] at h
    obtain ⟨names, hnames, h⟩ := exists_of_bind_eq_ok h
    split at h
    next => cases h
    next last hlast =>
      split at h
      next =>
        obtain ⟨_, _, h⟩ := exists_of_bind_eq_ok h
        cases h
      next hdots =>
        obtain ⟨parent, hwalk, h⟩ := exists_of_bind_eq_ok h
        cases h
        exact ⟨names, hnames, hlast, hdots, hwalk⟩
  · rintro ⟨names, hnames, hlast, hdots, hwalk⟩
    simp only [destination, hnames, hlast, bind, Except.bind, if_neg hdots, hwalk]
    rfl

/-- A name that is short enough stands for what is at its place. -/
theorem look_eq_ok_iff {parent : Place} {name : String} {found : Option Entry} :
    d.look parent name = .ok found ↔
      name.utf8ByteSize ≤ nameLimit ∧ d.found? (parent ++ [name]) = found := by
  rw [look]
  split
  next hlong => exact ⟨nofun, fun h => absurd h.1 (Nat.not_le_of_lt hlong)⟩
  next hshort =>
    exact ⟨fun h => ⟨Nat.le_of_not_lt hshort, Except.ok.inj h⟩, fun h => congrArg _ h.2⟩

/-- What is put at a place is found there, and all else is as before. -/
theorem found?_put (d : Disk) (place : Place) (e : Entry) (other : Place) :
    (d.put place e).found? other = if other = place then some e else d.found? other :=
  OrderedMap.get?_insert _ _ _ _

/-! ## Directories that stay -/

/-- Every directory of a disk is one of another disk. -/
def Keeps (d d' : Disk) : Prop :=
  ∀ place, d.found? place = some .directory → d'.found? place = some .directory

/-- What is put at a place keeps the directories if none was there. -/
theorem keeps_put (hplace : d.found? place ≠ some .directory) (e : Entry) :
    d.Keeps (d.put place e) := by
  intro other hother
  have hne : other ≠ place := fun heq => hplace (heq ▸ hother)
  rw [found?_put, if_neg hne]
  exact hother

theorem look_of_keeps (h : d.Keeps d') {parent : Place} {name : String}
    (hlook : d.look parent name = .ok (some .directory)) :
    d'.look parent name = .ok (some .directory) := by
  obtain ⟨hshort, hfound⟩ := look_eq_ok_iff.1 hlook
  exact look_eq_ok_iff.2 ⟨hshort, h _ hfound⟩

/-- A walk through directories can be repeated while they stay. -/
theorem walk_of_keeps (h : d.Keeps d') {names : List String} {start place : Place}
    (hwalk : d.walk start names = .ok place) : d'.walk start names = .ok place := by
  induction names generalizing start with
  | nil => exact hwalk
  | cons name names ih =>
    rw [walk] at hwalk ⊢
    by_cases hhere : name = Path.here
    · rw [if_pos hhere] at hwalk ⊢
      exact ih hwalk
    · rw [if_neg hhere] at hwalk ⊢
      by_cases hup : name = Path.up
      · rw [if_pos hup] at hwalk ⊢
        exact ih hwalk
      · rw [if_neg hup] at hwalk ⊢
        split at hwalk
        next => cases hwalk
        next => cases hwalk
        next => cases hwalk
        next hlook =>
          rw [look_of_keeps h hlook]
          exact ih hwalk

/-- So a path leads to the same name later. -/
theorem destination_of_keeps (h : d.Keeps d') {parent : Place} {name : String}
    (hdestination : d.destination path = .ok (.name parent name)) :
    d'.destination path = .ok (.name parent name) := by
  obtain ⟨names, hnames, hlast, hdots, hwalk⟩ := destination_eq_name_iff.1 hdestination
  exact destination_eq_name_iff.2 ⟨names, hnames, hlast, hdots, walk_of_keeps h hwalk⟩

/-- A path goes on leading to its place. -/
theorem placeOf?_of_keeps (h : d.Keeps d') (hplace : d.placeOf? path = some place) :
    d'.placeOf? path = some place := by
  obtain ⟨parent, name, hdestination, rfl⟩ := destination_of_placeOf? hplace
  exact placeOf?_of_destination (destination_of_keeps h hdestination)

/-! ## Operations that succeed -/

/-- A directory is made where nothing was. -/
theorem of_makeDir (h : d.makeDir path = .ok d') : ∃ place, d.placeOf? path = some place ∧
    d.found? place = none ∧ d' = d.put place .directory := by
  rw [makeDir] at h
  obtain ⟨destination, hdestination, h⟩ := exists_of_bind_eq_ok h
  split at h
  next => cases h
  next parent name =>
    obtain ⟨found, hlook, h⟩ := exists_of_bind_eq_ok h
    split at h
    next => cases h
    next =>
      cases h
      exact ⟨parent ++ [name], placeOf?_of_destination hdestination, (look_eq_ok_iff.1 hlook).2,
        rfl⟩

/-- A file is written at a place that is no directory, at the end of a path that can be followed. -/
theorem of_write (h : d.write path content = .ok d') : ∃ parent name,
    d.destination path = .ok (.name parent name) ∧ Path.endsInSlash path = false ∧
    name.utf8ByteSize ≤ nameLimit ∧ d.found? (parent ++ [name]) ≠ some .directory ∧
    d' = d.put (parent ++ [name]) (.file content) := by
  rw [write] at h
  obtain ⟨destination, hdestination, h⟩ := exists_of_bind_eq_ok h
  split at h
  next => cases h
  next parent name =>
    split at h
    next => cases h
    next hslash =>
      obtain ⟨found, hlook, h⟩ := exists_of_bind_eq_ok h
      obtain ⟨hshort, hfound⟩ := look_eq_ok_iff.1 hlook
      split at h
      next => cases h
      next hfree =>
        cases h
        refine ⟨parent, name, hdestination, Bool.eq_false_iff.2 hslash, hshort, ?_, rfl⟩
        rw [hfound]
        exact hfree

theorem keeps_of_write (h : d.write path content = .ok d') : d.Keeps d' := by
  obtain ⟨parent, name, -, -, -, hfree, rfl⟩ := of_write h
  exact keeps_put hfree _

/-! ## Reading what was written -/

/-- A text that can be read is that of a file at the end of the path. -/
theorem read_eq_ok_iff : d.read path = .ok content ↔ ∃ parent name,
    d.destination path = .ok (.name parent name) ∧ Path.endsInSlash path = false ∧
    name.utf8ByteSize ≤ nameLimit ∧ d.found? (parent ++ [name]) = some (.file content) := by
  constructor
  · intro h
    rw [read] at h
    obtain ⟨destination, hdestination, h⟩ := exists_of_bind_eq_ok h
    split at h
    next => cases h
    next parent name =>
      obtain ⟨found, hlook, h⟩ := exists_of_bind_eq_ok h
      obtain ⟨hshort, hfound⟩ := look_eq_ok_iff.1 hlook
      split at h
      next => cases h
      next => cases h
      next =>
        split at h
        next => cases h
        next hslash =>
          cases h
          exact ⟨parent, name, hdestination, Bool.eq_false_iff.2 hslash, hshort, hfound⟩
  · rintro ⟨parent, name, hdestination, hslash, hshort, hfound⟩
    have hlook := look_eq_ok_iff.2 ⟨hshort, hfound⟩
    simp only [read, hdestination, hlook, hslash, bind, Except.bind]
    rfl

/-- What is written to a file can be read there. -/
theorem read_of_write (h : d.write path content = .ok d') : d'.read path = .ok content := by
  have hkeeps := keeps_of_write h
  obtain ⟨parent, name, hdestination, hslash, hshort, -, rfl⟩ := of_write h
  refine read_eq_ok_iff.2
    ⟨parent, name, destination_of_keeps hkeeps hdestination, hslash, hshort, ?_⟩
  rw [found?_put, if_pos rfl]

/-! ## Plain paths -/

/-- The path has no name that leads up or nowhere. -/
def Plain (path : String) : Prop := ∀ name ∈ Path.names path, ¬(name = Path.here ∨ name = Path.up)

instance : DecidablePred Plain := fun path =>
  inferInstanceAs (Decidable (∀ name ∈ Path.names path, ¬(name = Path.here ∨ name = Path.up)))

/-- Names that lead neither up nor nowhere lead to the place they spell. -/
theorem eq_append_of_walk {names : List String} {start : Place}
    (hnames : ∀ name ∈ names, ¬(name = Path.here ∨ name = Path.up))
    (h : d.walk start names = .ok place) : place = start ++ names := by
  induction names generalizing start with
  | nil =>
    rw [List.append_nil]
    exact (Except.ok.inj h).symm
  | cons name names ih =>
    obtain ⟨hname, hrest⟩ := List.forall_mem_cons.1 hnames
    obtain ⟨hhere, hup⟩ := not_or.1 hname
    rw [walk, if_neg hhere, if_neg hup] at h
    split at h
    next => cases h
    next => cases h
    next => cases h
    next =>
      rw [ih hrest h, List.append_assoc]
      rfl

/-- A plain path leads to the place that its names say, if it leads to any. -/
theorem eq_names_of_placeOf? (hplain : Plain path) (h : d.placeOf? path = some place) :
    place = Path.names path := by
  obtain ⟨parent, name, hdestination, rfl⟩ := destination_of_placeOf? h
  obtain ⟨names, hnames, hlast, -, hwalk⟩ := destination_eq_name_iff.1 hdestination
  obtain rfl := eq_names_of_followable hnames
  have hparent := eq_append_of_walk (fun n hn => hplain n (List.dropLast_subset _ hn)) hwalk
  rw [hparent, List.nil_append]
  exact List.dropLast_append_getLast? name hlast

/-! ## Changes at the places of some paths -/

/-- Of two disks the second differs from the first by what is written at some paths and by
directories that are made at some others. -/
structure Changed (files directories : List String) (d d' : Disk) : Prop where
  keeps : d.Keeps d'
  only : ∀ place, d'.found? place ≠ d.found? place →
    (∃ path ∈ files, d'.placeOf? path = some place) ∨
      (d.found? place = none ∧ d'.found? place = some .directory ∧
        ∃ path ∈ directories, d'.placeOf? path = some place)

namespace Changed

variable {files files' directories directories' : List String}

theorem refl (d : Disk) : Changed files directories d d where
  keeps _ h := h
  only _ h := absurd rfl h

/-- A disk that changed at some paths changed at no others than more of them. -/
theorem mono (h : Changed files directories d d') (hfiles : files ⊆ files')
    (hdirectories : directories ⊆ directories') : Changed files' directories' d d' where
  keeps := h.keeps
  only place hne := by
    rcases h.only place hne with ⟨path, hpath, hplace⟩ | ⟨hnone, hmade, path, hpath, hplace⟩
    · exact Or.inl ⟨path, hfiles hpath, hplace⟩
    · exact Or.inr ⟨hnone, hmade, path, hdirectories hpath, hplace⟩

/-- What the first of two changes did at a place is still there, or the second changed it.  The
path of the place leads there still. -/
theorem trans (h : Changed files directories d d') (h' : Changed files directories d' d'') :
    Changed files directories d d'' where
  keeps place hplace := h'.keeps place (h.keeps place hplace)
  only place hne := by
    by_cases hlater : d''.found? place = d'.found? place
    · rw [hlater] at hne ⊢
      rcases h.only place hne with ⟨path, hpath, hplace⟩ | ⟨hnone, hmade, path, hpath, hplace⟩
      · exact Or.inl ⟨path, hpath, placeOf?_of_keeps h'.keeps hplace⟩
      · exact Or.inr ⟨hnone, hmade, path, hpath, placeOf?_of_keeps h'.keeps hplace⟩
    · rcases h'.only place hlater with hwritten | ⟨hnone, hmade, path, hpath, hplace⟩
      · exact Or.inl hwritten
      · by_cases hearlier : d'.found? place = d.found? place
        · exact Or.inr ⟨hearlier ▸ hnone, hmade, path, hpath, hplace⟩
        · rcases h.only place hearlier with ⟨path', hpath', hplace'⟩ | ⟨-, hmade', -⟩
          · exact Or.inl ⟨path', hpath', placeOf?_of_keeps h'.keeps hplace'⟩
          · cases hnone.symm.trans hmade'

/-- A file stays as it is if nothing is written to its place. -/
theorem read (h : Changed files directories d d') (hread : d.read path = .ok content)
    (hne : ∀ other ∈ files, d'.placeOf? other ≠ d'.placeOf? path) :
    d'.read path = .ok content := by
  obtain ⟨parent, name, hdestination, hslash, hshort, hfound⟩ := read_eq_ok_iff.1 hread
  have hdestination' := destination_of_keeps h.keeps hdestination
  refine read_eq_ok_iff.2 ⟨parent, name, hdestination', hslash, hshort, ?_⟩
  by_contra hchanged
  rcases h.only (parent ++ [name]) (fun heq => hchanged (heq.trans hfound)) with
    ⟨other, hother, hplace⟩ | ⟨hnone, -⟩
  · exact hne other hother (hplace.trans (placeOf?_of_destination hdestination').symm)
  · cases hnone.symm.trans hfound

theorem eq_of_found?_put_ne {e : Entry} {other : Place}
    (h : (d.put place e).found? other ≠ d.found? other) : other = place := by
  rw [found?_put] at h
  split at h
  next heq => exact heq
  next => exact absurd rfl h

theorem of_makeDir (h : d.makeDir path = .ok d') : Changed [] [path] d d' := by
  obtain ⟨place, hplace, hnone, rfl⟩ := Disk.of_makeDir h
  have hkeeps : d.Keeps (d.put place .directory) := keeps_put (by rw [hnone]; nofun) _
  refine ⟨hkeeps, fun other hne => Or.inr ?_⟩
  obtain rfl := eq_of_found?_put_ne hne
  refine ⟨hnone, ?_, path, List.mem_singleton_self path, placeOf?_of_keeps hkeeps hplace⟩
  rw [found?_put, if_pos rfl]

theorem of_write (h : d.write path content = .ok d') : Changed [path] [] d d' := by
  have hkeeps := keeps_of_write h
  obtain ⟨parent, name, hdestination, -, -, -, rfl⟩ := Disk.of_write h
  refine ⟨hkeeps, fun other hne => Or.inl ?_⟩
  obtain rfl := eq_of_found?_put_ne hne
  exact ⟨path, List.mem_singleton_self path,
    placeOf?_of_destination (destination_of_keeps hkeeps hdestination)⟩

end Changed

end ClassDiagram.Files.Disk
