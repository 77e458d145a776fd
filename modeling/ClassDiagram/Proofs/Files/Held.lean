import ClassDiagram.Proofs.Files.System

/-!
# What files hold

Files are *apart* when what is written to one of them can be read there and leaves what
is in the others.  Whether they are depends on the file system and on the paths.  In a
cabinet all paths are apart.  On a disk two paths can lead to one place; plain paths with
different names do not (`Disk.apart_fileSystem`).
-/

namespace ClassDiagram.Files

variable {σ : Type} {fs : FileSystem (StateM σ)}

namespace FileSystem

/-- The file at a path holds a text. -/
def Holds (fs : FileSystem (StateM σ)) (s : σ) (path content : String) : Prop :=
  (fs.read path s).1 = .ok content

/-- A file holds one text. -/
theorem Holds.unique {s : σ} {path content content' : String} (h : fs.Holds s path content)
    (h' : fs.Holds s path content') : content = content' :=
  Except.ok.inj (h.symm.trans h')

/-- Some paths name files of their own: what is written at one of them can be read there, and
what is at the others stays. -/
structure Apart (fs : FileSystem (StateM σ)) (paths : List String) : Prop where
  written : ∀ path ∈ paths, ∀ content s s', fs.write path content s = (none, s') →
    fs.Holds s' path content
  others : ∀ path ∈ paths, ∀ other ∈ paths, other ≠ path → ∀ content s s',
    fs.write path content s = (none, s') → ∀ held, fs.Holds s other held → fs.Holds s' other held

/-- A file system that refuses nothing, with a file of its own to each path. -/
def cabinet : FileSystem (StateM (OrderedMap String String)) where
  makeDir := fun _ => pure none
  isDir := fun _ => pure true
  write := fun path content s => (none, s.insert path content)
  read := fun path s => ((s.get? path).elim (.error .missing) .ok, s)

/-- A path of the cabinet holds what was put under it. -/
theorem holds_cabinet_iff {s : OrderedMap String String} {path content : String} :
    cabinet.Holds s path content ↔ s.get? path = some content := by
  show (s.get? path).elim (.error Fault.missing) .ok = Except.ok content ↔ _
  cases s.get? path with
  | none => exact ⟨nofun, nofun⟩
  | some held =>
    show Except.ok held = .ok content ↔ some held = some content
    rw [Except.ok.injEq, Option.some.injEq]

/-- In a cabinet every path has a file of its own. -/
theorem apart_cabinet (paths : List String) : cabinet.Apart paths where
  written path _ content s s' h := by
    cases h
    rw [holds_cabinet_iff, OrderedMap.get?_insert, if_pos rfl]
  others path _ other _ hne content s s' h held hheld := by
    cases h
    rw [holds_cabinet_iff] at hheld ⊢
    rw [OrderedMap.get?_insert, if_neg hne]
    exact hheld

end FileSystem

/-- On a disk plain paths are apart if no two of them have the same names. -/
theorem Disk.apart_fileSystem {paths : List String} (plain : ∀ path ∈ paths, Plain path)
    (names : ∀ path ∈ paths, ∀ other ∈ paths, Path.names other = Path.names path → other = path) :
    fileSystem.Apart paths where
  written path _ content _ _ h := read_of_write (of_change_none (·.write path content) h)
  others path hpath other hother hne content d _ h held hheld := by
    have hwrite := of_change_none (·.write path content) h
    obtain ⟨parent, name, hdestination, -⟩ := of_write hwrite
    have hplace := placeOf?_of_keeps (keeps_of_write hwrite) (placeOf?_of_destination hdestination)
    refine (Changed.of_write hwrite).read hheld fun written hwritten heq => hne ?_
    obtain rfl := List.mem_singleton.1 hwritten
    refine names written hpath other hother ?_
    rw [← eq_names_of_placeOf? (plain written hpath) hplace,
      ← eq_names_of_placeOf? (plain other hother) (heq.symm.trans hplace)]

end ClassDiagram.Files
