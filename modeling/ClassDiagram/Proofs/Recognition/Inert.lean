import ClassDiagram.Proofs.Recognition.Opening

/-!
# Cells that can be left out

A drawing holds many cells that say nothing about classes: the labels and heads
of connectors, and texts that lie in no class box.  Such a cell is *inert*.
Whether it is so depends on what comes before it, since a text counts only when
its class box has been met.

At every state that recognition can be in when it gets to an inert cell, the
step over that cell changes nothing and does not fail (`step_inert`).  So any set
of inert cells can be left out (`ofCells_without`).  What aborts a build is a line
of a cell that is not inert, wherever the malformed lines of the drawing are.
-/

namespace ClassDiagram

variable {d : Drawing}

namespace Drawing

/-- After some earlier cells, a cell has no part in any class: it belongs to a
connector, or it is no class box and lies in none of those met so far. -/
def InertAfter (d : Drawing) (earlier : List Cell) (c : Cell) : Prop :=
  d.belongsToConnector c = true ∨
    d.isClassBox c = false ∧ ∀ b ∈ earlier, d.isClassBox b = true → b.id ≠ c.parentId

/-- The drawing has an inert cell under a key. -/
def Inert (d : Drawing) (key : String) : Prop :=
  ∃ before c after, d.cells.toList = before ++ (key, c) :: after ∧
    d.InertAfter (before.map (·.2)) c

/-- The drawing without some of its cells. -/
def without (d : Drawing) (removed : Finset String) : Drawing :=
  { d with cells := d.cells.without removed }

end Drawing

/-- The fault is at a line of a cell. -/
def BuildError.At (e : BuildError) (c : Cell) : Prop :=
  e.cell = c.id ∧ e.parent = c.parentId ∧ e.cause.line ∈ c.lines

namespace Recognition

/-! ## Leaving out cells -/

/-- The step over an inert cell does nothing. -/
theorem step_inert {earlier : List Cell} {r : Recognition} {c : Cell}
    (hrun : ofCells d earlier = .ok r) (h : d.InertAfter earlier c) : step d r c = .ok r := by
  cases h with
  | inl hconnector => rw [step, if_pos hconnector]
  | inr h =>
    obtain ⟨hbox, hparent⟩ := h
    have hslot : r.boxes.get? c.parentId = none := by
      cases hget : r.boxes.get? c.parentId with
      | none => rfl
      | some b =>
        have hkey := OrderedMap.mem_keys_of_get? hget
        rw [keys_ofCells hrun, mem_firsts, List.mem_map] at hkey
        obtain ⟨box, hmem, hid⟩ := hkey
        obtain ⟨hearlier, hisBox⟩ := List.mem_filter.1 hmem
        exact absurd hid (hparent box hearlier hisBox)
    have howner : d.owner c = c.parentId := by
      rw [Drawing.owner, hbox]
      rfl
    rw [step_eq_act, howner, hslot, Drawing.act_none hbox]
    rfl

/-- Cells that are inert where they stand can be left out of a run. -/
theorem ofCells_without {removed : Finset String} {cells : List (String × Cell)}
    (h : ∀ before p after, cells = before ++ p :: after → p.1 ∈ removed →
      d.InertAfter (before.map (·.2)) p.2) :
    ofCells d ((cells.filter fun p => p.1 ∉ removed).map (·.2))
      = ofCells d (cells.map (·.2)) := by
  induction cells using List.reverseRecOn with
  | nil => rfl
  | append_singleton cells p ih =>
    have hcells := ih fun before q after hsplit => h before q (after ++ [p]) (by simp [hsplit])
    rw [List.filter_append, List.map_append, List.map_append, List.map_singleton, ofCells_concat]
    by_cases hp : p.1 ∈ removed
    · have hdropped : [p].filter (fun q => q.1 ∉ removed) = [] := by simp [hp]
      rw [hdropped, List.map_nil, List.append_nil, hcells]
      cases hrun : ofCells d (cells.map (·.2)) with
      | error e => rfl
      | ok r => exact (step_inert hrun (h cells p [] rfl hp)).symm
    · have hkept : [p].filter (fun q => q.1 ∉ removed) = [p] := by simp [hp]
      rw [hkept, List.map_singleton, ofCells_concat, hcells]

/-! ## Where a fault comes from -/

/-- If a map over a list fails, it fails at one of the elements with its error. -/
theorem exists_of_mapM_error {α β ε : Type} {f : α → Except ε β} {l : List α} {e : ε}
    (h : l.mapM f = .error e) : ∃ a ∈ l, f a = .error e := by
  induction l with
  | nil => cases h
  | cons a l ih =>
    rw [List.mapM_cons] at h
    cases ha : f a with
    | error e' =>
      rw [ha] at h
      cases h
      exact ⟨a, List.mem_cons_self, ha⟩
    | ok b =>
      cases hl : l.mapM f with
      | ok s =>
        rw [ha, hl] at h
        cases h
      | error e' =>
        rw [ha, hl] at h
        cases h
        obtain ⟨x, hx, he⟩ := ih hl
        exact ⟨x, List.mem_cons_of_mem _ hx, he⟩

/-- The error of a member line is reported at its cell. -/
theorem at_of_members {c : Cell} {kind : MemberKind} {e : BuildError}
    (h : c.members kind = .error e) : e.At c := by
  obtain ⟨line, hline, hmember⟩ := exists_of_mapM_error h
  rw [Cell.member, Member.ofLine] at hmember
  cases hread : readMember kind line.toList with
  | ok member =>
    rw [hread] at hmember
    cases hmember
  | error fault =>
    rw [hread] at hmember
    cases hmember
    exact ⟨rfl, rfl, hline⟩

theorem at_of_take {b : ClassBox} {c : Cell} {e : BuildError} (h : b.take c = .error e) :
    e.At c := by
  rw [ClassBox.take] at h
  split at h
  next => cases h
  next =>
    cases hmembers : c.members b.memberKind with
    | ok members =>
      rw [hmembers] at h
      cases h
    | error e' =>
      rw [hmembers] at h
      cases h
      exact at_of_members hmembers

theorem at_of_act {c : Cell} {slot : Option ClassBox} {e : BuildError}
    (h : d.act c slot = .error e) : e.At c := by
  rw [Drawing.act.eq_def] at h
  split at h
  next => cases h
  next =>
    split at h
    next => cases h
    next =>
      cases slot with
      | none => cases h
      | some b =>
        cases htake : b.take c with
        | ok result =>
          simp only [htake] at h
          cases h
        | error e' =>
          simp only [htake] at h
          cases h
          exact at_of_take htake

/-- A step fails only at a line of the cell that it takes in. -/
theorem at_of_step {r : Recognition} {c : Cell} {e : BuildError} (h : step d r c = .error e) :
    e.At c := by
  rw [step_eq_act] at h
  cases hact : d.act c (r.boxes.get? (d.owner c)) with
  | ok result =>
    rw [hact] at h
    cases h
  | error e' =>
    rw [hact] at h
    cases h
    exact at_of_act hact

/-- A run that fails does so at the step over one of its cells. -/
theorem exists_step_of_ofCells {cells : List Cell} {e : BuildError}
    (h : ofCells d cells = .error e) :
    ∃ before c after r, cells = before ++ c :: after ∧ ofCells d before = .ok r ∧
      step d r c = .error e := by
  induction cells using List.reverseRecOn with
  | nil => cases h
  | append_singleton cells c ih =>
    rw [ofCells_concat] at h
    cases hcells : ofCells d cells with
    | ok r =>
      rw [hcells] at h
      exact ⟨cells, c, [], r, rfl, hcells, h⟩
    | error e' =>
      rw [hcells] at h
      cases h
      obtain ⟨before, b, after, r, rfl, hbefore, hstep⟩ := ih hcells
      exact ⟨before, b, after ++ [c], r, by simp, hbefore, hstep⟩

end Recognition

/-! ## Leaving cells out of a drawing -/

/-- Two class boxes, a text before its box, a malformed text in no class box and a malformed
label of a connector. -/
def Drawing.withNotes : Drawing :=
  let cells : List Cell :=
    [{ id := "early", parent := some "a", texts := ["+ x: int \x7d"] },
     { id := "a", parent := some "1", style := .ofList [("shape", "umlClass")] },
     { id := "b", parent := some "1", style := .ofList [("shape", "umlClass")] },
     { id := "y", parent := some "a", texts := ["+ y: int"] },
     { id := "note", parent := some "page", texts := ["see \x7bbelow"] },
     { id := "label", parent := some "e", texts := ["uses \x7d"] }]
  { root := "1"
    cells := .ofList (cells.map fun c => (c.id, c))
    connectors := .ofList [("e", { source := "a", target := "b" })] }

namespace Model

/-- A drawing means the same without any of its inert cells, and has the same counts or the
same fault.  A fault names a cell that is not inert, and one of the lines of that cell. -/
theorem ofDrawing_without {removed : Finset String} (h : ∀ key ∈ removed, d.Inert key) :
    ofDrawing (d.without removed) = ofDrawing d ∧
      ∀ e, ofDrawing d = .error e →
        ∃ key c, d.cells.get? key = some c ∧ ¬ d.Inert key ∧ e.At c := by
  constructor
  · have hclasses : (d.without removed).classes = d.classes := by
      refine Recognition.ofCells_without (d := d) fun before p after hsplit hp => ?_
      obtain ⟨before', c, after', hcells, hinert⟩ := h p.1 hp
      obtain ⟨rfl, rfl⟩ := OrderedMap.eq_of_toList_eq hcells hsplit
      exact hinert
    rw [ofDrawing, ofDrawing, hclasses]
    rfl
  · intro e he
    have hrun : Recognition.ofCells d d.cells.values = .error e := by
      rw [ofDrawing, Drawing.classes_eq] at he
      cases hcells : Recognition.ofCells d d.cells.values with
      | ok r =>
        rw [hcells] at he
        cases he
      | error e' =>
        rw [hcells] at he
        cases he
        rfl
    obtain ⟨before, c, after, r, hvalues, hbefore, hstep⟩ :=
      Recognition.exists_step_of_ofCells hrun
    obtain ⟨pairs, rest, hsplit, rfl, hrest⟩ := List.map_eq_append_iff.1 hvalues
    obtain ⟨⟨key, c'⟩, tail, rfl, rfl, -⟩ := List.map_eq_cons_iff.1 hrest
    refine ⟨key, c', ?_, ?_, Recognition.at_of_step hstep⟩
    · refine (OrderedMap.mem_toList_iff d.cells key c').1 ?_
      rw [hsplit]
      exact List.mem_append_right _ List.mem_cons_self
    · intro hinert
      obtain ⟨before', b, after', hcells, hafter⟩ := hinert
      obtain ⟨rfl, rfl⟩ := OrderedMap.eq_of_toList_eq hsplit hcells
      rw [Recognition.step_inert hbefore hafter] at hstep
      cases hstep

/-- A note, a label and a line ahead of its box may all be left out. -/
theorem ofDrawing_without_notes :
    (∀ key ∈ ({"early", "note", "label"} : Finset String), Drawing.withNotes.Inert key) ∧
      ofDrawing (Drawing.withNotes.without {"early", "note", "label"})
        = ofDrawing Drawing.withNotes := by
  have hinert : ∀ key ∈ ({"early", "note", "label"} : Finset String),
      Drawing.withNotes.Inert key := by
    simp only [Finset.mem_insert, Finset.mem_singleton]
    rintro key (rfl | rfl | rfl)
    · exact ⟨[], _, _, rfl, Or.inr ⟨by decide, by decide⟩⟩
    · exact ⟨[_, _, _, _], _, _, rfl, Or.inr ⟨by decide, by decide⟩⟩
    · exact ⟨[_, _, _, _, _], _, _, rfl, Or.inl (by decide)⟩
  exact ⟨hinert, (ofDrawing_without hinert).1⟩

end Model

end ClassDiagram
