import Mathlib.Data.List.Induction
import ClassDiagram.Model.OfDrawing
import ClassDiagram.Proofs.OrderedMap

/-!
# A cell speaks to one class box

Recognition keeps one map of class boxes and one summary for all classes, but a
cell reads and writes the place of one class box only.  That is its *owner*: a
class box owns itself, and every other cell is owned by the cell that it lies
in.

`Drawing.act` is what a cell makes of that one place, which may be empty, with
what it adds to the summary.  `step_eq_act` says that a step of recognition is
that and nothing else.  What happens when two cells change places follows from
it, and so do the four ways in which a step can succeed (`Taken`).  `run_induction`
carries a property from one step to every run.
-/

namespace ClassDiagram

/-! ## Summaries add up -/

namespace BuildSummary

instance : Add BuildSummary where
  add s t :=
    { classes := s.classes + t.classes
      properties := s.properties + t.properties
      methods := s.methods + t.methods
      linked := s.linked + t.linked
      ignored := s.ignored + t.ignored
      skipped := s.skipped + t.skipped }

theorem add_def (s t : BuildSummary) : s + t =
    { classes := s.classes + t.classes
      properties := s.properties + t.properties
      methods := s.methods + t.methods
      linked := s.linked + t.linked
      ignored := s.ignored + t.ignored
      skipped := s.skipped + t.skipped } := rfl

@[simp] theorem classes_add (s t : BuildSummary) : (s + t).classes = s.classes + t.classes := rfl

@[simp] theorem properties_add (s t : BuildSummary) :
    (s + t).properties = s.properties + t.properties := rfl

@[simp] theorem methods_add (s t : BuildSummary) : (s + t).methods = s.methods + t.methods := rfl

@[simp] theorem add_empty (s : BuildSummary) : s + {} = s := rfl

theorem add_assoc (s t u : BuildSummary) : s + t + u = s + (t + u) := by
  simp only [add_def, Nat.add_assoc]

theorem add_right_comm (s t u : BuildSummary) : s + t + u = s + u + t := by
  simp only [add_def, Nat.add_right_comm]

/-- The summary of some members. -/
def ofMembers (members : List Member) : BuildSummary := members.foldl countMember {}

/-- Counting members adds their summary. -/
theorem foldl_countMember (members : List Member) (s : BuildSummary) :
    members.foldl countMember s = s + ofMembers members := by
  induction members generalizing s with
  | nil => rfl
  | cons member rest ih =>
    have hone : s.countMember member = s + BuildSummary.countMember {} member := by
      cases member <;> rfl
    have hrest : ofMembers (member :: rest) = BuildSummary.countMember {} member + ofMembers rest :=
      ih _
    rw [List.foldl_cons, ih, hone, hrest, add_assoc]

theorem ofMembers_cons (member : Member) (rest : List Member) :
    ofMembers (member :: rest) = BuildSummary.countMember {} member + ofMembers rest :=
  foldl_countMember rest _

end BuildSummary

/-! ## What a cell does to a class box -/

/-- The member of a sort that a line of a cell stands for. -/
def Cell.member (c : Cell) (kind : MemberKind) (line : String) : Except BuildError Member :=
  (Member.ofLine kind line).mapError (⟨c.id, c.parentId, ·⟩)

/-- The members of a sort that the lines of a cell stand for. -/
def Cell.members (c : Cell) (kind : MemberKind) : Except BuildError (List Member) :=
  c.lines.mapM (c.member kind)

/-- The class box after a cell inside it, and the members that the cell brings. -/
def ClassBox.take (b : ClassBox) (c : Cell) : Except BuildError (ClassBox × List Member) :=
  if c.isDivider then .ok (b.divide, [])
  else (c.members b.memberKind).map fun members => (members.foldl ClassBox.add b, members)

@[simp] theorem ClassBox.inMethods_add (b : ClassBox) (member : Member) :
    (b.add member).inMethods = b.inMethods := by
  cases member <;> rfl

@[simp] theorem ClassBox.next_add (b : ClassBox) (member : Member) :
    (b.add member).next = b.next + 1 := by
  cases member <;> rfl

theorem ClassBox.memberKind_add (b : ClassBox) (member : Member) :
    (b.add member).memberKind = b.memberKind := by
  rw [memberKind, inMethods_add, memberKind]

/-- A line gives a member of the kind that the box is at, which is added and counted. -/
theorem Recognition.addLine_eq (c : Cell) (b : ClassBox) (s : BuildSummary) (line : String) :
    addLine c (b, s) line = (c.member b.memberKind line).map fun member =>
      (b.add member, s.countMember member) := by
  rw [addLine, Cell.member]
  cases Member.ofLine b.memberKind line <;> rfl

/-- The lines of a cell are taken in all together: the sort of member does not change
on the way. -/
theorem Recognition.foldlM_addLine (c : Cell) (b : ClassBox) (s : BuildSummary) :
    c.lines.foldlM (addLine c) (b, s) = (c.members b.memberKind).map fun members =>
      (members.foldl ClassBox.add b, s + .ofMembers members) := by
  simp only [Cell.members, ← BuildSummary.foldl_countMember]
  induction c.lines generalizing b s with
  | nil => rfl
  | cons line rest ih =>
    rw [List.foldlM_cons, List.mapM_cons, addLine_eq]
    cases c.member b.memberKind line with
    | error e => rfl
    | ok member =>
      have hrest := ih (b.add member) (s.countMember member)
      rw [ClassBox.memberKind_add] at hrest
      refine hrest.trans ?_
      cases rest.mapM (c.member b.memberKind) <;> rfl

namespace Drawing

/-- The class box that a cell speaks to. -/
def owner (d : Drawing) (c : Cell) : String := if d.isClassBox c then c.id else c.parentId

/-- The cell lies in a class box or might do so: it is no class box itself, and no part
of a connector. -/
def isPart (d : Drawing) (c : Cell) : Bool := !d.belongsToConnector c && !d.isClassBox c

/-- What a cell makes of the class box that it speaks to, if that is there, and what it
adds to the summary. -/
def act (d : Drawing) (c : Cell) (slot : Option ClassBox) :
    Except BuildError (Option ClassBox × BuildSummary) :=
  if d.belongsToConnector c then .ok (slot, {})
  else if d.isClassBox c then .ok (some { entity := .ofCell c }, { classes := 1 })
  else
    match slot with
    | none => .ok (none, {})
    | some b => (b.take c).map fun (b, members) => (some b, .ofMembers members)

/-- A cell that is no class box does not make one. -/
theorem act_none {d : Drawing} {c : Cell} (h : d.isClassBox c = false) :
    d.act c none = .ok (none, {}) := by
  rw [act, h]
  split <;> rfl

end Drawing

/-! ## A step of recognition -/

/-- A cell of a connector is no class box. -/
theorem Drawing.isClassBox_eq_false_of_belongsToConnector {d : Drawing} {c : Cell}
    (h : d.belongsToConnector c = true) : d.isClassBox c = false := by
  rw [isClassBox, h]
  rfl

/-- A step reads the place of the owner of the cell and writes to it, and does nothing
else but count. -/
theorem Recognition.step_eq_act (d : Drawing) (r : Recognition) (c : Cell) :
    step d r c = (d.act c (r.boxes.get? (d.owner c))).map fun (slot, gain) =>
      { boxes := r.boxes.put (d.owner c) slot, summary := r.summary + gain } := by
  by_cases hconnector : d.belongsToConnector c = true
  · rw [step, Drawing.act.eq_def, if_pos hconnector, if_pos hconnector]
    simp only [Except.map, OrderedMap.put_get?, BuildSummary.add_empty]
  · by_cases hbox : d.isClassBox c = true
    · rw [step, Drawing.act.eq_def, if_neg hconnector, if_neg hconnector, if_pos hbox, if_pos hbox,
        Drawing.owner, if_pos hbox]
      rfl
    · rw [step, Drawing.act.eq_def, if_neg hconnector, if_neg hconnector, if_neg hbox, if_neg hbox,
        Drawing.owner, if_neg hbox]
      cases hslot : r.boxes.get? c.parentId with
      | none => rfl
      | some b =>
        by_cases hdivider : c.isDivider = true
        · simp only [ClassBox.take, if_pos hdivider]
          rfl
        · simp only [ClassBox.take, if_neg hdivider, foldlM_addLine]
          cases c.members b.memberKind <;> rfl

/-- The ways in which a step succeeds. -/
inductive Recognition.Taken (d : Drawing) (r : Recognition) (c : Cell) : Recognition → Prop
  /-- A part of a connector is passed over. -/
  | connector (hconnector : d.belongsToConnector c = true) : Taken d r c r
  /-- A class box starts afresh. -/
  | box (hbox : d.isClassBox c = true) :
      Taken d r c
        { boxes := r.boxes.insert c.id { entity := .ofCell c }
          summary := r.summary + { classes := 1 } }
  /-- A cell in no class box met so far is passed over. -/
  | stray (hpart : d.isPart c = true) (hslot : r.boxes.get? c.parentId = none) : Taken d r c r
  /-- A cell in a class box is taken into it. -/
  | part (hpart : d.isPart c = true) {b b' : ClassBox} {members : List Member}
      (hslot : r.boxes.get? c.parentId = some b) (htake : b.take c = .ok (b', members)) :
      Taken d r c
        { boxes := r.boxes.insert c.parentId b', summary := r.summary + .ofMembers members }

/-- A step that succeeds is one of the ways to take a cell. -/
theorem Recognition.taken_of_step {d : Drawing} {r r' : Recognition} {c : Cell}
    (h : step d r c = .ok r') : Taken d r c r' := by
  rw [step_eq_act] at h
  by_cases hconnector : d.belongsToConnector c = true
  · rw [Drawing.act.eq_def, if_pos hconnector] at h
    simp only [Except.map, OrderedMap.put_get?, BuildSummary.add_empty] at h
    cases h
    exact .connector hconnector
  · by_cases hbox : d.isClassBox c = true
    · rw [Drawing.act.eq_def, if_neg hconnector, if_pos hbox, Drawing.owner, if_pos hbox] at h
      cases h
      exact .box hbox
    · have hpart : d.isPart c = true := by
        rw [Drawing.isPart, Bool.eq_false_of_not_eq_true hconnector,
          Bool.eq_false_of_not_eq_true hbox]
        rfl
      rw [Drawing.act.eq_def, if_neg hconnector, if_neg hbox, Drawing.owner, if_neg hbox] at h
      cases hslot : r.boxes.get? c.parentId with
      | none =>
        rw [hslot] at h
        cases h
        exact .stray hpart hslot
      | some b =>
        rw [hslot] at h
        cases htake : b.take c with
        | error e =>
          simp only [htake, Except.map] at h
          cases h
        | ok result =>
          simp only [htake, Except.map] at h
          cases h
          exact .part hpart hslot htake

/-! ## Runs -/

/-- What is recognised in some cells of a drawing. -/
def Recognition.ofCells (d : Drawing) (cells : List Cell) : Except BuildError Recognition :=
  cells.foldlM (step d) {}

theorem Drawing.classes_eq (d : Drawing) :
    d.classes = Recognition.ofCells d d.cells.values := rfl

/-- The last cell is taken after all others. -/
theorem Recognition.ofCells_concat (d : Drawing) (cells : List Cell) (c : Cell) :
    ofCells d (cells ++ [c]) = ofCells d cells >>= fun r => step d r c := by
  rw [ofCells, List.foldlM_append]
  refine congrArg _ (funext fun r => ?_)
  rw [List.foldlM_cons]
  exact bind_pure _

/-- A property of what is recognised that holds at the start and is kept by every cell
holds after every run. -/
theorem Recognition.run_induction {d : Drawing} {P : List Cell → Recognition → Prop}
    (start : P [] {})
    (take : ∀ cells r c r', ofCells d cells = .ok r → P cells r → Taken d r c r' →
      P (cells ++ [c]) r')
    {cells : List Cell} {r : Recognition} (h : ofCells d cells = .ok r) : P cells r := by
  induction cells using List.reverseRecOn generalizing r with
  | nil =>
    cases h
    exact start
  | append_singleton cells c ih =>
    rw [ofCells_concat] at h
    cases hcells : ofCells d cells with
    | error e =>
      rw [hcells] at h
      cases h
    | ok q =>
      rw [hcells] at h
      exact take cells q c r hcells (ih hcells) (taken_of_step h)

end ClassDiagram
