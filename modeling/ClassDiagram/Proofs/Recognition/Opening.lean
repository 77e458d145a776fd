import Mathlib.Data.List.TakeWhile
import ClassDiagram.Distinct
import ClassDiagram.Proofs.Recognition.ClassBox

/-!
# What has been put into a class box

A class box that comes again starts afresh, so what counts for a class is its
last *opening*: the last class box with its id, and the cells put into that box
since.  `Drawing.opening?` reads it off the cells of a drawing.

`Opening.Yields` says what becomes of an opening.  The properties are the lines
of the cells up to the first divider, in order.  The methods come from the cells
after it, and the lines between two dividers are a *run* that starts again at
number zero, so that a box has as many methods as its longest run has lines.

`yields_of_ofCells` is the invariant of recognition: after every run, each box is
what its opening yields, and there are no other boxes.
-/

namespace ClassDiagram

/-! ## Openings -/

/-- A class box and the cells put into it since. -/
structure Opening where
  /-- The class box. -/
  box : Cell
  /-- The cells put into it, in order. -/
  parts : List Cell := []

namespace Opening

/-- The opening with one more cell. -/
def add (o : Opening) (c : Cell) : Opening := { o with parts := o.parts ++ [c] }

/-- A divider has been put into the class box. -/
def divided (o : Opening) : Bool := o.parts.any (·.isDivider)

/-- The lines of the cells up to the first divider. -/
def propertyLines (o : Opening) : List String :=
  (o.parts.takeWhile (!·.isDivider)).flatMap (·.lines)

/-- The cells after the first divider, without dividers. -/
def methodCells (o : Opening) : List Cell :=
  (o.parts.dropWhile (!·.isDivider)).filter (!·.isDivider)

/-- The lines of the cells after the first divider. -/
def methodLines (o : Opening) : List String := o.methodCells.flatMap (·.lines)

/-- Runs of lines, the last one first, after one more cell. -/
def addToRuns (runs : List (List String)) (c : Cell) : List (List String) :=
  if c.isDivider then [] :: runs
  else
    match runs with
    | [] => []
    | run :: earlier => (run ++ c.lines) :: earlier

/-- The lines after each divider up to the next one, those after the last divider first. -/
def methodRuns (o : Opening) : List (List String) := o.parts.foldl addToRuns []

/-- The number of lines of the longest run. -/
def longestRun (o : Opening) : Nat := (o.methodRuns.map (·.length)).foldr max 0

end Opening

namespace Drawing

/-- The cell opens the class box of an id. -/
def opens (d : Drawing) (id : String) (c : Cell) : Bool := d.isClassBox c && c.id == id

/-- The cell lies in the class box of an id, if there is one. -/
def isPartOf (d : Drawing) (id : String) (c : Cell) : Bool := d.isPart c && c.parentId == id

/-- What a cell makes of the opening of an id. -/
def reopen (d : Drawing) (id : String) (o : Option Opening) (c : Cell) : Option Opening :=
  if d.opens id c then some { box := c }
  else if d.isPartOf id c then o.map (·.add c)
  else o

/-- The last opening of the class box of an id in some cells. -/
def opening? (d : Drawing) (id : String) (cells : List Cell) : Option Opening :=
  cells.foldl (d.reopen id) none

end Drawing

/-! ## One more cell -/

namespace Opening

variable {o : Opening} {c : Cell}

@[simp] theorem parts_add : (o.add c).parts = o.parts ++ [c] := rfl

@[simp] theorem box_add : (o.add c).box = o.box := rfl

@[simp] theorem divided_add : (o.add c).divided = (o.divided || c.isDivider) := by
  simp [divided]

theorem not_isDivider_of_not_divided (h : o.divided = false) :
    ∀ x ∈ o.parts, (!x.isDivider) = true := by
  simpa [divided] using h

/-- The lines of a cell are property lines until there is a divider. -/
theorem propertyLines_add : (o.add c).propertyLines =
    if o.divided || c.isDivider then o.propertyLines else o.propertyLines ++ c.lines := by
  rw [propertyLines, parts_add, propertyLines]
  cases hdivided : o.divided with
  | false =>
    have hall := not_isDivider_of_not_divided hdivided
    rw [List.takeWhile_append_of_pos hall, List.takeWhile_eq_self_iff.2 hall]
    cases hc : c.isDivider <;> simp [hc]
  | true =>
    have hlength : (o.parts.takeWhile (!·.isDivider)).length ≠ o.parts.length := by
      intro h
      have hself := (List.takeWhile_prefix _).eq_of_length h
      have hall := List.takeWhile_eq_self_iff.1 hself
      simp [divided] at hdivided
      obtain ⟨x, hx, hdivider⟩ := hdivided
      simpa [hdivider] using hall x hx
    rw [List.takeWhile_append, if_neg hlength]
    rfl

/-- The lines of a cell after a divider are method lines. -/
theorem methodLines_add : (o.add c).methodLines =
    if o.divided && !c.isDivider then o.methodLines ++ c.lines else o.methodLines := by
  rw [methodLines, methodCells, parts_add, methodLines, methodCells]
  cases hdivided : o.divided with
  | false =>
    have hall := not_isDivider_of_not_divided hdivided
    rw [List.dropWhile_append_of_pos hall, List.dropWhile_eq_nil_iff.2 hall]
    cases hc : c.isDivider <;> simp [hc]
  | true =>
    have hrest : (o.parts.dropWhile (!·.isDivider)).isEmpty = false := by
      rw [List.isEmpty_eq_false_iff, Ne, List.dropWhile_eq_nil_iff]
      intro hall
      simp [divided] at hdivided
      obtain ⟨x, hx, hdivider⟩ := hdivided
      simpa [hdivider] using hall x hx
    rw [List.dropWhile_append, hrest, if_neg Bool.false_ne_true]
    cases hc : c.isDivider <;> simp [hc]

/-- A divider begins a new run of methods. -/
theorem addToRuns_divider (runs : List (List String)) (h : c.isDivider = true) :
    addToRuns runs c = [] :: runs :=
  if_pos h

theorem addToRuns_nil (h : c.isDivider = false) : addToRuns [] c = [] := by
  simp [addToRuns, h]

theorem addToRuns_cons (run : List String) (earlier : List (List String))
    (h : c.isDivider = false) : addToRuns (run :: earlier) c = (run ++ c.lines) :: earlier := by
  simp [addToRuns, h]

theorem methodRuns_add : (o.add c).methodRuns = addToRuns o.methodRuns c := by
  rw [methodRuns, parts_add, List.foldl_append]
  rfl

/-- There are runs as soon as there is a divider. -/
theorem isEmpty_foldl_addToRuns (cells : List Cell) (runs : List (List String)) :
    (cells.foldl addToRuns runs).isEmpty = (runs.isEmpty && !cells.any (·.isDivider)) := by
  induction cells generalizing runs with
  | nil => simp
  | cons c cells ih =>
    rw [List.foldl_cons, ih]
    cases hc : c.isDivider with
    | true => simp [addToRuns_divider runs hc, hc]
    | false =>
      cases runs with
      | nil => simp [addToRuns_nil hc, hc]
      | cons run earlier => simp [addToRuns_cons run earlier hc]

/-- There are runs of methods once there has been a divider. -/
theorem isEmpty_methodRuns (o : Opening) : o.methodRuns.isEmpty = !o.divided := by
  rw [methodRuns, isEmpty_foldl_addToRuns]
  rfl

/-! ## What an opening yields -/

/-- A class box is what an opening of it yields. -/
structure Yields (o : Opening) (b : ClassBox) : Prop where
  numbered : b.Numbered
  inMethods : b.inMethods = o.divided
  /-- The class is the one that the box stands for, apart from its members. -/
  entity : b.entity = { Entity.ofCell o.box with
    properties := b.entity.properties, methods := b.entity.methods }
  properties : List.Forall₂ (fun line p => Property.ofLine line = .ok p) o.propertyLines
    b.entity.properties.values
  methods : ∀ m ∈ b.entity.methods.values, ∃ line ∈ o.methodLines, Method.ofLine line = .ok m
  /-- The next number counts the lines of the run at hand. -/
  next_method : ∀ run earlier, o.methodRuns = run :: earlier → b.next = run.length
  size_methods : b.entity.methods.size = o.longestRun

/-- An opening without parts yields the class box of its cell. -/
theorem yields_ofCell (c : Cell) : Yields { box := c } { entity := .ofCell c } := by
  obtain ⟨hproperties, hmethods⟩ := Entity.members_ofCell c
  refine ⟨ClassBox.numbered_ofCell c, rfl, rfl, ?_, ?_, nofun, ?_⟩
  · rw [hproperties]
    exact .nil
  · intro m hm
    rw [hmethods] at hm
    cases hm
  · rw [hmethods]
    rfl

variable {b b' : ClassBox} {members : List Member}

/-- A divider starts a run and counts from zero again. -/
theorem Yields.divide (h : o.Yields b) (hc : c.isDivider = true) : (o.add c).Yields b.divide := by
  refine ⟨h.numbered.divide, ?_, h.entity, ?_, ?_, ?_, ?_⟩
  · rw [divided_add, hc, Bool.or_true]
    rfl
  · rw [propertyLines_add, hc, Bool.or_true]
    exact h.properties
  · rw [methodLines_add, hc, Bool.not_true, Bool.and_false]
    exact h.methods
  · intro run earlier hruns
    rw [methodRuns_add, addToRuns_divider _ hc] at hruns
    cases hruns
    rfl
  · rw [longestRun, methodRuns_add, addToRuns_divider _ hc]
    exact h.size_methods.trans (Nat.max_eq_right (Nat.zero_le _)).symm

theorem methodRuns_eq_nil (h : o.divided = false) : o.methodRuns = [] := by
  rw [← List.isEmpty_iff, isEmpty_methodRuns, h]
  rfl

theorem exists_methodRuns_eq_cons (h : o.divided = true) :
    ∃ run earlier, o.methodRuns = run :: earlier := by
  cases hruns : o.methodRuns with
  | nil =>
    have hempty := isEmpty_methodRuns o
    rw [hruns, h] at hempty
    cases hempty
  | cons run earlier => exact ⟨run, earlier, rfl⟩

/-- Before the first divider the lines of a cell become properties. -/
theorem Yields.addProperties (h : o.Yields b) (hc : c.isDivider = false)
    (hregion : b.inMethods = false) {ps : List Property}
    (hlines : List.Forall₂ (fun line p => Property.ofLine line = .ok p) c.lines ps)
    (hb : (ps.map Member.property).foldl ClassBox.add b = b') : (o.add c).Yields b' := by
  have hdivided : o.divided = false := h.inMethods ▸ hregion
  have hruns : (o.add c).methodRuns = [] := by
    rw [methodRuns_add, methodRuns_eq_nil hdivided, addToRuns_nil hc]
  obtain ⟨hnumbered, hregion', hvalues, hentity⟩ :=
    ClassBox.add_properties h.numbered hregion ps hb
  have hmethods : b'.entity.methods = b.entity.methods := by rw [hentity]
  refine ⟨hnumbered, ?_, ?_, ?_, ?_, ?_, ?_⟩
  · rw [hregion', divided_add, hdivided, hc]
    rfl
  · rw [hentity, box_add, h.entity]
  · rw [propertyLines_add, hdivided, hc, hvalues]
    exact List.rel_append h.properties hlines
  · rw [hmethods, methodLines_add, hdivided]
    exact h.methods
  · intro run earlier hcons
    rw [hruns] at hcons
    cases hcons
  · rw [hmethods, h.size_methods, longestRun, longestRun, hruns, methodRuns_eq_nil hdivided]

/-- After a divider the lines of a cell become methods. -/
theorem Yields.addMethods (h : o.Yields b) (hc : c.isDivider = false)
    (hregion : b.inMethods = true) {ms : List Method}
    (hlines : List.Forall₂ (fun line m => Method.ofLine line = .ok m) c.lines ms)
    (hb : (ms.map Member.method).foldl ClassBox.add b = b') : (o.add c).Yields b' := by
  have hdivided : o.divided = true := h.inMethods ▸ hregion
  obtain ⟨run, earlier, hruns⟩ := exists_methodRuns_eq_cons hdivided
  have hruns' : (o.add c).methodRuns = (run ++ c.lines) :: earlier := by
    rw [methodRuns_add, hruns, addToRuns_cons _ _ hc]
  have hrun := h.next_method run earlier hruns
  have hlength : ms.length = c.lines.length := hlines.length_eq.symm
  obtain ⟨hnumbered, hregion', hnext, hsize, hvalues, hentity⟩ :=
    ClassBox.add_methods h.numbered hregion ms hb
  refine ⟨hnumbered, ?_, ?_, ?_, ?_, ?_, ?_⟩
  · rw [hregion', divided_add, hdivided]
    rfl
  · rw [hentity, box_add, h.entity]
  · rw [propertyLines_add, hdivided, hentity]
    exact h.properties
  · rw [methodLines_add, hdivided, hc]
    intro m hm
    cases hvalues m hm with
    | inl hold =>
      obtain ⟨line, hline, hm'⟩ := h.methods m hold
      exact ⟨line, List.mem_append_left _ hline, hm'⟩
    | inr hnew =>
      obtain ⟨line, hline, hm'⟩ := exists_of_forall₂_right hlines m hnew
      exact ⟨line, List.mem_append_right _ hline, hm'⟩
  · intro run' earlier' hcons
    rw [hruns'] at hcons
    cases hcons
    rw [hnext, hrun, hlength, List.length_append]
  · have hlongest := h.size_methods
    rw [longestRun, hruns, List.map_cons, List.foldr_cons] at hlongest
    rw [hsize, hlongest, hrun, hlength, longestRun, hruns', List.map_cons, List.foldr_cons,
      List.length_append]
    omega

/-- A cell that is put into a class box keeps the box what its opening yields. -/
theorem Yields.take (h : o.Yields b) (htake : b.take c = .ok (b', members)) :
    (o.add c).Yields b' := by
  rcases ClassBox.take_cases htake with ⟨hc, rfl, -⟩ | ⟨hc, hregion, ps, rfl, hb, hlines⟩ |
    ⟨hc, hregion, ms, rfl, hb, hlines⟩
  · exact h.divide hc
  · exact h.addProperties hc hregion hlines hb
  · exact h.addMethods hc hregion hlines hb

end Opening

/-! ## Openings along a run -/

namespace Drawing

variable {d : Drawing} {c : Cell}

theorem isPart_iff : d.isPart c = true ↔
    d.belongsToConnector c = false ∧ d.isClassBox c = false := by
  simp [isPart]

theorem reopen_of_belongsToConnector (h : d.belongsToConnector c = true) (id : String)
    (o : Option Opening) : d.reopen id o c = o := by
  simp [reopen, opens, isPartOf, isPart, isClassBox_eq_false_of_belongsToConnector h, h]

/-- A class box opens its id again. -/
theorem reopen_of_isClassBox (h : d.isClassBox c = true) (id : String) (o : Option Opening) :
    d.reopen id o c = if id = c.id then some { box := c } else o := by
  simp [reopen, opens, isPartOf, isPart, h, eq_comm (a := id)]

/-- A part is added to the opening of its parent. -/
theorem reopen_of_isPart (h : d.isPart c = true) (id : String) (o : Option Opening) :
    d.reopen id o c = if id = c.parentId then o.map (·.add c) else o := by
  simp [reopen, opens, isPartOf, h, (isPart_iff.1 h).2, eq_comm (a := id)]

theorem opening?_concat (id : String) (cells : List Cell) (c : Cell) :
    d.opening? id (cells ++ [c]) = d.reopen id (d.opening? id cells) c := by
  rw [opening?, List.foldl_append]
  rfl

/-- The last opening of an id divides the cells: after its box no cell opens the id again, and the
parts are the later cells in it. -/
theorem split_of_opening? {id : String} {cells : List Cell} {o : Opening}
    (h : d.opening? id cells = some o) :
    ∃ before after, cells = before ++ o.box :: after ∧ d.opens id o.box = true ∧
      (∀ c ∈ after, d.opens id c = false) ∧ o.parts = after.filter (d.isPartOf id) := by
  induction cells using List.reverseRecOn generalizing o with
  | nil => cases h
  | append_singleton cells c ih =>
    rw [opening?_concat, reopen] at h
    by_cases hopens : d.opens id c = true
    · rw [if_pos hopens] at h
      cases h
      exact ⟨cells, [], rfl, hopens, nofun, rfl⟩
    · have hopens := Bool.eq_false_of_not_eq_true hopens
      rw [hopens, if_neg Bool.false_ne_true] at h
      have hafter : ∀ {after : List Cell}, (∀ x ∈ after, d.opens id x = false) →
          ∀ x ∈ after ++ [c], d.opens id x = false := by
        intro after hafter x hx
        cases List.mem_append.1 hx with
        | inl hx => exact hafter x hx
        | inr hx => exact List.mem_singleton.1 hx ▸ hopens
      by_cases hpart : d.isPartOf id c = true
      · rw [if_pos hpart] at h
        obtain ⟨q, hq, rfl⟩ := Option.map_eq_some_iff.1 h
        obtain ⟨before, after, rfl, hbox, hlater, hparts⟩ := ih hq
        refine ⟨before, after ++ [c], ?_, hbox, hafter hlater, ?_⟩
        · rw [Opening.box_add, List.append_assoc, List.cons_append]
        · rw [Opening.parts_add, hparts, List.filter_append, List.filter_singleton, hpart]
          rfl
      · rw [if_neg hpart] at h
        obtain ⟨before, after, rfl, hbox, hlater, hparts⟩ := ih h
        refine ⟨before, after ++ [c], ?_, hbox, hafter hlater, ?_⟩
        · rw [List.append_assoc, List.cons_append]
        · rw [hparts, List.filter_append, List.filter_singleton,
            Bool.eq_false_of_not_eq_true hpart]
          exact (List.append_nil _).symm

end Drawing

namespace Recognition

variable {d : Drawing} {r : Recognition} {cells : List Cell}

/-- After every run each class box is what its opening yields, and there are no others. -/
theorem yields_of_ofCells (h : ofCells d cells = .ok r) (id : String) :
    Option.Rel Opening.Yields (d.opening? id cells) (r.boxes.get? id) := by
  refine run_induction (P := fun cells r => ∀ id,
    Option.Rel Opening.Yields (d.opening? id cells) (r.boxes.get? id)) ?_ ?_ h id
  · intro id
    exact .none
  · intro cells r c r' _ ih htaken id
    rw [Drawing.opening?_concat]
    cases htaken with
    | connector hconnector =>
      rw [Drawing.reopen_of_belongsToConnector hconnector]
      exact ih id
    | box hbox =>
      rw [Drawing.reopen_of_isClassBox hbox, OrderedMap.get?_insert]
      split
      next => exact .some (Opening.yields_ofCell c)
      next => exact ih id
    | stray hpart hslot =>
      rw [Drawing.reopen_of_isPart hpart]
      split
      next hid =>
        have := ih id
        rw [hid, hslot] at this ⊢
        cases hopening : d.opening? c.parentId cells with
        | none => exact .none
        | some o =>
          rw [hopening] at this
          cases this
      next => exact ih id
    | part hpart hslot htake =>
      rw [Drawing.reopen_of_isPart hpart, OrderedMap.get?_insert]
      split
      next hid =>
        have := ih id
        rw [hid, hslot] at this
        rw [hid]
        cases hopening : d.opening? c.parentId cells with
        | none =>
          rw [hopening] at this
          cases this
        | some o =>
          rw [hopening] at this
          cases this with
          | some hyields => exact .some (hyields.take htake)
      next => exact ih id

/-- Every class box that is recognised was opened, and the last opening yields it. -/
theorem exists_opening {id : String} {b : ClassBox} (h : ofCells d cells = .ok r)
    (hb : r.boxes.get? id = some b) : ∃ o, d.opening? id cells = some o ∧ o.Yields b := by
  have hrel := yields_of_ofCells h id
  rw [hb] at hrel
  cases hopening : d.opening? id cells with
  | none =>
    rw [hopening] at hrel
    cases hrel
  | some o =>
    rw [hopening] at hrel
    cases hrel with
    | some hyields => exact ⟨o, rfl, hyields⟩

/-- The last opening of an id yields the class box that is recognised. -/
theorem exists_box {id : String} {o : Opening} (h : ofCells d cells = .ok r)
    (ho : d.opening? id cells = some o) : ∃ b, r.boxes.get? id = some b ∧ o.Yields b := by
  have hrel := yields_of_ofCells h id
  rw [ho] at hrel
  cases hb : r.boxes.get? id with
  | none =>
    rw [hb] at hrel
    cases hrel
  | some b =>
    rw [hb] at hrel
    cases hrel with
    | some hyields => exact ⟨b, rfl, hyields⟩

/-- The class boxes stand in the order in which their ids came first. -/
theorem keys_ofCells (h : ofCells d cells = .ok r) :
    r.boxes.keys = firsts ((cells.filter d.isClassBox).map (·.id)) := by
  refine run_induction (P := fun cells r =>
    r.boxes.keys = firsts ((cells.filter d.isClassBox).map (·.id))) rfl ?_ h
  intro cells r c r' _ ih htaken
  rw [List.filter_append, List.map_append, List.filter_singleton]
  cases htaken with
  | connector hconnector =>
    rw [Drawing.isClassBox_eq_false_of_belongsToConnector hconnector, ih]
    exact congrArg _ (List.append_nil _).symm
  | box hbox =>
    rw [hbox, OrderedMap.keys_insert, ih]
    exact ((firsts_concat _ _).trans (by simp only [mem_firsts])).symm
  | stray hpart _ =>
    rw [(Drawing.isPart_iff.1 hpart).2, ih]
    exact congrArg _ (List.append_nil _).symm
  | part hpart hslot _ =>
    rw [(Drawing.isPart_iff.1 hpart).2, OrderedMap.keys_insert,
      if_pos (OrderedMap.mem_keys_of_get? hslot), ih]
    exact congrArg _ (List.append_nil _).symm

end Recognition

end ClassDiagram
