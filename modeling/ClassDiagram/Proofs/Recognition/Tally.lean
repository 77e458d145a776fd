import ClassDiagram.Proofs.Model.OfDrawing

/-!
# Whether all that was counted is kept

The summary of a drawing only grows, but the model does not keep everything.  An
opening is *replaced* when its class box comes again, and then it is lost with all
its members.  A divider sends the next number back to zero, so that the runs of
methods of one opening are put over each other and only as many methods are kept
as the longest run has lines.

A *weight* says how much of a count an opening stands for.  Along a run the count
is the weight of the openings at hand and of those that were lost.  From this
`ofDrawing_tally` says for each count exactly when the model keeps all of it.
-/

namespace ClassDiagram

/-! ## Runs of methods -/

theorem foldr_max_le_sum (l : List Nat) : l.foldr max 0 ≤ l.sum := by
  induction l with
  | nil => exact Nat.le_refl 0
  | cons a l ih =>
    rw [List.foldr_cons, List.sum_cons]
    omega

/-- The greatest number is the sum exactly when at most one number is not zero. -/
theorem foldr_max_eq_sum_iff (l : List Nat) :
    l.foldr max 0 = l.sum ↔ l.Pairwise fun a b => a = 0 ∨ b = 0 := by
  induction l with
  | nil => exact ⟨fun _ => .nil, fun _ => rfl⟩
  | cons a l ih =>
    have hle := foldr_max_le_sum l
    rw [List.foldr_cons, List.sum_cons, List.pairwise_cons, ← ih]
    by_cases ha : a = 0
    · simp [ha]
    · have hzero : (∀ b ∈ l, a = 0 ∨ b = 0) ↔ l.sum = 0 := by
        simp only [ha, false_or, List.sum_eq_zero_iff_forall_eq_nat]
      rw [hzero]
      omega

namespace Opening

theorem sum_methodRuns_add {o : Opening} (c : Cell)
    (h : (o.methodRuns.map (·.length)).sum = o.methodLines.length) :
    ((o.add c).methodRuns.map (·.length)).sum = (o.add c).methodLines.length := by
  rw [methodRuns_add, methodLines_add]
  cases hc : c.isDivider with
  | true =>
    rw [addToRuns_divider _ hc, List.map_cons, List.sum_cons, h, Bool.not_true, Bool.and_false]
    exact Nat.zero_add _
  | false =>
    cases hdivided : o.divided with
    | false =>
      rw [methodRuns_eq_nil hdivided] at h
      rw [methodRuns_eq_nil hdivided, addToRuns_nil hc]
      exact h
    | true =>
      obtain ⟨run, earlier, hruns⟩ := exists_methodRuns_eq_cons hdivided
      rw [hruns, List.map_cons, List.sum_cons] at h
      rw [hruns, addToRuns_cons _ _ hc, List.map_cons, List.sum_cons, List.length_append]
      simp only [Bool.not_false, Bool.and_true, if_true, List.length_append]
      omega

/-- The runs of an opening have all its method lines. -/
theorem sum_methodRuns (o : Opening) :
    (o.methodRuns.map (·.length)).sum = o.methodLines.length := by
  obtain ⟨box, parts⟩ := o
  induction parts using List.reverseRecOn with
  | nil => rfl
  | append_singleton parts c ih => exact sum_methodRuns_add c ih

/-- No run is longer than all method lines together. -/
theorem longestRun_le (o : Opening) : o.longestRun ≤ o.methodLines.length := by
  rw [longestRun, ← sum_methodRuns]
  exact foldr_max_le_sum _

/-- The longest run holds all methods exactly when there is no other run with lines. -/
theorem longestRun_eq_iff (o : Opening) : o.longestRun = o.methodLines.length ↔
    o.methodRuns.Pairwise fun run other => run = [] ∨ other = [] := by
  rw [longestRun, ← sum_methodRuns, foldr_max_eq_sum_iff, List.pairwise_map]
  simp only [List.length_eq_zero_iff]

end Opening

/-! ## Openings that are lost -/

namespace Drawing

variable {d : Drawing}

/-- An opening ends in some cells because its class box comes again. -/
def Replaced (d : Drawing) (cells : List Cell) (o : Opening) : Prop :=
  ∃ before c after, cells = before ++ c :: after ∧ d.isClassBox c = true ∧
    d.opening? c.id before = some o

theorem not_replaced_nil (d : Drawing) (o : Opening) : ¬ d.Replaced [] o := by
  rintro ⟨before, c, after, hcells, -⟩
  cases before with
  | nil => cases hcells
  | cons => cases hcells

/-- An opening is replaced by the next class box with its id. -/
theorem replaced_concat {cells : List Cell} {c : Cell} {o : Opening} :
    d.Replaced (cells ++ [c]) o ↔
      d.Replaced cells o ∨ d.isClassBox c = true ∧ d.opening? c.id cells = some o := by
  constructor
  · rintro ⟨before, x, after, hcells, hbox, hopening⟩
    cases after using List.reverseRecOn with
    | nil =>
      obtain ⟨rfl, hx⟩ := List.append_inj' hcells rfl
      obtain ⟨rfl, -⟩ := List.cons_eq_cons.1 hx
      exact Or.inr ⟨hbox, hopening⟩
    | append_singleton after y =>
      rw [← List.cons_append, ← List.append_assoc] at hcells
      exact Or.inl ⟨before, x, after, (List.append_inj' hcells rfl).1, hbox, hopening⟩
  · rintro (⟨before, x, after, rfl, hbox, hopening⟩ | ⟨hbox, hopening⟩)
    · refine ⟨before, x, after ++ [c], ?_, hbox, hopening⟩
      rw [List.append_assoc, List.cons_append]
    · exact ⟨cells, c, [], rfl, hbox, hopening⟩

theorem replaced_concat_of_not_isClassBox {cells : List Cell} {c : Cell}
    (h : d.isClassBox c = false) (o : Opening) :
    d.Replaced (cells ++ [c]) o ↔ d.Replaced cells o := by
  rw [replaced_concat, h]
  exact or_iff_left fun hc => Bool.false_ne_true hc.1

end Drawing

/-! ## Weights -/

/-- A weight of openings goes with a count when every cell adds as much to the one as it
does to the other. -/
structure Opening.Weighs (tally : BuildSummary → Nat) (w : Opening → Nat) : Prop where
  start : tally {} = 0
  add : ∀ s t, tally (s + t) = tally s + tally t
  box : ∀ c, w { box := c } = tally { classes := 1 }
  part : ∀ {o : Opening} {b c b' members}, o.Yields b → b.take c = .ok (b', members) →
    w (o.add c) = w o + tally (.ofMembers members)

namespace Opening

theorem weighs_classes : Weighs BuildSummary.classes fun _ => 1 where
  start := rfl
  add := BuildSummary.classes_add
  box _ := rfl
  part := by
    intro o b c b' members _ htake
    rcases ClassBox.take_cases htake with ⟨-, -, rfl⟩ | ⟨-, -, ps, rfl, -⟩ | ⟨-, -, ms, rfl, -⟩
    · rfl
    · rw [BuildSummary.ofMembers_properties]
      rfl
    · rw [BuildSummary.ofMembers_methods]
      rfl

theorem weighs_properties : Weighs BuildSummary.properties fun o => o.propertyLines.length where
  start := rfl
  add := BuildSummary.properties_add
  box _ := rfl
  part := by
    intro o b c b' members hyields htake
    have hregion := hyields.inMethods
    rw [propertyLines_add]
    rcases ClassBox.take_cases htake with ⟨hc, -, rfl⟩ | ⟨hc, hbefore, ps, rfl, -, hlines⟩ |
      ⟨hc, hafter, ms, rfl, -⟩
    · rw [hc, Bool.or_true]
      rfl
    · rw [BuildSummary.ofMembers_properties, hc, ← hregion, hbefore, ← hlines.length_eq]
      exact List.length_append
    · rw [BuildSummary.ofMembers_methods, ← hregion, hafter]
      rfl

theorem weighs_methods : Weighs BuildSummary.methods fun o => o.methodLines.length where
  start := rfl
  add := BuildSummary.methods_add
  box _ := rfl
  part := by
    intro o b c b' members hyields htake
    have hregion := hyields.inMethods
    rw [methodLines_add]
    rcases ClassBox.take_cases htake with ⟨hc, -, rfl⟩ | ⟨hc, hbefore, ps, rfl, -⟩ |
      ⟨hc, hafter, ms, rfl, -, hlines⟩
    · rw [hc, Bool.not_true, Bool.and_false]
      rfl
    · rw [BuildSummary.ofMembers_properties, ← hregion, hbefore]
      rfl
    · rw [BuildSummary.ofMembers_methods, hc, ← hregion, hafter, ← hlines.length_eq]
      exact List.length_append

end Opening

/-! ## Counting along a run -/

/-- The weight of the opening of an id, which is nothing if there is none. -/
def Drawing.weight (d : Drawing) (w : Opening → Nat) (cells : List Cell) (id : String) : Nat :=
  (d.opening? id cells).elim 0 w

namespace Drawing

variable {d : Drawing} {c : Cell}

/-- A class box sets the weight of its id to that of an opening without parts. -/
theorem weight_concat_of_isClassBox (hbox : d.isClassBox c = true) (w : Opening → Nat)
    (cells : List Cell) (id : String) : d.weight w (cells ++ [c]) id =
      if id = c.id then w { box := c } else d.weight w cells id := by
  rw [weight, opening?_concat, reopen_of_isClassBox hbox]
  split <;> rfl

/-- A part changes the weight of its parent's opening alone. -/
theorem weight_concat_of_isPart (hpart : d.isPart c = true) (w : Opening → Nat)
    (cells : List Cell) (id : String) : d.weight w (cells ++ [c]) id =
      if id = c.parentId then d.weight (fun o => w (o.add c)) cells id
      else d.weight w cells id := by
  rw [weight, opening?_concat, reopen_of_isPart hpart]
  split
  next => rw [weight, Option.elim_map]; rfl
  next => rfl

theorem weight_of_opening? {id : String} {cells : List Cell} {o : Opening}
    (h : d.opening? id cells = some o) (w : Opening → Nat) : d.weight w cells id = w o := by
  rw [weight, h]
  rfl

/-- A class box takes a weight away when it comes again. -/
theorem weight_eq_zero_iff (d : Drawing) (w : Opening → Nat) (cells : List Cell) (id : String) :
    d.weight w cells id = 0 ↔ ∀ o, d.opening? id cells = some o → w o = 0 := by
  cases hopening : d.opening? id cells with
  | none =>
    constructor
    · intro _ o ho
      cases ho
    · intro _
      rw [weight, hopening]
      rfl
  | some o =>
    rw [weight_of_opening? hopening]
    constructor
    · intro h q hq
      cases hq
      exact h
    · intro h
      exact h o rfl

end Drawing

namespace Recognition

variable {d : Drawing} {r : Recognition} {cells : List Cell} {c : Cell}
variable {tally : BuildSummary → Nat} {w : Opening → Nat}

theorem getD_map_weight {id : String} (h : ofCells d cells = .ok r) (w : Opening → Nat) :
    ((r.boxes.get? id).map fun _ => d.weight w cells id).getD 0 = d.weight w cells id := by
  cases hid : r.boxes.get? id with
  | none =>
    refine ((Drawing.weight_eq_zero_iff d w cells id).2 fun o ho => ?_).symm
    obtain ⟨b, hb, -⟩ := exists_box h ho
    rw [hid] at hb
    cases hb
  | some b => rfl

/-- The count is that of what is kept and of what is lost, and what is lost are the
replaced openings. -/
def Accounts (d : Drawing) (tally : BuildSummary → Nat) (w : Opening → Nat) (cells : List Cell)
    (r : Recognition) : Prop :=
  ∃ lost, tally r.summary = r.boxes.total (fun id _ => d.weight w cells id) + lost ∧
    (lost = 0 ↔ ∀ o, d.Replaced cells o → w o = 0)

/-- A cell that changes no weight leaves the account as it is. -/
theorem Accounts.pass (h : Accounts d tally w cells r) (hbox : d.isClassBox c = false)
    (same : ∀ id b, r.boxes.get? id = some b →
      d.weight w (cells ++ [c]) id = d.weight w cells id) :
    Accounts d tally w (cells ++ [c]) r := by
  obtain ⟨lost, htotal, hlost⟩ := h
  refine ⟨lost, ?_, ?_⟩
  · rw [htotal]
    exact congrArg (· + lost) (OrderedMap.total_congr same).symm
  · simp only [Drawing.replaced_concat_of_not_isClassBox hbox]
    exact hlost

/-- The opening that was there is lost, and the new one weighs as much as is counted. -/
theorem Accounts.box (h : Accounts d tally w cells r) (hw : Opening.Weighs tally w)
    (hcells : ofCells d cells = .ok r) (hbox : d.isClassBox c = true) (b : ClassBox) :
    Accounts d tally w (cells ++ [c])
      { boxes := r.boxes.insert c.id b, summary := r.summary + { classes := 1 } } := by
  obtain ⟨lost, htotal, hlost⟩ := h
  have hweight := Drawing.weight_concat_of_isClassBox hbox w cells
  refine ⟨lost + d.weight w cells c.id, ?_, ?_⟩
  · have hinsert := r.boxes.total_insert (fun id _ hid => (hweight id).trans (if_neg hid)) b
    rw [getD_map_weight hcells, hweight c.id, if_pos rfl, hw.box] at hinsert
    simp only [hw.add, htotal]
    omega
  · simp only [Drawing.replaced_concat, Nat.add_eq_zero_iff, hlost, Drawing.weight_eq_zero_iff]
    constructor
    · rintro ⟨hbefore, hlast⟩ o (ho | ho)
      · exact hbefore o ho
      · exact hlast o ho.2
    · intro hall
      exact ⟨fun o ho => hall o (Or.inl ho), fun o ho => hall o (Or.inr ⟨hbox, ho⟩)⟩

/-- Nothing is lost, and the opening grows by as much as is counted. -/
theorem Accounts.part (h : Accounts d tally w cells r) (hw : Opening.Weighs tally w)
    (hcells : ofCells d cells = .ok r) (hpart : d.isPart c = true) {b b' : ClassBox}
    {members : List Member} (hslot : r.boxes.get? c.parentId = some b)
    (htake : b.take c = .ok (b', members)) :
    Accounts d tally w (cells ++ [c])
      { boxes := r.boxes.insert c.parentId b', summary := r.summary + .ofMembers members } := by
  obtain ⟨lost, htotal, hlost⟩ := h
  obtain ⟨o, ho, hyields⟩ := exists_opening hcells hslot
  have hweight := Drawing.weight_concat_of_isPart hpart w cells
  refine ⟨lost, ?_, ?_⟩
  · have hinsert := r.boxes.total_insert (fun id _ hid => (hweight id).trans (if_neg hid)) b'
    rw [getD_map_weight hcells, hweight c.parentId, if_pos rfl, Drawing.weight_of_opening? ho,
      Drawing.weight_of_opening? ho, hw.part hyields htake] at hinsert
    simp only [hw.add, htotal]
    omega
  · simp only [Drawing.replaced_concat_of_not_isClassBox (Drawing.isPart_iff.1 hpart).2]
    exact hlost

/-- At every cell the tally is the weight of the openings that are kept and of those that were
replaced. -/
theorem accounts_ofCells (hw : Opening.Weighs tally w) (h : ofCells d cells = .ok r) :
    Accounts d tally w cells r := by
  refine run_induction (P := Accounts d tally w) ?_ ?_ h
  · refine ⟨0, hw.start, fun _ o ho => ?_, fun _ => rfl⟩
    exact absurd ho (Drawing.not_replaced_nil d o)
  · intro cells r c r' hcells ih htaken
    cases htaken with
    | connector hconnector =>
      refine ih.pass (Drawing.isClassBox_eq_false_of_belongsToConnector hconnector) ?_
      intro id b _
      rw [Drawing.weight, Drawing.opening?_concat,
        Drawing.reopen_of_belongsToConnector hconnector]
      rfl
    | box hbox => exact ih.box hw hcells hbox _
    | stray hpart hslot =>
      refine ih.pass (Drawing.isPart_iff.1 hpart).2 fun id b hb => ?_
      have hid : id ≠ c.parentId := by
        rintro rfl
        rw [hslot] at hb
        cases hb
      rw [Drawing.weight_concat_of_isPart hpart, if_neg hid]
    | part hpart hslot htake => exact ih.part hw hcells hpart hslot htake

/-- All that was counted is kept exactly when no lost opening has a weight and every
opening at hand keeps its own. -/
theorem tally_eq_total_iff (hw : Opening.Weighs tally w) (stored : Entity → Nat)
    (kept : Opening → Prop)
    (hstored : ∀ {o : Opening} {b : ClassBox}, o.Yields b →
      stored b.entity ≤ w o ∧ (stored b.entity = w o ↔ kept o))
    (h : ofCells d cells = .ok r) :
    tally r.summary = r.model.entities.total (fun _ e => stored e) ↔
      (∀ o, d.Replaced cells o → w o = 0) ∧
        ∀ id o, d.opening? id cells = some o → kept o := by
  obtain ⟨lost, htotal, hlost⟩ := accounts_ofCells hw h
  have hle : ∀ id b, r.boxes.get? id = some b → stored b.entity ≤ d.weight w cells id := by
    intro id b hb
    obtain ⟨o, ho, hyields⟩ := exists_opening h hb
    rw [Drawing.weight_of_opening? ho]
    exact (hstored hyields).1
  have hkept : (∀ id b, r.boxes.get? id = some b → stored b.entity = d.weight w cells id) ↔
      ∀ id o, d.opening? id cells = some o → kept o := by
    constructor
    · intro hall id o ho
      obtain ⟨b, hb, hyields⟩ := exists_box h ho
      have hweight := hall id b hb
      rw [Drawing.weight_of_opening? ho] at hweight
      exact (hstored hyields).2.1 hweight
    · intro hall id b hb
      obtain ⟨o, ho, hyields⟩ := exists_opening h hb
      rw [Drawing.weight_of_opening? ho]
      exact (hstored hyields).2.2 (hall id o ho)
  have htotal_le := OrderedMap.total_le_total hle
  have htotal_eq := OrderedMap.total_eq_total_iff hle
  rw [← hlost, ← hkept, ← htotal_eq, Recognition.model, OrderedMap.total_mapValues, htotal]
  omega

/-- All classes are kept exactly when no opening is replaced. -/
theorem classes_eq_iff (h : ofCells d cells = .ok r) :
    r.summary.classes = r.model.entities.total (fun _ _ => 1) ↔
      ∀ o, ¬ d.Replaced cells o := by
  rw [tally_eq_total_iff Opening.weighs_classes (fun _ => 1) (fun _ => True) ?_ h]
  · simp
  · intro o b _
    exact ⟨Nat.le_refl 1, iff_of_true rfl trivial⟩

/-- All properties are kept exactly when no replaced opening had any. -/
theorem properties_eq_iff (h : ofCells d cells = .ok r) :
    r.summary.properties = r.model.entities.total (fun _ e => e.properties.size) ↔
      ∀ o, d.Replaced cells o → o.propertyLines = [] := by
  rw [tally_eq_total_iff Opening.weighs_properties (·.properties.size) (fun _ => True) ?_ h]
  · simp
  · intro o b hyields
    have hsize : b.entity.properties.size = b.entity.properties.values.length :=
      (List.length_map _).symm
    rw [hsize, ← hyields.properties.length_eq]
    exact ⟨Nat.le_refl _, iff_of_true rfl trivial⟩

/-- All methods are kept exactly when no replaced opening had any and no other one has two runs with
lines. -/
theorem methods_eq_iff (h : ofCells d cells = .ok r) :
    r.summary.methods = r.model.entities.total (fun _ e => e.methods.size) ↔
      (∀ o, d.Replaced cells o → o.methodLines = []) ∧
      ∀ id o, d.opening? id cells = some o →
        o.methodRuns.Pairwise fun run other => run = [] ∨ other = [] := by
  rw [tally_eq_total_iff Opening.weighs_methods (·.methods.size)
    (fun o => o.methodRuns.Pairwise fun run other => run = [] ∨ other = []) ?_ h]
  · simp only [List.length_eq_zero_iff]
  · intro o b hyields
    rw [hyields.size_methods, o.longestRun_eq_iff]
    exact ⟨o.longestRun_le, Iff.rfl⟩

end Recognition

/-! ## Exactly when all is kept -/

/-- A class box with two dividers and a method after each of them. -/
def Drawing.twoDividers : Drawing where
  root := "1"
  cells := .ofList
    [("b", { id := "b", parent := some "1", style := .ofList [("shape", "umlClass")],
             texts := ["Shape"] }),
     ("l1", { id := "l1", parent := some "b", style := .ofList [("shape", "line")] }),
     ("m1", { id := "m1", parent := some "b", texts := ["+ area(): double"] }),
     ("l2", { id := "l2", parent := some "b", style := .ofList [("shape", "line")] }),
     ("m2", { id := "m2", parent := some "b", texts := ["+ scale(): void"] })]

namespace Model

variable {d : Drawing} {m : Model} {s : BuildSummary}

/-- All classes are kept exactly when no opening was replaced, and all properties exactly
when no replaced opening had any.  All methods are kept exactly when no replaced opening
had any and in every other opening at most one run has lines. -/
theorem ofDrawing_tally (h : Model.ofDrawing d = .ok (m, s)) :
    (s.classes = m.entities.size ↔ ∀ o, ¬ d.Replaced d.cells.values o) ∧
    (s.properties = m.entities.total (fun _ e => e.properties.size) ↔
      ∀ o, d.Replaced d.cells.values o → o.propertyLines = []) ∧
    (s.methods = m.entities.total (fun _ e => e.methods.size) ↔
      (∀ o, d.Replaced d.cells.values o → o.methodLines = []) ∧
      ∀ id o, d.opening? id d.cells.values = some o →
        o.methodRuns.Pairwise fun run other => run = [] ∨ other = []) := by
  obtain ⟨r, hcells, hconnected⟩ := exists_connected h
  have hsummary : s = _ := hconnected.summary
  -- The connectors change neither the counts nor the members.
  have hentities (f : Entity → Nat) (hf : ∀ e, f e.unlinked = f e) :
      r.model.entities.total (fun _ e => f e) = m.entities.total fun _ e => f e := by
    rw [← hconnected.mapValues_unlinked (Recognition.links_model hcells),
      OrderedMap.total_mapValues]
    simp only [hf]
  have hclasses := Recognition.classes_eq_iff hcells
  have hproperties := Recognition.properties_eq_iff hcells
  have hmethods := Recognition.methods_eq_iff hcells
  rw [hentities (fun _ => 1) fun _ => rfl, OrderedMap.total_one] at hclasses
  rw [hentities (·.properties.size) fun _ => rfl] at hproperties
  rw [hentities (·.methods.size) fun _ => rfl] at hmethods
  rw [hsummary]
  exact ⟨hclasses, hproperties, hmethods⟩

/-- A second divider in a class loses methods though no opening is replaced. -/
theorem ofDrawing_tally_twoDividers : ∃ m s, Model.ofDrawing .twoDividers = .ok (m, s) ∧
    (∀ o, ¬ Drawing.twoDividers.Replaced Drawing.twoDividers.cells.values o) ∧
    ¬ ∀ id o, Drawing.twoDividers.opening? id Drawing.twoDividers.cells.values = some o →
      o.methodRuns.Pairwise fun run other => run = [] ∨ other = [] := by
  obtain ⟨hclasses, -, hmethods⟩ := ofDrawing_tally (d := .twoDividers) rfl
  have hnone := hclasses.1 rfl
  refine ⟨_, _, rfl, hnone, fun hall => ?_⟩
  have hkept := hmethods.2 ⟨fun o ho => absurd ho (hnone o), hall⟩
  cases hkept

/-- A divider that sends the next number back to zero loses a method that was counted. -/
theorem not_methods_kept : ¬ ∀ d m s, Model.ofDrawing d = .ok (m, s) →
    s.classes = m.entities.size ∧
    s.properties = m.entities.total (fun _ e => e.properties.size) ∧
    s.methods = m.entities.total (fun _ e => e.methods.size) := by
  intro hall
  have hmethods := (hall .twoDividers _ _ rfl).2.2
  cases hmethods

end Model

end ClassDiagram
