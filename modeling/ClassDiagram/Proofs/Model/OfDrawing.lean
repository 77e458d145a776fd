import ClassDiagram.Proofs.Model.Connectors

/-!
# What a drawing means as a model

A drawing is read in two passes, the cells first and then the connectors.  The
cells settle the entities, which have no links yet, and the connectors only add
links.  So each part of the model can be read off the drawing on its own:
`ofDrawing_links` does so for the links, and `ofDrawing_entities` for the rest.
-/

namespace ClassDiagram

variable {d : Drawing} {m : Model} {s : BuildSummary}

/-! ## The two passes -/

namespace Recognition

variable {r : Recognition} {cells : List Cell}

theorem get?_model (r : Recognition) (id : String) :
    r.model.get? id = (r.boxes.get? id).map (·.entity) :=
  OrderedMap.get?_mapValues _ _ _

theorem keys_model (r : Recognition) : r.model.entities.keys = r.boxes.keys :=
  OrderedMap.keys_mapValues _ _

/-- The cells leave no links. -/
theorem links_model (h : ofCells d cells = .ok r) (id : String) (e : Entity)
    (he : r.model.get? id = some e) : e.links = {} := by
  rw [get?_model, Option.map_eq_some_iff] at he
  obtain ⟨b, hb, rfl⟩ := he
  obtain ⟨o, -, hyields⟩ := exists_opening h hb
  rw [hyields.entity]
  exact Entity.links_ofCell o.box

/-- The cells count no connectors. -/
theorem summary_ofCells (h : ofCells d cells = .ok r) :
    r.summary.linked = 0 ∧ r.summary.ignored = 0 ∧ r.summary.skipped = 0 := by
  refine run_induction (P := fun _ r =>
    r.summary.linked = 0 ∧ r.summary.ignored = 0 ∧ r.summary.skipped = 0) ⟨rfl, rfl, rfl⟩ ?_ h
  intro cells r c r' _ ih htaken
  cases htaken with
  | connector => exact ih
  | box => exact ih
  | stray => exact ih
  | part hpart hslot htake =>
    rcases ClassBox.take_cases htake with ⟨-, -, rfl⟩ | ⟨-, -, ps, rfl, -⟩ | ⟨-, -, ms, rfl, -⟩
    · exact ih
    · rw [BuildSummary.ofMembers_properties]
      exact ih
    · rw [BuildSummary.ofMembers_methods]
      exact ih

end Recognition

/-- A drawing is read by recognising its classes and connecting them. -/
theorem Model.exists_connected (h : Model.ofDrawing d = .ok (m, s)) :
    ∃ r, Recognition.ofCells d d.cells.values = .ok r ∧
      Connected r.model r.summary d.connectors.values (m, s) := by
  rw [ofDrawing, Drawing.classes_eq] at h
  cases hcells : Recognition.ofCells d d.cells.values with
  | error e =>
    rw [hcells] at h
    cases h
  | ok r =>
    rw [hcells] at h
    have hconnected := connected_foldl (Recognition.links_model hcells) r.summary
      d.connectors.values
    have hfold : d.connectors.values.foldl Recognition.connect (r.model, r.summary) = (m, s) :=
      Except.ok.inj h
    rw [hfold] at hconnected
    exact ⟨r, rfl, hconnected⟩

/-- A node that knows other nodes and can be walked, and the interface it meets. -/
def Drawing.tree : Drawing where
  root := "1"
  cells := .ofList
    [("n", { id := "n", parent := some "1", style := .ofList [("shape", "umlClass")],
             texts := ["Node"] }),
     ("p", { id := "p", parent := some "n", texts := ["- label: string"] }),
     ("l", { id := "l", parent := some "n", style := .ofList [("shape", "line")] }),
     ("w", { id := "w", parent := some "n", texts := ["+ walk(): void"] }),
     ("v", { id := "v", parent := some "1", style := .ofList [("shape", "umlClass")],
             texts := ["<<interface>>", "Walkable"] })]
  connectors := .ofList
    [("c1", { source := "n", target := "n", style := .ofList [("endArrow", "none")] }),
     ("c2", { source := "n", target := "v",
              style := .ofList [("endArrow", "block"), ("endFill", "0"), ("dashed", "1")] }),
     ("c3", { source := "n", target := "away", style := .ofList [("endArrow", "none")] }),
     ("c4", { source := "n", target := "v" })]

/-! ## Links -/

/-- The links of the model are exactly those that the connectors leave.  They lead to
entities of the model, and those of mutual relations come in pairs.  The connectors add
nothing but links to what is found in the cells, and each of them is counted once, as
what it is. -/
theorem Model.ofDrawing_links (h : Model.ofDrawing d = .ok (m, s)) :
    (∀ id e, m.get? id = some e → e.links = m.linksFrom d.connectors.values id) ∧
    m.LinksClosed ∧ m.LinksPaired ∧
    (∃ r, d.classes = .ok r ∧ m.entities.mapValues Entity.unlinked = r.model.entities ∧
      s = { r.summary with
        linked := d.connectors.values.countP (·.isEffective m)
        ignored := d.connectors.values.countP (·.style.relation?.isNone)
        skipped := d.connectors.values.countP fun c =>
          c.style.relation?.isSome && !c.isEffective m }) ∧
    s.linked + s.ignored + s.skipped = d.connectors.size := by
  obtain ⟨r, hcells, hconnected⟩ := exists_connected h
  have hlinked : m.LinkedBy d.connectors.values := hconnected.linkedBy
  obtain ⟨hl, hi, hs⟩ := Recognition.summary_ofCells hcells
  have heffective (c : Connector) : c.isEffective r.model = c.isEffective m :=
    isEffective_congr hconnected.keys.symm c
  have hsummary := hconnected.summary
  simp only [hl, hi, hs, Nat.zero_add, heffective] at hsummary
  refine ⟨hlinked, hlinked.linksClosed, hlinked.linksPaired, ⟨r, hcells, ?_, hsummary⟩, ?_⟩
  · exact hconnected.mapValues_unlinked (Recognition.links_model hcells)
  · have hlength : d.connectors.size = d.connectors.values.length := (List.length_map _).symm
    rw [hsummary, hlength]
    exact countP_add_countP_add_countP m d.connectors.values

/-- Of four connectors at a node, one leads back to it and one to the interface that it realises. -/
theorem Model.ofDrawing_links_tree : ∃ m s, Model.ofDrawing .tree = .ok (m, s) ∧
    (∀ id e, m.get? id = some e → e.links = m.linksFrom Drawing.tree.connectors.values id) ∧
    m.linksFrom Drawing.tree.connectors.values "n" =
      { interfaces := ["v"], associations := [(.outgoing, "n"), (.incoming, "n")] } ∧
    m.LinksClosed ∧ m.LinksPaired ∧ s.linked + s.ignored + s.skipped = 4 := by
  obtain ⟨hlinks, hclosed, hpaired, -, hcount⟩ := ofDrawing_links (d := .tree) rfl
  exact ⟨_, _, rfl, hlinks, rfl, hclosed, hpaired, hcount⟩

/-! ## Entities -/

/-- The entities stand in the order in which their class boxes came first.  Each of them
is named by the last class box with its id.  Its properties are the lines in that box
before the first divider there, and its methods are among the lines after it. -/
theorem Model.ofDrawing_entities (h : Model.ofDrawing d = .ok (m, s)) :
    m.entities.keys = firsts ((d.cells.values.filter d.isClassBox).map (·.id)) ∧
    ∀ id e, m.get? id = some e → ∃ before box after,
      d.cells.values = before ++ box :: after ∧
      d.opens id box = true ∧ (∀ c ∈ after, d.opens id c = false) ∧
      e.kind = (Entity.ofCell box).kind ∧ e.name = (Entity.ofCell box).name ∧
      e.stereotype = (Entity.ofCell box).stereotype ∧
      e.properties.keys = List.range e.properties.size ∧
      List.Forall₂ (fun line p => Property.ofLine line = .ok p)
        (((after.filter (d.isPartOf id)).takeWhile (!·.isDivider)).flatMap (·.lines))
        e.properties.values ∧
      ∀ method ∈ e.methods.values,
        ∃ c ∈ (after.filter (d.isPartOf id)).dropWhile (!·.isDivider), c.isDivider = false ∧
          ∃ line ∈ c.lines, Method.ofLine line = .ok method := by
  obtain ⟨r, hcells, hconnected⟩ := exists_connected h
  refine ⟨?_, fun id e he => ?_⟩
  · have hkeys : m.entities.keys = r.model.entities.keys := hconnected.keys
    rw [hkeys, Recognition.keys_model, Recognition.keys_ofCells hcells]
  · have hid : m.get? id = _ := hconnected.entities id
    rw [he, Recognition.get?_model, Option.map_map] at hid
    obtain ⟨b, hb, rfl⟩ := Option.map_eq_some_iff.1 hid.symm
    obtain ⟨o, ho, hyields⟩ := Recognition.exists_opening hcells hb
    obtain ⟨before, after, hsplit, hopens, hlater, hparts⟩ := Drawing.split_of_opening? ho
    have hkind : b.entity.kind = _ := congrArg Entity.kind hyields.entity
    have hname : b.entity.name = _ := congrArg Entity.name hyields.entity
    have hstereotype : b.entity.stereotype = _ := congrArg Entity.stereotype hyields.entity
    refine ⟨before, o.box, after, hsplit, hopens, hlater, hkind, hname, hstereotype,
      hyields.numbered.properties, ?_, ?_⟩
    · have hproperties := hyields.properties
      rw [Opening.propertyLines, hparts] at hproperties
      exact hproperties
    · intro method hmethod
      obtain ⟨line, hline, hmethod⟩ := hyields.methods method hmethod
      rw [Opening.methodLines, Opening.methodCells, hparts, List.mem_flatMap] at hline
      obtain ⟨c, hc, hline⟩ := hline
      obtain ⟨hc, hdivider⟩ := List.mem_filter.1 hc
      exact ⟨c, hc, by simpa using hdivider, line, hline, hmethod⟩

/-- The properties of the node are those of the lines above its divider. -/
theorem Model.ofDrawing_entities_tree : ∃ m s, Model.ofDrawing .tree = .ok (m, s) ∧
    m.entities.keys = ["n", "v"] ∧ ∃ e before box after, m.get? "n" = some e ∧
      Drawing.tree.cells.values = before ++ box :: after ∧
      Drawing.tree.opens "n" box = true ∧ e.name = (Entity.ofCell box).name ∧
      List.Forall₂ (fun line p => Property.ofLine line = .ok p)
        (((after.filter (Drawing.tree.isPartOf "n")).takeWhile (!·.isDivider)).flatMap (·.lines))
        e.properties.values := by
  obtain ⟨hkeys, hentities⟩ := ofDrawing_entities (d := .tree) rfl
  obtain ⟨before, box, after, hsplit, hopens, -, -, hname, -, -, hproperties, -⟩ :=
    hentities "n" _ rfl
  exact ⟨_, _, rfl, hkeys, _, before, box, after, rfl, hsplit, hopens, hname, hproperties⟩

end ClassDiagram
