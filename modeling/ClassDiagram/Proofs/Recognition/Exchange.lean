import Mathlib.Logic.Relation
import ClassDiagram.Proofs.Recognition.Step

/-!
# Cells that change places

The order of the cells matters only within each class.  Two cells next to each
other may change places when they speak to different class boxes, as long as they
are not two class boxes, whose order is that of the classes.

Both cells read and write the place of their owner only, so neither sees what the
other does.  The order in which two new places are made does show, but only a
class box makes a new place.  `ofDrawing_exchange` says so for whole drawings and
for any number of such exchanges.  The fault that is reported may be another one.
-/

namespace ClassDiagram

/-! ## Results up to the fault -/

theorem toOption_eq_some_iff {ε α : Type} {x : Except ε α} {a : α} :
    x.toOption = some a ↔ x = .ok a := by
  cases x with
  | error e =>
    constructor
    · intro h
      cases h
    · intro h
      cases h
  | ok b =>
    constructor
    · intro h
      exact congrArg Except.ok (Option.some.inj h)
    · intro h
      exact congrArg some (Except.ok.inj h)

theorem toOption_bind_congr {ε α β : Type} {x y : Except ε α} (h : x.toOption = y.toOption)
    (f : α → Except ε β) : (x >>= f).toOption = (y >>= f).toOption := by
  cases x with
  | error e =>
    cases y with
    | error e' => rfl
    | ok b => cases h
  | ok a =>
    cases y with
    | error e' => cases h
    | ok b => rw [Option.some.inj h]

theorem toOption_bind_congr_right {ε α β : Type} (x : Except ε α) {f g : α → Except ε β}
    (h : ∀ a, (f a).toOption = (g a).toOption) : (x >>= f).toOption = (x >>= g).toOption := by
  cases x with
  | error e => rfl
  | ok a => exact h a

/-! ## Two steps -/

namespace Recognition

variable {d : Drawing} {r : Recognition} {a b : Cell}

/-- Of two steps with different owners, neither sees what the other does. -/
theorem step_bind_step (hne : d.owner a ≠ d.owner b) (r : Recognition) :
    (step d r a >>= fun q => step d q b) =
      d.act a (r.boxes.get? (d.owner a)) >>= fun x =>
        (d.act b (r.boxes.get? (d.owner b))).map fun y =>
          { boxes := (r.boxes.put (d.owner a) x.1).put (d.owner b) y.1
            summary := r.summary + x.2 + y.2 } := by
  rw [step_eq_act]
  cases d.act a (r.boxes.get? (d.owner a)) with
  | error e => rfl
  | ok x =>
    refine (step_eq_act d _ b).trans ?_
    rw [OrderedMap.get?_put_of_ne _ hne.symm]
    rfl

/-- A cell that is no class box writes only to a place that is there. -/
theorem eq_none_or_mem_keys {c : Cell} (hbox : d.isClassBox c = false)
    {x : Option ClassBox × BuildSummary}
    (h : d.act c (r.boxes.get? (d.owner c)) = .ok x) : x.1 = none ∨ d.owner c ∈ r.boxes.keys := by
  cases hslot : r.boxes.get? (d.owner c) with
  | none =>
    rw [hslot, Drawing.act_none hbox] at h
    cases h
    exact Or.inl rfl
  | some box => exact Or.inr (OrderedMap.mem_keys_of_get? hslot)

/-- Steps with different owners may change places, unless both are class boxes. -/
theorem step_comm (hne : d.owner a ≠ d.owner b)
    (hboxes : ¬ (d.isClassBox a = true ∧ d.isClassBox b = true)) (r : Recognition) :
    (step d r a >>= fun q => step d q b).toOption
      = (step d r b >>= fun q => step d q a).toOption := by
  rw [step_bind_step hne, step_bind_step hne.symm]
  cases ha : d.act a (r.boxes.get? (d.owner a)) with
  | error e => cases d.act b (r.boxes.get? (d.owner b)) <;> rfl
  | ok x =>
    cases hb : d.act b (r.boxes.get? (d.owner b)) with
    | error e => rfl
    | ok y =>
      -- At most one of the two makes a new place, so the order of the places is the same.
      have hpresent : x.1 = none ∨ y.1 = none ∨
          d.owner a ∈ r.boxes.keys ∨ d.owner b ∈ r.boxes.keys := by
        cases hbox : d.isClassBox a with
        | false =>
          cases eq_none_or_mem_keys hbox ha with
          | inl hnone => exact Or.inl hnone
          | inr hkeys => exact Or.inr (Or.inr (Or.inl hkeys))
        | true =>
          have hbox' : d.isClassBox b = false :=
            Bool.eq_false_of_not_eq_true fun hb => hboxes ⟨hbox, hb⟩
          cases eq_none_or_mem_keys hbox' hb with
          | inl hnone => exact Or.inr (Or.inl hnone)
          | inr hkeys => exact Or.inr (Or.inr (Or.inr hkeys))
      have hplaces := OrderedMap.put_comm hne hpresent
      have hsums := BuildSummary.add_right_comm r.summary x.2 y.2
      exact congrArg some (congrArg₂ Recognition.mk hplaces hsums)

/-- Two cells next to each other may change places in a run. -/
theorem ofCells_comm (hne : d.owner a ≠ d.owner b)
    (hboxes : ¬ (d.isClassBox a = true ∧ d.isClassBox b = true)) (before after : List Cell) :
    (ofCells d (before ++ a :: b :: after)).toOption
      = (ofCells d (before ++ b :: a :: after)).toOption := by
  rw [ofCells, ofCells, List.foldlM_append, List.foldlM_append]
  refine toOption_bind_congr_right _ fun r => ?_
  simp only [List.foldlM_cons, ← bind_assoc]
  exact toOption_bind_congr (step_comm hne hboxes r) _

end Recognition

/-! ## Exchanges in a drawing -/

/-- A drawing comes from another by exchanging two cells next to each other that have
different owners and are not both class boxes. -/
structure Drawing.Exchange (d d' : Drawing) : Prop where
  root : d'.root = d.root
  connectors : d'.connectors = d.connectors
  cells : ∃ before x y after, d.cells.toList = before ++ x :: y :: after ∧
    d'.cells.toList = before ++ y :: x :: after ∧ d.owner x.2 ≠ d.owner y.2 ∧
    ¬ (d.isClassBox x.2 = true ∧ d.isClassBox y.2 = true)

/-- Two class boxes with a property each, and the cells in some order. -/
def Drawing.inOrder (order : List Nat) : Drawing :=
  let cells : List Cell :=
    [{ id := "a", parent := some "1", style := .ofList [("shape", "umlClass")] },
     { id := "b", parent := some "1", style := .ofList [("shape", "umlClass")] },
     { id := "x", parent := some "a", texts := ["+ x: int"] },
     { id := "y", parent := some "b", texts := ["+ y: int"] }]
  { root := "1", cells := .ofList ((order.filterMap (cells[·]?)).map fun c => (c.id, c)) }

namespace Model

variable {d d' : Drawing}

theorem toOption_ofDrawing (d : Drawing) : (ofDrawing d).toOption = d.classes.toOption.map fun r =>
    d.connectors.values.foldl Recognition.connect (r.model, r.summary) := by
  rw [ofDrawing]
  cases d.classes <;> rfl

/-- A single exchange of cells changes neither the model nor the summary. -/
theorem toOption_ofDrawing_of_exchange (h : d.Exchange d') :
    (ofDrawing d).toOption = (ofDrawing d').toOption := by
  obtain ⟨root, cells, connectors⟩ := d
  obtain ⟨root', cells', connectors'⟩ := d'
  obtain ⟨hroot, hconnectors, before, x, y, after, hcells, hcells', hne, hboxes⟩ := h
  cases hroot
  cases hconnectors
  have hvalues : cells.values = before.map (·.2) ++ x.2 :: y.2 :: after.map (·.2) := by
    rw [OrderedMap.values, hcells, List.map_append]
    rfl
  have hvalues' : cells'.values = before.map (·.2) ++ y.2 :: x.2 :: after.map (·.2) := by
    rw [OrderedMap.values, hcells', List.map_append]
    rfl
  have hclasses : (Drawing.mk root cells connectors).classes.toOption
      = (Drawing.mk root cells' connectors).classes.toOption := by
    rw [Drawing.classes_eq, Drawing.classes_eq, hvalues, hvalues']
    exact Recognition.ofCells_comm hne hboxes _ _
  rw [toOption_ofDrawing, toOption_ofDrawing, hclasses]

/-- Drawings that come from each other by exchanges mean the same model and give the same
counts, and if one of them cannot be read then neither can the other. -/
theorem ofDrawing_exchange (h : Relation.ReflTransGen Drawing.Exchange d d') (m : Model)
    (s : BuildSummary) : ofDrawing d = .ok (m, s) ↔ ofDrawing d' = .ok (m, s) := by
  have hresult : (ofDrawing d).toOption = (ofDrawing d').toOption := by
    induction h with
    | refl => rfl
    | tail _ hlast ih => exact ih.trans (toOption_ofDrawing_of_exchange hlast)
  rw [← toOption_eq_some_iff, ← toOption_eq_some_iff, hresult]

/-- Two lines of different boxes may change places. -/
theorem ofDrawing_exchange_inOrder : ∃ m s, ofDrawing (.inOrder [0, 1, 2, 3]) = .ok (m, s) ∧
    ofDrawing (.inOrder [0, 2, 1, 3]) = .ok (m, s) := by
  refine ⟨_, _, rfl, ?_⟩
  have hexchange : Drawing.Exchange (.inOrder [0, 1, 2, 3]) (.inOrder [0, 2, 1, 3]) := by
    refine ⟨rfl, rfl, [_], _, _, [_], rfl, rfl, ?_, ?_⟩
    · decide
    · decide
  exact (ofDrawing_exchange (.single hexchange) _ _).1 rfl

end Model

end ClassDiagram
