import Mathlib.Data.List.Forall2
import ClassDiagram.Proofs.Recognition.Step

/-!
# Class boxes and the members put into them

The members of a class box stand under the numbers from zero on, and the box
knows the next number (`ClassBox.Numbered`).  While properties are taken in the
next number is always new, so no property is lost.  A divider sends it back to
zero, so a method may be put in the place of an earlier one.

`ClassBox.take_cases` tells apart what a cell can do to a box, and
`ClassBox.add_properties` and `ClassBox.add_methods` say what its lines do before
and after the first divider.  The class is not touched apart from the members of
the sort at hand.
-/

namespace ClassDiagram

/-! ## Lines and the members they stand for -/

theorem forall₂_of_mapM {α β ε : Type} {f : α → Except ε β} {l : List α} {r : List β}
    (h : l.mapM f = .ok r) : List.Forall₂ (fun a b => f a = .ok b) l r := by
  induction l generalizing r with
  | nil =>
    cases h
    exact .nil
  | cons a l ih =>
    rw [List.mapM_cons] at h
    cases ha : f a with
    | error e =>
      rw [ha] at h
      cases h
    | ok b =>
      cases hl : l.mapM f with
      | error e =>
        rw [ha, hl] at h
        cases h
      | ok s =>
        rw [ha, hl] at h
        cases h
        exact .cons ha (ih hl)

/-- Results that are all of one form are the images of what they are made of. -/
theorem exists_map_of_forall₂ {α β γ : Type} {R : α → β → Prop} {S : α → γ → Prop} {f : γ → β}
    (form : ∀ a b, R a b → ∃ c, b = f c ∧ S a c) {l : List α} {r : List β}
    (h : List.Forall₂ R l r) : ∃ s, r = s.map f ∧ List.Forall₂ S l s := by
  induction h with
  | nil => exact ⟨[], rfl, .nil⟩
  | cons hab _ ih =>
    obtain ⟨c, rfl, hc⟩ := form _ _ hab
    obtain ⟨s, rfl, hs⟩ := ih
    exact ⟨c :: s, rfl, .cons hc hs⟩

theorem Cell.ofLine_of_member {c : Cell} {kind : MemberKind} {line : String} {member : Member}
    (h : c.member kind line = .ok member) : Member.ofLine kind line = .ok member := by
  rw [Cell.member] at h
  cases hline : Member.ofLine kind line with
  | error e =>
    rw [hline] at h
    cases h
  | ok m =>
    rw [hline] at h
    cases h
    rfl

theorem Property.ofLine_of_member {line : String} {member : Member}
    (h : Member.ofLine .property line = .ok member) :
    ∃ p, member = .property p ∧ Property.ofLine line = .ok p := by
  rw [Member.ofLine, readMember] at h
  cases hline : readProperty line.toList with
  | error e =>
    rw [hline] at h
    cases h
  | ok p =>
    rw [hline] at h
    cases h
    exact ⟨p, rfl, by rw [ofLine, hline]; rfl⟩

theorem Method.ofLine_of_member {line : String} {member : Member}
    (h : Member.ofLine .method line = .ok member) :
    ∃ m, member = .method m ∧ Method.ofLine line = .ok m := by
  rw [Member.ofLine, readMember] at h
  cases hline : readMethod line.toList with
  | error e =>
    rw [hline] at h
    cases h
  | ok m =>
    rw [hline] at h
    cases h
    exact ⟨m, rfl, by rw [ofLine, hline]; rfl⟩

/-- The members of a cell above the divider are the properties of its lines, in their order. -/
theorem Cell.properties_of_members {c : Cell} {members : List Member}
    (h : c.members .property = .ok members) :
    ∃ ps, members = ps.map .property ∧
      List.Forall₂ (fun line p => Property.ofLine line = .ok p) c.lines ps :=
  exists_map_of_forall₂ (fun _ _ hline => Property.ofLine_of_member (ofLine_of_member hline))
    (forall₂_of_mapM h)

/-- The members of a cell below the divider are the methods of its lines, in their order. -/
theorem Cell.methods_of_members {c : Cell} {members : List Member}
    (h : c.members .method = .ok members) :
    ∃ ms, members = ms.map .method ∧
      List.Forall₂ (fun line m => Method.ofLine line = .ok m) c.lines ms :=
  exists_map_of_forall₂ (fun _ _ hline => Method.ofLine_of_member (ofLine_of_member hline))
    (forall₂_of_mapM h)

theorem exists_of_forall₂_right {α β : Type} {R : α → β → Prop} {l : List α} {r : List β}
    (h : List.Forall₂ R l r) : ∀ b ∈ r, ∃ a ∈ l, R a b := by
  induction h with
  | nil => nofun
  | cons hab _ ih =>
    intro b hb
    cases List.mem_cons.1 hb with
    | inl he => exact ⟨_, List.mem_cons_self, he ▸ hab⟩
    | inr hr =>
      obtain ⟨a, ha, hR⟩ := ih b hr
      exact ⟨a, List.mem_cons_of_mem _ ha, hR⟩

theorem BuildSummary.ofMembers_properties (ps : List Property) :
    ofMembers (ps.map .property) = { properties := ps.length } := by
  induction ps with
  | nil => rfl
  | cons p ps ih =>
    rw [List.map_cons, ofMembers_cons, ih, List.length_cons, Nat.add_comm]
    rfl

theorem BuildSummary.ofMembers_methods (ms : List Method) :
    ofMembers (ms.map .method) = { methods := ms.length } := by
  induction ms with
  | nil => rfl
  | cons m ms ih =>
    rw [List.map_cons, ofMembers_cons, ih, List.length_cons, Nat.add_comm]
    rfl

theorem Entity.members_ofCell (c : Cell) :
    (ofCell c).properties = ∅ ∧ (ofCell c).methods = ∅ := by
  rw [ofCell]
  split
  split <;> exact ⟨rfl, rfl⟩

theorem Entity.links_ofCell (c : Cell) : (ofCell c).links = {} := by
  rw [ofCell]
  split
  split <;> rfl

/-! ## The numbers of members -/

namespace ClassBox

/-- The members stand under the numbers from zero on.  The next property gets a new
number, and the next method a new one or an earlier one. -/
structure Numbered (b : ClassBox) : Prop where
  properties : b.entity.properties.Numbered
  methods : b.entity.methods.Numbered
  next_property : b.inMethods = false → b.next = b.entity.properties.size
  next_method : b.inMethods = true → b.next ≤ b.entity.methods.size

/-- The members of a new class box are numbered from zero, since there are none. -/
theorem numbered_ofCell (c : Cell) : Numbered { entity := .ofCell c } := by
  obtain ⟨hproperties, hmethods⟩ := Entity.members_ofCell c
  constructor
  · exact hproperties ▸ OrderedMap.numbered_empty
  · exact hmethods ▸ OrderedMap.numbered_empty
  · intro _
    exact hproperties ▸ rfl
  · intro h
    cases h

/-- A divider starts the count again, and the members stay numbered. -/
theorem Numbered.divide {b : ClassBox} (h : b.Numbered) : b.divide.Numbered where
  properties := h.properties
  methods := h.methods
  next_property := nofun
  next_method _ := Nat.zero_le _

/-! ## Taking in the lines of a cell -/

/-- Properties go to the end, and nothing else happens to the class. -/
theorem add_properties {b : ClassBox} (h : b.Numbered) (hregion : b.inMethods = false)
    (ps : List Property) {b' : ClassBox} (hb : (ps.map Member.property).foldl add b = b') :
    b'.Numbered ∧ b'.inMethods = false ∧
      b'.entity.properties.values = b.entity.properties.values ++ ps ∧
      b'.entity = { b.entity with properties := b'.entity.properties } := by
  subst hb
  induction ps generalizing b with
  | nil => exact ⟨h, hregion, (List.append_nil _).symm, rfl⟩
  | cons p ps ih =>
    have hnext := h.next_property hregion
    have hnew : b.next ∉ b.entity.properties.keys := hnext ▸ h.properties.notMem_keys
    have hone : (b.add (.property p)).Numbered := by
      refine ⟨h.properties.insert (Nat.le_of_eq hnext) p, h.methods, fun _ => ?_, fun hm => ?_⟩
      · have hsize : (b.add (.property p)).entity.properties.size
            = max b.entity.properties.size (b.next + 1) :=
          h.properties.size_insert (Nat.le_of_eq hnext) p
        rw [hsize, next_add]
        omega
      · rw [inMethods_add, hregion] at hm
        cases hm
    obtain ⟨hnumbered, hregion', hvalues, hentity⟩ :=
      ih hone ((inMethods_add b _).trans hregion)
    refine ⟨hnumbered, hregion', ?_, hentity⟩
    rw [List.map_cons, List.foldl_cons, hvalues, add,
      OrderedMap.values_insert_of_notMem hnew, List.append_assoc]
    rfl

/-- Methods go under the numbers that come next, and nothing else happens to the class. -/
theorem add_methods {b : ClassBox} (h : b.Numbered) (hregion : b.inMethods = true)
    (ms : List Method) {b' : ClassBox} (hb : (ms.map Member.method).foldl add b = b') :
    b'.Numbered ∧ b'.inMethods = true ∧ b'.next = b.next + ms.length ∧
      b'.entity.methods.size = max b.entity.methods.size (b.next + ms.length) ∧
      (∀ m ∈ b'.entity.methods.values, m ∈ b.entity.methods.values ∨ m ∈ ms) ∧
      b'.entity = { b.entity with methods := b'.entity.methods } := by
  subst hb
  induction ms generalizing b with
  | nil =>
    refine ⟨h, hregion, rfl, ?_, fun m hm => Or.inl hm, rfl⟩
    exact (Nat.max_eq_left (h.next_method hregion)).symm
  | cons m ms ih =>
    have hnext := h.next_method hregion
    have hsize : (b.add (.method m)).entity.methods.size
        = max b.entity.methods.size (b.next + 1) := h.methods.size_insert hnext m
    have hone : (b.add (.method m)).Numbered := by
      refine ⟨h.properties, h.methods.insert hnext m, fun hp => ?_, fun _ => ?_⟩
      · rw [inMethods_add, hregion] at hp
        cases hp
      · rw [hsize, next_add]
        exact Nat.le_max_right _ _
    obtain ⟨hnumbered, hregion', hnext', hsize', hvalues, hentity⟩ :=
      ih hone ((inMethods_add b _).trans hregion)
    refine ⟨hnumbered, hregion', ?_, ?_, fun x hx => ?_, hentity⟩
    · rw [List.map_cons, List.foldl_cons, hnext', next_add, List.length_cons]
      omega
    · rw [List.map_cons, List.foldl_cons, hsize', hsize, next_add, List.length_cons]
      omega
    · cases hvalues x hx with
      | inl hold =>
        cases OrderedMap.eq_or_mem_of_mem_values_insert hold with
        | inl he => exact Or.inr (List.mem_cons.2 (Or.inl he))
        | inr hb => exact Or.inl hb
      | inr hms => exact Or.inr (List.mem_cons_of_mem _ hms)

/-- What a cell does to a class box is settled by the cell being a divider and by the
region that the box has come to. -/
theorem take_cases {b b' : ClassBox} {c : Cell} {members : List Member}
    (h : b.take c = .ok (b', members)) :
    (c.isDivider = true ∧ b' = b.divide ∧ members = []) ∨
    (c.isDivider = false ∧ b.inMethods = false ∧ ∃ ps : List Property,
      members = ps.map .property ∧ members.foldl add b = b' ∧
      List.Forall₂ (fun line p => Property.ofLine line = .ok p) c.lines ps) ∨
    (c.isDivider = false ∧ b.inMethods = true ∧ ∃ ms : List Method,
      members = ms.map .method ∧ members.foldl add b = b' ∧
      List.Forall₂ (fun line m => Method.ofLine line = .ok m) c.lines ms) := by
  rw [take] at h
  by_cases hdivider : c.isDivider = true
  · rw [if_pos hdivider] at h
    cases h
    exact Or.inl ⟨hdivider, rfl, rfl⟩
  · rw [if_neg hdivider] at h
    have hdivider := Bool.eq_false_of_not_eq_true hdivider
    refine Or.inr ?_
    cases hregion : b.inMethods with
    | false =>
      have hkind : b.memberKind = .property := by rw [memberKind, hregion]; rfl
      cases hmembers : c.members .property with
      | error e =>
        rw [hkind, hmembers] at h
        cases h
      | ok members =>
        rw [hkind, hmembers] at h
        cases h
        obtain ⟨ps, hps, hlines⟩ := Cell.properties_of_members hmembers
        exact Or.inl ⟨hdivider, rfl, ps, hps, rfl, hlines⟩
    | true =>
      have hkind : b.memberKind = .method := by rw [memberKind, hregion]; rfl
      cases hmembers : c.members .method with
      | error e =>
        rw [hkind, hmembers] at h
        cases h
      | ok members =>
        rw [hkind, hmembers] at h
        cases h
        obtain ⟨ms, hms, hlines⟩ := Cell.methods_of_members hmembers
        exact Or.inr ⟨hdivider, rfl, ms, hms, rfl, hlines⟩

end ClassBox

end ClassDiagram
