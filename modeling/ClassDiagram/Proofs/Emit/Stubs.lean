import ClassDiagram.Emit.Java
import ClassDiagram.Emit.Backend
import ClassDiagram.Proofs.Model.Interface

/-!
# The methods that are written

An emitter is asked for a text for each declared method and, in a class, for a
stub of each method that the class owes.  It is asked for nothing else: with
another hook for methods, only these texts change (`entityText_calls`).

`Owes` says which methods a class owes without the walk that finds them.  Every
name that an interface above it has is declared or owed.  No name is owed twice,
and of several methods with one name the one that is demanded first counts.
-/

namespace ClassDiagram

namespace Model

variable {m : Model} {e : Entity}

/-- The methods that an entity owes, in the order in which they are demanded. -/
structure Owes (m : Model) (e : Entity) (owed : List Method) : Prop where
  sublist : owed.Sublist (m.demanded e.links.interfaces)
  nodup : (owed.map (·.name)).Nodup
  undeclared : ∀ d ∈ owed, e.declares d.name = false
  first : ∀ d ∈ owed, (m.demanded e.links.interfaces).find? (·.name == d.name) = some d
  complete : ∀ id i, m.Reaches e.links.interfaces id → m.get? id = some i →
    ∀ d ∈ i.methodList, e.declares d.name = true ∨ d.name ∈ owed.map (·.name)

/-- A method is demanded if it belongs to an interface that can be reached. -/
theorem mem_demanded {ids : List String} {d : Method} :
    d ∈ m.demanded ids ↔ ∃ id i, m.Reaches ids id ∧ m.get? id = some i ∧ d ∈ i.methodList := by
  rw [demanded_eq_flatMap, List.mem_flatMap]
  constructor
  · rintro ⟨id, hid, hd⟩
    obtain ⟨hcontains, hreach⟩ := mem_interfaceIds.1 hid
    obtain ⟨i, hget⟩ := get?_of_contains hcontains
    rw [methodsAt, hget] at hd
    exact ⟨id, i, hreach, hget, hd⟩
  · rintro ⟨id, i, hreach, hget, hd⟩
    refine ⟨id, mem_interfaceIds.2 ⟨contains_of_get? hget, hreach⟩, ?_⟩
    rw [methodsAt, hget]
    exact hd

/-- A method that is owed is the first of its name to be demanded, since methods with one name are
all declared or all not. -/
theorem find?_demanded_of_mem_owed {d : Method} (h : d ∈ m.owed e) :
    (m.demanded e.links.interfaces).find? (·.name == d.name) = some d := by
  have hfirst := find?_of_mem_firstsByFrom h
  have hmem := (mem_firstsByFrom h).1
  rw [List.mem_filter] at hmem
  rw [List.find?_filter] at hfirst
  rw [← hfirst]
  congr 1
  funext a
  by_cases hname : a.name = d.name
  · simpa [hname] using hmem.2
  · simp [hname]

/-- The list of the model is what a class owes. -/
theorem owes_owed (m : Model) (e : Entity) : m.Owes e (m.owed e) where
  sublist := (firstsBy_sublist _).trans List.filter_sublist
  nodup := nodup_map_firstsBy _
  undeclared := by
    intro d hd
    have hmem := (mem_firstsByFrom hd).1
    rw [List.mem_filter] at hmem
    simpa using hmem.2
  first := fun d hd => find?_demanded_of_mem_owed hd
  complete := by
    intro id i hreach hget d hd
    cases hdeclared : e.declares d.name with
    | true => exact Or.inl rfl
    | false =>
      have hmem : d ∈ (m.demanded e.links.interfaces).filter fun d => !e.declares d.name := by
        rw [List.mem_filter]
        exact ⟨mem_demanded.2 ⟨id, i, hreach, hget, hd⟩, by simp [hdeclared]⟩
      obtain ⟨s, hs, hname⟩ := exists_mem_firstsByFrom hmem (List.not_mem_nil (a := d.name))
      exact Or.inr (List.mem_map.2 ⟨s, hs, hname⟩)

end Model

namespace Emit

/-- No declared method is written as a stub. -/
theorem BodyForm.of_ne_stub (kind : EntityKind) (d : Method) : BodyForm.of kind d ≠ .stub := by
  cases kind with
  | concrete => nofun
  | interface => nofun
  | enumeration => nofun
  | abstract =>
    rw [BodyForm.of]
    split <;> nofun

/-- An entity is the concatenation of its parts, with the methods and the stubs apart. -/
theorem Emitter.entityText_eq (em : Emitter) (x : Context) :
    em.entityText x = em.header x ++ String.join (em.propertyTexts x) ++ "\n"
      ++ (if x.kind.isClass then em.classMembers x else "")
      ++ String.join (x.entity.methodList.map fun d => em.method x d (.of x.kind d))
      ++ String.join (x.stubs.map fun d => em.method x d .stub) ++ em.footer x := by
  simp only [entityText, bodyText, methodCalls, List.map_append, List.map_map, String.join_append,
    String.append_assoc, Function.comp_def]

/-- Whatever an emitter writes for methods, it writes it for each declared method in its own
form, then for each owed method of a class as a stub, and nowhere else. -/
theorem entityText_calls (em : Emitter) (m : Model) (e : Entity) (o : Options) (target : String) :
    (∀ hook : Context → Method → BodyForm → String,
      ({ em with method := hook } : Emitter).backend.entityText (.of m e o target) =
        em.header (.of m e o target) ++ String.join (em.propertyTexts (.of m e o target)) ++ "\n"
          ++ (if e.kind.isClass then em.classMembers (.of m e o target) else "")
          ++ String.join (e.methodList.map fun d => hook (.of m e o target) d (.of e.kind d))
          ++ String.join
            ((if e.kind.isClass then m.owed e else []).map fun d => hook (.of m e o target) d .stub)
          ++ em.footer (.of m e o target)) ∧
      (∀ d, BodyForm.of e.kind d ≠ .stub) ∧ m.Owes e (m.owed e) := by
  refine ⟨fun hook => ?_, BodyForm.of_ne_stub e.kind, Model.owes_owed m e⟩
  exact Emitter.entityText_eq { em with method := hook } (.of m e o target)

/-- A class that realises itself and an interface. -/
def worker : Entity :=
  { name := "Worker", methods := .ofList [(0, { name := "run" })],
    links := { interfaces := ["c", "a"] } }

/-- The worker with its interface and another one.  The two realise each other, and both have
a method with one name. -/
def circle : Model :=
  ⟨.ofList
    [("c", worker),
     ("a", { kind := .interface, name := "Task",
             methods := .ofList [(0, { name := "run" }), (1, { name := "stop" })],
             links := { interfaces := ["b"] } }),
     ("b", { kind := .interface, name := "Timer",
             methods := .ofList [(0, { name := "stop", returns := "bool" }),
               (1, { name := "pause" })],
             links := { interfaces := ["a"] } })]⟩

/-- The worker owes what either interface has and is not declared. -/
theorem entityText_calls_circle :
    "stop" ∈ (circle.owed worker).map (·.name) ∧ "pause" ∈ (circle.owed worker).map (·.name) ∧
      "run" ∉ (circle.owed worker).map (·.name) := by
  obtain ⟨-, -, howes⟩ := entityText_calls java circle worker {} "java"
  have ha : circle.Reaches worker.links.interfaces "a" := ⟨"a", by decide, .refl⟩
  have hb : circle.Reaches worker.links.interfaces "b" := ha.tail ⟨_, rfl, by decide⟩
  have hstop := howes.complete "a" _ ha rfl { name := "stop" } (by decide)
  have hpause := howes.complete "b" _ hb rfl { name := "pause" } (by decide)
  refine ⟨hstop.resolve_left (by decide), hpause.resolve_left (by decide), fun hrun => ?_⟩
  obtain ⟨d, hd, hname⟩ := List.mem_map.1 hrun
  have hdeclared := howes.undeclared d hd
  rw [hname] at hdeclared
  revert hdeclared
  decide

end Emit

end ClassDiagram
