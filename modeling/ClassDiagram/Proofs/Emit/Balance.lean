import ClassDiagram.Emit.Layout
import ClassDiagram.Proofs.Emit.Stubs
import ClassDiagram.Proofs.Text.Braces

/-!
# Balanced entities

When all that a model and the options name is balanced, so is all that an emitter is
shown of an entity (`Context.balanced_of`): also the names of other entities that it
depends on and the methods that it owes.

The header of an entity may leave braces open for the footer to close.  An emitter
*balances* when the two meet exactly and every other part leaves nothing.  The order
of the parts is the same for all emitters, so then a whole entity is balanced
(`Emitter.Balances.entityText`).
-/

namespace ClassDiagram

open Text
open Text.Unmatched (opened closed)

/-! ## Models and options -/

/-- The texts of a property are balanced. -/
structure Property.Balanced (p : Property) : Prop where
  name : Text.Balanced p.name
  type : Text.Balanced p.type
  initial : ∀ value, p.initial = some value → Text.Balanced value

/-- The texts of a parameter are balanced. -/
structure Parameter.Balanced (p : Parameter) : Prop where
  name : Text.Balanced p.name
  type : Text.Balanced p.type

/-- The texts of a method are balanced. -/
structure Method.Balanced (d : Method) : Prop where
  name : Text.Balanced d.name
  parameters : ∀ p ∈ d.parameters, p.Balanced
  returns : Text.Balanced d.returns

/-- The texts of an entity are balanced. -/
structure Entity.Balanced (e : Entity) : Prop where
  name : Text.Balanced e.name
  properties : ∀ p ∈ e.propertyList, p.Balanced
  methods : ∀ d ∈ e.methodList, d.Balanced

/-- The texts of every entity are balanced. -/
def Model.Balanced (m : Model) : Prop := ∀ e ∈ m.entities.values, e.Balanced

/-- The package and all that is imported is balanced. -/
structure Options.Balanced (o : Options) : Prop where
  package : ∀ package, o.package = some package → Text.Balanced package
  modules : ∀ t ∈ o.targets.values, ∀ i ∈ t.imports.toList, Text.Balanced i.1
  symbols : ∀ t ∈ o.targets.values, ∀ i ∈ t.imports.toList, ∀ symbols, i.2 = some symbols →
    ∀ symbol ∈ symbols, Text.Balanced symbol

instance (p : Property) : Decidable p.Balanced :=
  decidable_of_iff (Text.Balanced p.name ∧ Text.Balanced p.type ∧ ∀ v ∈ p.initial, Text.Balanced v)
    ⟨fun h => ⟨h.1, h.2.1, h.2.2⟩, fun h => ⟨h.name, h.type, h.initial⟩⟩

instance (p : Parameter) : Decidable p.Balanced :=
  decidable_of_iff (Text.Balanced p.name ∧ Text.Balanced p.type)
    ⟨fun h => ⟨h.1, h.2⟩, fun h => ⟨h.name, h.type⟩⟩

instance (d : Method) : Decidable d.Balanced :=
  decidable_of_iff
    (Text.Balanced d.name ∧ (∀ p ∈ d.parameters, p.Balanced) ∧ Text.Balanced d.returns)
    ⟨fun h => ⟨h.1, h.2.1, h.2.2⟩, fun h => ⟨h.name, h.parameters, h.returns⟩⟩

instance (e : Entity) : Decidable e.Balanced :=
  decidable_of_iff
    (Text.Balanced e.name ∧ (∀ p ∈ e.propertyList, p.Balanced) ∧ ∀ d ∈ e.methodList, d.Balanced)
    ⟨fun h => ⟨h.1, h.2.1, h.2.2⟩, fun h => ⟨h.name, h.properties, h.methods⟩⟩

instance (m : Model) : Decidable m.Balanced :=
  inferInstanceAs (Decidable (∀ e ∈ m.entities.values, e.Balanced))

instance (o : Options) : Decidable o.Balanced :=
  decidable_of_iff
    ((∀ package ∈ o.package, Text.Balanced package) ∧
      (∀ t ∈ o.targets.values, ∀ i ∈ t.imports.toList, Text.Balanced i.1) ∧
      ∀ t ∈ o.targets.values, ∀ i ∈ t.imports.toList, ∀ symbols ∈ i.2,
        ∀ symbol ∈ symbols, Text.Balanced symbol)
    ⟨fun h => ⟨h.1, h.2.1, h.2.2⟩, fun h => ⟨h.package, h.modules, h.symbols⟩⟩

/-- What the files of a target import is among what the options name. -/
theorem Options.mem_importsFor {o : Options} {target : String}
    {i : String × Option (List String)} (h : i ∈ o.importsFor target) :
    ∃ t ∈ o.targets.values, i ∈ t.imports.toList := by
  rw [importsFor] at h
  split at h
  next t ht => exact ⟨t, (OrderedMap.mem_values_iff _ _).2 ⟨target, ht⟩, h⟩
  next => cases h

namespace Model

variable {m : Model} {e : Entity}

/-- In a balanced model every entity is balanced, however it is found. -/
theorem Balanced.get? (h : m.Balanced) {id : String} (hget : m.get? id = some e) : e.Balanced :=
  h e ((OrderedMap.mem_values_iff _ _).2 ⟨id, hget⟩)

theorem Balanced.named? (h : m.Balanced) {name : String} (hnamed : m.named? name = some e) :
    e.Balanced := by
  obtain ⟨⟨id, e⟩, hfind, rfl⟩ := Option.map_eq_some_iff.1 hnamed
  exact h e (List.mem_map.2 ⟨_, List.mem_of_find?_eq_some hfind, rfl⟩)

theorem Balanced.of_mem_names (h : m.Balanced) {ids : List String} {name : String}
    (hname : name ∈ m.names ids) : Text.Balanced name := by
  obtain ⟨id, -, hid⟩ := List.mem_filterMap.1 hname
  obtain ⟨e, hget, rfl⟩ := Option.map_eq_some_iff.1 hid
  exact (h.get? hget).name

/-- A method that is owed is one of an entity of the model. -/
theorem Balanced.of_mem_owed (h : m.Balanced) {d : Method} (hd : d ∈ m.owed e) : d.Balanced := by
  obtain ⟨id, i, -, hget, hmem⟩ := mem_demanded.1 ((owes_owed m e).sublist.subset hd)
  exact (h.get? hget).methods d hmem

/-- What an entity refers to by a link or a type is the name of another one. -/
theorem Balanced.of_mem_references (h : m.Balanced) {name : String}
    (hname : name ∈ (m.dependenciesOf e).references) : Text.Balanced name := by
  rcases List.mem_append.1 hname with hrelated | htype
  · exact h.of_mem_names (List.mem_of_mem_filter hrelated)
  · obtain ⟨type, -, htype⟩ := List.mem_filterMap.1 htype
    obtain ⟨e', hnamed, rfl⟩ := Option.map_eq_some_iff.1 htype
    exact (h.named? hnamed).name

end Model

namespace Emit

/-! ## Contexts -/

/-- All that an emitter is shown of an entity is balanced. -/
structure Context.Balanced (x : Context) : Prop where
  name : Text.Balanced x.name
  package : ∀ package, x.package? = some package → Text.Balanced package
  modules : ∀ i ∈ x.configuredImports, Text.Balanced i.1
  symbols : ∀ i ∈ x.configuredImports, ∀ symbols, i.2 = some symbols →
    ∀ symbol ∈ symbols, Text.Balanced symbol
  bases : ∀ name ∈ x.dependencies.bases, Text.Balanced name
  interfaces : ∀ name ∈ x.dependencies.interfaces, Text.Balanced name
  references : ∀ name ∈ x.dependencies.references, Text.Balanced name
  properties : ∀ p ∈ x.properties, p.Balanced
  methods : ∀ d ∈ x.entity.methodList, d.Balanced
  stubs : ∀ d ∈ x.stubs, d.Balanced

variable {x : Context}

/-- The access of a property is none of its texts. -/
theorem balanced_encapsulated {p : Property} (h : p.Balanced) (o : Options) :
    (encapsulated o p).Balanced := by
  rw [encapsulated]
  split
  next => exact ⟨h.name, h.type, h.initial⟩
  next => exact h

theorem balanced_parameterFor {p : Property} (h : p.Balanced) : (parameterFor p).Balanced :=
  ⟨h.name, h.type⟩

/-- What an emitter is shown of an entity comes from the model and the options, also where it is the
name or a method of another entity. -/
theorem Context.balanced_of {m : Model} {e : Entity} {o : Options} (hm : m.Balanced)
    (he : e.Balanced) (ho : o.Balanced) (target : String) : (Context.of m e o target).Balanced where
  name := he.name
  package := by
    intro package hpackage
    obtain ⟨htrimmed, -⟩ := Option.filter_eq_some_iff.1 hpackage
    obtain ⟨raw, hraw, rfl⟩ := Option.map_eq_some_iff.1 htrimmed
    rw [balanced_iff, unmatched_trim]
    exact (ho.package raw hraw).unmatched
  modules := by
    intro i hi
    obtain ⟨t, ht, hmem⟩ := Options.mem_importsFor hi
    exact ho.modules t ht i hmem
  symbols := by
    intro i hi
    obtain ⟨t, ht, hmem⟩ := Options.mem_importsFor hi
    exact ho.symbols t ht i hmem
  bases := fun _ hname => hm.of_mem_names hname
  interfaces := fun _ hname => hm.of_mem_names hname
  references := fun _ hname => hm.of_mem_references hname
  properties := by
    intro p hp
    obtain ⟨q, hq, rfl⟩ := List.mem_map.1 hp
    exact balanced_encapsulated (he.properties q hq) o
  methods := he.methods
  stubs := by
    intro d hd
    rw [Context.stubs] at hd
    split at hd
    next => exact hm.of_mem_owed hd
    next => cases hd

namespace Context.Balanced

variable (h : x.Balanced)
include h

theorem property_of_instance {p : Property} (hp : p ∈ x.instanceProperties) : p.Balanced :=
  h.properties p (List.mem_of_mem_filter hp)

theorem of_mem_bases {name : String} (hname : name ∈ x.bases) : Text.Balanced name := by
  rw [Context.bases] at hname
  split at hname
  next => cases hname
  next => exact h.bases name hname

theorem of_mem_interfaces {name : String} (hname : name ∈ x.interfaces) : Text.Balanced name := by
  rw [Context.interfaces] at hname
  split at hname
  next => cases hname
  next => exact h.interfaces name hname

theorem of_mem_parents {name : String} (hname : name ∈ x.parents) : Text.Balanced name :=
  (List.mem_append.1 hname).elim h.of_mem_bases h.of_mem_interfaces

/-- The names that a file needs are those of entities it depends on. -/
theorem of_mem_entityImports {name : String} (hname : name ∈ x.entityImports) :
    Text.Balanced name := by
  have himports : name ∈ x.dependencies.imports := by
    rw [Context.entityImports] at hname
    split at hname
    next => exact List.mem_of_mem_filter hname
    next => exact hname
  rw [Dependencies.imports, mem_firsts, List.mem_append, List.mem_append] at himports
  rcases himports with (hbase | hinterface) | hreference
  · exact h.bases name hbase
  · exact h.interfaces name hinterface
  · exact h.references name hreference

end Context.Balanced

/-! ## Emitters -/

/-- The footer closes what the header leaves open, and every other part is balanced. -/
structure Emitter.Balances (em : Emitter) : Prop where
  ends : ∀ x, x.Balanced → unmatched (em.header x) * unmatched (em.footer x) = 1
  property : ∀ x p, x.Balanced → p.Balanced → unmatched (em.property x p) = 1
  constant : ∀ x p index, x.Balanced → p.Balanced → unmatched (em.constant x p index) = 1
  defaultConstructor : ∀ x, x.Balanced → unmatched (em.defaultConstructor x) = 1
  fullConstructor : ∀ x ps, x.Balanced → (∀ p ∈ ps, p.Balanced) →
    unmatched (em.fullConstructor x ps) = 1
  getter : ∀ x p, x.Balanced → p.Balanced → unmatched (em.getter x p) = 1
  setter : ∀ x p, x.Balanced → p.Balanced → unmatched (em.setter x p) = 1
  equality : ∀ x ps, x.Balanced → (∀ p ∈ ps, p.Balanced) → unmatched (em.equality x ps) = 1
  stringForm : ∀ x ps, x.Balanced → (∀ p ∈ ps, p.Balanced) → unmatched (em.stringForm x ps) = 1
  method : ∀ x d form, x.Balanced → d.Balanced → unmatched (em.method x d form) = 1

namespace Emitter.Balances

variable {em : Emitter} (hem : em.Balances) (hx : x.Balanced)
include hem hx

/-- A final property has no text for its setter, and nothing is left by none. -/
theorem accessors {p : Property} (hp : p.Balanced) : unmatched (em.accessors x p) = 1 := by
  rw [Emitter.accessors, unmatched_append, hem.getter x p hx hp]
  split
  next => rfl
  next => rw [hem.setter x p hx hp, one_mul]

/-- Each constructor is balanced, so it does not matter which ones are written. -/
theorem constructors : unmatched (em.constructors x) = 1 := by
  have hfull := hem.fullConstructor x _ hx fun p hp => hx.property_of_instance hp
  rw [Emitter.constructors, unmatched_append]
  split <;> split <;> simp [hem.defaultConstructor x hx, hfull]

/-- All that is made up for a class leaves nothing. -/
theorem classMembers : unmatched (em.classMembers x) = 1 := by
  have hinstance : ∀ p ∈ x.instanceProperties, p.Balanced := fun p hp => hx.property_of_instance hp
  have haccessors : unmatched (String.join ((hiddenProperties x).map (em.accessors x))) = 1 := by
    refine unmatched_join_map fun p hp => ?_
    exact hem.accessors hx (hinstance p (List.mem_of_mem_filter hp))
  rw [Emitter.classMembers, unmatched_append, unmatched_append, unmatched_append,
    hem.constructors hx, haccessors]
  split <;> split <;> simp [hem.equality x _ hx hinstance, hem.stringForm x _ hx hinstance]

/-- So do the properties, or the constants of an enumeration. -/
theorem propertyTexts : unmatched (String.join (em.propertyTexts x)) = 1 := by
  rw [Emitter.propertyTexts]
  split
  next =>
    exact unmatched_join_mapIdx fun index p hp => hem.constant x p index hx (hx.properties p hp)
  next => exact unmatched_join_map fun p hp => hem.property x p hx (hx.properties p hp)

/-- Methods leave nothing in whatever forms they are written. -/
theorem methods {ds : List Method} (hds : ∀ d ∈ ds, d.Balanced) (form : Method → BodyForm) :
    unmatched (String.join (ds.map fun d => em.method x d (form d))) = 1 :=
  unmatched_join_map fun d hd => hem.method x d (form d) hx (hds d hd)

/-- All parts between the header and the footer leave nothing, so the two meet. -/
theorem entityText : unmatched (em.entityText x) = 1 := by
  have hclass : unmatched (if x.kind.isClass then em.classMembers x else "") = 1 := by
    split
    next => exact hem.classMembers hx
    next => rfl
  have hnewline : unmatched "\n" = 1 := by decide
  rw [Emitter.entityText_eq]
  simp only [unmatched_append, hem.propertyTexts hx, hnewline, hclass, hem.methods hx hx.methods,
    hem.methods hx hx.stubs fun _ => .stub, mul_one]
  exact hem.ends x hx

end Emitter.Balances

/-! ## Layout -/

/-- A margin has no braces at any depth. -/
@[simp] theorem unmatched_margin (depth : Nat) : unmatched (margin depth) = 1 := by
  induction depth with
  | zero => rfl
  | succ depth ih =>
    rw [margin, unmatched_append, ih]
    rfl

/-- A line leaves what its text leaves. -/
@[simp] theorem unmatched_line (depth : Nat) (text : String) :
    unmatched (line depth text) = unmatched text := by
  have hend : unmatched "\n" = 1 := rfl
  rw [line, unmatched_append, unmatched_append, unmatched_margin, hend, one_mul, mul_one]

@[simp] theorem unmatched_spaced (code : String) : unmatched (spaced code) = unmatched code := by
  have hend : unmatched "\n" = 1 := rfl
  rw [spaced, unmatched_append, hend, mul_one]

/-- A block leaves nothing if its first line and its body do not. -/
@[simp] theorem unmatched_block (depth : Nat) (head body : String) :
    unmatched (block depth head body) = unmatched head * opened * unmatched body * closed := by
  rw [block, unmatched_append, unmatched_append, unmatched_line, unmatched_line, unmatched_append]
  rfl

/-- It does not matter where the brace of a block stands. -/
@[simp] theorem unmatched_blockBelow (depth : Nat) (head body : String) :
    unmatched (blockBelow depth head body) = unmatched head * opened * unmatched body * closed := by
  rw [blockBelow, unmatched_append, unmatched_append, unmatched_append, unmatched_line,
    unmatched_line, unmatched_line]
  rfl

theorem unmatched_paragraph {l : List String} (h : ∀ s ∈ l, unmatched s = 1) :
    unmatched (paragraph l) = 1 := by
  rw [paragraph]
  split
  next => rfl
  next => rw [unmatched_spaced, unmatched_join h]

theorem unmatched_commas {l : List String} (h : ∀ s ∈ l, unmatched s = 1) :
    unmatched (commas l) = 1 :=
  unmatched_intercalate rfl h

/-- A list separated by commas leaves nothing if no item does. -/
theorem unmatched_commas_map {α : Type} {l : List α} {f : α → String}
    (h : ∀ a ∈ l, unmatched (f a) = 1) : unmatched (commas (l.map f)) = 1 :=
  unmatched_commas (List.forall_mem_map.2 h)

@[simp] theorem unmatched_words (l : List String) :
    unmatched (words l) = (l.map unmatched).prod :=
  unmatched_intercalate_eq_prod rfl l

/-- A word that is there on a condition leaves something on this condition only. -/
@[simp] theorem prod_wordWhen (condition : Bool) (word : String) :
    ((wordWhen condition word).map unmatched).prod = if condition then unmatched word else 1 := by
  cases condition <;> simp [wordWhen]

@[simp] theorem unmatched_keyword (access : Access) : unmatched access.keyword = 1 := by
  cases access <;> rfl

@[simp] theorem unmatched_kind_keyword (kind : EntityKind) : unmatched kind.keyword = 1 := by
  cases kind <;> rfl

end Emit

end ClassDiagram
