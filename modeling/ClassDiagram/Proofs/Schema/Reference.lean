import ClassDiagram.Schema.Backend
import ClassDiagram.Proofs.OrderedMap

/-!
# Tables and the references between them

A context shows the properties of an entity with the access that the options give them.
Nothing in a table depends on the access, so the table written for a context is that of
the entity (`entityText_of`).

A column that refers to a table takes the type of its key (`propertyType_of_named`)
and its clause names the key (`ofProperty?_of_named`).  Both go by the property that
is the key, and not by what the table of the key makes of it:

* a static key is no column of its table, although clauses name it;
* a key may be a reference itself.  Its own column then has the type of the key
  one step further, but a reference to it is given the type that the key is
  declared with.

`reference_fits_iff` says that nothing else can go wrong.
-/

namespace ClassDiagram.Schema

variable {d : Dialect} {m : Model} {e target : Entity} {p key : Property}

/-- The entities that become tables. -/
def tableEntities (m : Model) : List Entity := m.entities.values.filter (·.kind == .concrete)

/-! ## The table of a context -/

/-- The columns of a context are those of its entity, with other access. -/
theorem instanceProperties_of (m : Model) (e : Entity) (o : Options) (target : String) :
    (Emit.Context.of m e o target).instanceProperties
      = (columnProperties e).map (Emit.encapsulated o) := by
  show (e.propertyList.map (Emit.encapsulated o)).filter (!·.isStatic) = _
  rw [List.filter_map, columnProperties]
  simp only [Function.comp_def, Emit.isStatic_encapsulated]

/-- A column does not depend on the access of its property. -/
theorem ofProperty_encapsulated (d : Dialect) (m : Model) (o : Options) (p : Property) :
    Column.ofProperty d m (Emit.encapsulated o p) = Column.ofProperty d m p := by
  rw [Emit.encapsulated]
  split <;> rfl

/-- Neither does the reference that it stands for. -/
theorem ofProperty?_encapsulated (m : Model) (o : Options) (p : Property) :
    ForeignKey.ofProperty? m (Emit.encapsulated o p) = ForeignKey.ofProperty? m p := by
  rw [Emit.encapsulated]
  split <;> rfl

/-- Properties make the same table whatever access the options give them. -/
theorem ofProperties_encapsulated (d : Dialect) (m : Model) (name : String) (o : Options)
    (ps : List Property) : Table.ofProperties d m name (ps.map (Emit.encapsulated o))
      = .ofProperties d m name ps := by
  have hprimary (p : Property) :
      (Emit.encapsulated o p).constraints = p.constraints ∧
        (Emit.encapsulated o p).name = p.name := by
    rw [Emit.encapsulated]
    split <;> exact ⟨rfl, rfl⟩
  simp only [Table.ofProperties, List.map_map, List.filter_map, List.filterMap_map,
    Function.comp_def, ofProperty_encapsulated, ofProperty?_encapsulated, hprimary]

/-- The table written for a context is that of the entity. -/
theorem entityText_of (d : Dialect) (m : Model) (e : Entity) (o : Options) (target : String) :
    entityText d (.of m e o target) = (Table.ofEntity d m e).text d := by
  rw [entityText, instanceProperties_of, ofProperties_encapsulated]
  rfl

/-- The file for the table of one entity. -/
def tableFile (d : Dialect) (m : Model) (e : Entity) : Emit.File :=
  ((emitter d).fileName e, (Table.ofEntity d m e).text d)

/-- It is what the backend writes for the entity. -/
theorem fileFor_eq_tableFile (d : Dialect) (m : Model) (o : Options) :
    (emitter d).fileFor (entityText d) m o = tableFile d m :=
  funext fun e => Prod.ext rfl (entityText_of d m e o (emitter d).name)

/-! ## Clauses -/

theorem targetOf?_eq_some {target : String} (h : targetOf? m p = some target) :
    target = p.constraints.foreignTarget.getD p.type := by
  rw [targetOf?] at h
  cases htarget : p.constraints.foreignTarget with
  | some t =>
    rw [htarget] at h
    cases h
    rfl
  | none =>
    simp only [htarget] at h
    split at h
    next =>
      cases h
      rfl
    next => cases h

/-- A foreign key refers to the table that its property is about. -/
theorem of_ofProperty? {k : ForeignKey} (h : ForeignKey.ofProperty? m p = some k) :
    p.constraints.foreign = true ∧ k.table = parentName m p := by
  rw [ForeignKey.ofProperty?] at h
  split at h
  next hforeign =>
    obtain ⟨target, htarget, hk⟩ := Option.map_eq_some_iff.1 h
    refine ⟨hforeign, ?_⟩
    rw [parentName, ← targetOf?_eq_some htarget, ← hk]
    cases m.named? target <;> rfl
  next => cases h

/-- A foreign property whose type names an entity refers to the key of the entity. -/
theorem ofProperty?_of_named (hforeign : p.constraints.foreign = true)
    (htarget : p.constraints.foreignTarget = none) (hnamed : m.named? p.type = some target)
    (hkey : keyOf? target = some key) :
    ForeignKey.ofProperty? m p = some ⟨p.name, target.name, key.name⟩ := by
  have hname : targetOf? m p = some p.type := by simp [targetOf?, htarget, hnamed]
  simp [ForeignKey.ofProperty?, hforeign, hname, hnamed, hkey]

theorem text_mem_of_mem_columns {t : Table} {c : Column} (h : c ∈ t.columns) :
    c.text d ∈ t.itemTexts d := by
  rw [Table.itemTexts, List.mem_append, List.mem_append]
  exact Or.inl (Or.inl (List.mem_map_of_mem h))

/-- Every foreign key of a table is among its items, under some number. -/
theorem text_mem_of_mem_foreignKeys {t : Table} {k : ForeignKey} (h : k ∈ t.foreignKeys) :
    ∃ number, k.text d t.name number ∈ t.itemTexts d := by
  obtain ⟨i, hi, rfl⟩ := List.getElem_of_mem h
  refine ⟨i + 1, ?_⟩
  rw [Table.itemTexts, List.mem_append]
  exact Or.inr (List.mem_mapIdx.2 ⟨i, hi, rfl⟩)

/-! ## Types -/

/-- A property that is filled in with a value that is given. -/
def given (p : Property) : Property :=
  { p with constraints := withoutAutoValue p.constraints }

/-- The physical type of a column that refers to an entity. -/
def referenceType (d : Dialect) (target : Entity) : String :=
  match keyOf? target with
  | some key => d.columnType key.type (withoutAutoValue key.constraints)
  | none => d.columnType fallbackKeyType {}

theorem referenceType_of_key (h : keyOf? target = some key) :
    referenceType d target = d.columnType key.type (withoutAutoValue key.constraints) := by
  rw [referenceType, h]

theorem propertyType_of_named (h : m.named? p.type = some target) :
    propertyType d m p = referenceType d target := by
  rw [propertyType, h]
  rfl

theorem propertyType_of_unnamed (h : m.named? p.type = none) :
    propertyType d m p = d.columnType p.type p.constraints := by
  rw [propertyType, h]

/-- A reference has the type of the key unless the key is a reference itself. -/
theorem propertyType_eq_iff (hnamed : m.named? p.type = some target)
    (hkey : keyOf? target = some key) :
    propertyType d m p = propertyType d m (given key) ↔
      ∀ next, m.named? key.type = some next → referenceType d target = referenceType d next := by
  rw [propertyType_of_named hnamed]
  have htype : (given key).type = key.type := rfl
  cases hnext : m.named? key.type with
  | none =>
    rw [propertyType_of_unnamed (htype ▸ hnext), referenceType_of_key hkey]
    exact iff_of_true rfl nofun
  | some next =>
    rw [propertyType_of_named (htype ▸ hnext)]
    constructor
    · rintro h _ ⟨⟩
      exact h
    · intro h
      exact h next rfl

/-! ## Keys among the columns -/

theorem mem_of_keyOf? (h : keyOf? e = some key) : key ∈ e.propertyList := by
  rw [keyOf?] at h
  split at h
  next hprimary =>
    cases h
    exact (List.mem_filter.1 (hprimary ▸ List.mem_singleton_self _)).1
  next => exact List.mem_of_find?_eq_some h

/-- The key of a table is one of its columns, unless it is static and no other has its name. -/
theorem key_mem_columns_iff (h : keyOf? e = some key) :
    (∃ c ∈ (Table.ofEntity d m e).columns, c.name = key.name) ↔
      key.isStatic = false ∨ ∃ q ∈ columnProperties e, q.name = key.name := by
  have hcolumns : (∃ c ∈ (Table.ofEntity d m e).columns, c.name = key.name) ↔
      ∃ q ∈ columnProperties e, q.name = key.name := by
    simp only [Table.ofEntity, Table.ofProperties, List.mem_map, exists_exists_and_eq_and]
    rfl
  rw [hcolumns, iff_or_self]
  intro hstatic
  exact ⟨key, List.mem_filter.2 ⟨mem_of_keyOf? h, by simp [hstatic]⟩, rfl⟩

/-- The clause of a reference names a column of the table it refers to unless the key of
that table is static and no column has its name.  The column has the type of the key unless
the key is a reference itself, to a table whose key is of another type. -/
theorem reference_fits_iff (hp : p ∈ columnProperties e) (hforeign : p.constraints.foreign = true)
    (htarget : p.constraints.foreignTarget = none) (hnamed : m.named? p.type = some target)
    (hkey : keyOf? target = some key) :
    (∃ number, (ForeignKey.mk p.name target.name key.name).text d e.name number
        ∈ (Table.ofEntity d m e).itemTexts d) ∧
      ((∃ c ∈ (Table.ofEntity d m target).columns, c.name = key.name) ↔
        key.isStatic = false ∨ ∃ q ∈ columnProperties target, q.name = key.name) ∧
      (Column.ofProperty d m p).text d ∈ (Table.ofEntity d m e).itemTexts d ∧
      ((Column.ofProperty d m p).type = (Column.ofProperty d m (given key)).type ↔
        ∀ next, m.named? key.type = some next →
          referenceType d target = referenceType d next) := by
  refine ⟨?_, key_mem_columns_iff hkey, ?_, propertyType_eq_iff hnamed hkey⟩
  · have hclause := ofProperty?_of_named hforeign htarget hnamed hkey
    exact text_mem_of_mem_foreignKeys (List.mem_filterMap.2 ⟨p, hp, hclause⟩)
  · exact text_mem_of_mem_columns (List.mem_map_of_mem hp)

/-- The property by which an item refers to its tag. -/
def labelled : Property := { name := "tag", type := "Tag", constraints := { foreign := true } }

/-- The code of a tag, a key that is static. -/
def code : Property :=
  { name := "code", type := "int32", constraints := { primary := true, isStatic := true } }

/-- An item with a tag. -/
def item : Entity := { name := "Item", properties := .ofList [(0, labelled)] }

/-- A tag with its code. -/
def tag : Entity := { name := "Tag", properties := .ofList [(0, code)] }

/-- Items refer to tags, of which the key is static. -/
def inventory : Model := ⟨.ofList [("i", item), ("t", tag)]⟩

/-- A static key is no column of its table, though a reference to it has the type of the key. -/
theorem reference_fits_iff_inventory :
    (¬ ∃ c ∈ (Table.ofEntity ansi inventory tag).columns, c.name = code.name) ∧
      (Column.ofProperty ansi inventory labelled).type
        = (Column.ofProperty ansi inventory (given code)).type := by
  have hkey : keyOf? tag = some code := by decide
  have hnamed : inventory.named? labelled.type = some tag := by decide
  obtain ⟨-, hcolumn, -, htype⟩ := reference_fits_iff (d := ansi) (e := item) (by decide) rfl rfl
    hnamed hkey
  constructor
  · rw [hcolumn]
    decide
  · rw [htype]
    intro next hnext
    have hnone : inventory.named? code.type = none := by decide
    cases hnone.symm.trans hnext

/-- The property by which an order refers to its customer. -/
def buyer : Property :=
  { name := "customer", type := "Customer", constraints := { foreign := true } }

/-- The account of a customer, which is also the customer's key. -/
def billed : Property :=
  { name := "account", type := "Account", constraints := { primary := true, foreign := true } }

/-- An order of a customer. -/
def order : Entity := { name := "Order", properties := .ofList [(0, buyer)] }

/-- A customer with an account. -/
def customer : Entity := { name := "Customer", properties := .ofList [(0, billed)] }

/-- An account with a number for its key. -/
def account : Entity :=
  { name := "Account",
    properties := .ofList [(0, { name := "id", type := "int64",
                                 constraints := { primary := true } })] }

/-- Orders refer to customers, of which the key refers to accounts. -/
def shop : Model := ⟨.ofList [("o", order), ("c", customer), ("a", account)]⟩

/-- A reference to a table whose key is a reference does not have the type of that key. -/
theorem not_reference_fits : ¬ ∀ (d : Dialect) (m : Model) (e target : Entity) (p key : Property),
    e ∈ tableEntities m → target ∈ tableEntities m → p ∈ columnProperties e →
    p.constraints.foreign = true → p.constraints.foreignTarget = none →
    m.named? p.type = some target → keyOf? target = some key →
    (∃ c ∈ (Table.ofEntity d m target).columns, c.name = key.name) ∧
      (Column.ofProperty d m p).type = (Column.ofProperty d m (given key)).type := by
  intro hall
  obtain ⟨-, htype⟩ := hall ansi shop order customer buyer billed (by decide) (by decide)
    (by decide) rfl rfl (by decide) (by decide)
  have hkey : (Column.ofProperty ansi shop (given billed)).type = "BIGINT" := by decide
  have hreference : (Column.ofProperty ansi shop buyer).type = "Account" := by decide
  rw [hkey, hreference] at htype
  revert htype
  decide

end ClassDiagram.Schema
