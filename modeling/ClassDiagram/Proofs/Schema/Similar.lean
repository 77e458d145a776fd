import Mathlib.Data.List.Forall2
import ClassDiagram.Proofs.Model.Embedding
import ClassDiagram.Proofs.Schema.Reference
import ClassDiagram.Schema.Backend

/-!
# What a schema goes by

A schema looks at the kinds and names of entities and at their properties, but for the
access.  Two entities that agree in these are *similar*.  A table also needs what the
names stand for that the properties mention, so similar entities have the same table
where these names stand for similar entities (`SimilarIn.table`).

The order of creation goes by the same.  So two models whose entities are similar, one
by one, have the same schema, in one script or file by file (`files_congr`).  Cells,
links, methods, stereotypes and access do not show in it, and of the options only those
of the script do (`files_noninterference`).
-/

namespace ClassDiagram.Schema

variable {d : Dialect} {m m' : Model} {e e' : Entity} {p : Property}

/-- Two entities that a schema does not tell apart. -/
structure Similar (e e' : Entity) : Prop where
  kind : e'.kind = e.kind
  name : e'.name = e.name
  properties : e'.propertyList.map Property.hidden = e.propertyList.map Property.hidden

/-- Two entities that a schema does not tell apart in their models. -/
structure SimilarIn (m m' : Model) (e e' : Entity) : Prop extends Similar e e' where
  named? : ∀ name ∈ e.mentions, Option.Rel Similar (m.named? name) (m'.named? name)

/-! ## Properties but for their access -/

section

variable {l l' : List Property} (h : l'.map Property.hidden = l.map Property.hidden)
include h

theorem map_of_hidden {α : Type} {f : Property → α} (hf : ∀ p, f p.hidden = f p) :
    l'.map f = l.map f := by
  have hfactor (l : List Property) : l.map f = (l.map Property.hidden).map f := by
    simp only [List.map_map, Function.comp_def, hf]
  rw [hfactor l', hfactor l, h]

theorem filterMap_of_hidden {α : Type} {f : Property → Option α} (hf : ∀ p, f p.hidden = f p) :
    l'.filterMap f = l.filterMap f := by
  have hfactor (l : List Property) : l.filterMap f = (l.map Property.hidden).filterMap f := by
    simp only [List.filterMap_map, Function.comp_def, hf]
  rw [hfactor l', hfactor l, h]

/-- A filter that does not look at visibility keeps the same properties. -/
theorem hidden_filter {q : Property → Bool} (hq : ∀ p, q p.hidden = q p) :
    (l'.filter q).map Property.hidden = (l.filter q).map Property.hidden := by
  have hfactor (l : List Property) :
      (l.filter q).map Property.hidden = (l.map Property.hidden).filter q := by
    simp only [List.filter_map, Function.comp_def, hq]
  rw [hfactor l', hfactor l, h]

theorem hidden_find? {q : Property → Bool} (hq : ∀ p, q p.hidden = q p) :
    (l'.find? q).map Property.hidden = (l.find? q).map Property.hidden := by
  rw [← List.head?_filter, ← List.head?_filter, ← List.head?_map, ← List.head?_map,
    hidden_filter h hq]

end

/-! ## Tables -/

/-- The key of an entity is its only primary property, or else the one with the usual name. -/
theorem keyOf?_eq (e : Entity) : keyOf? e =
    if (e.propertyList.filter (·.constraints.primary)).length = 1 then
      (e.propertyList.filter (·.constraints.primary)).head?
    else e.propertyList.find? (·.name == fallbackKey) := by
  rw [keyOf?]
  split
  next key hkey => simp [hkey]
  next hnone =>
    rw [if_neg]
    intro hlength
    obtain ⟨key, hkey⟩ := List.length_eq_one_iff.1 hlength
    exact hnone key hkey

namespace Similar

variable (h : Similar e e')
include h

theorem columnProperties : (columnProperties e').map Property.hidden =
    (Schema.columnProperties e).map Property.hidden :=
  hidden_filter h.properties fun _ => rfl

theorem keyOf? : (keyOf? e').map Property.hidden = (Schema.keyOf? e).map Property.hidden := by
  have hprimary := hidden_filter (q := fun p => p.constraints.primary) h.properties fun _ => rfl
  have hlength := congrArg List.length hprimary
  rw [List.length_map, List.length_map] at hlength
  have hfind := hidden_find? (q := fun p => p.name == fallbackKey) h.properties fun _ => rfl
  rw [keyOf?_eq, keyOf?_eq, hlength]
  split
  next => rw [← List.head?_map, ← List.head?_map, hprimary]
  next => exact hfind

theorem keyName : (Schema.keyOf? e').map (·.name) = (Schema.keyOf? e).map (·.name) := by
  have hfactor (key? : Option Property) :
      key?.map (·.name) = (key?.map Property.hidden).map (·.name) := by
    rw [Option.map_map]
    rfl
  rw [hfactor (Schema.keyOf? e'), hfactor (Schema.keyOf? e), h.keyOf?]

theorem referenceType : referenceType d e' = Schema.referenceType d e := by
  have hfactor (e : Entity) : Schema.referenceType d e =
      (((Schema.keyOf? e).map Property.hidden).map fun key =>
        d.columnType key.type (withoutAutoValue key.constraints)).getD
          (d.columnType fallbackKeyType {}) := by
    rw [Schema.referenceType]
    cases Schema.keyOf? e <;> rfl
  rw [hfactor e', hfactor e, h.keyOf?]

end Similar

theorem mem_mentions_type (hp : p ∈ e.propertyList) : p.type ∈ e.mentions :=
  List.mem_append_left _ (List.mem_append_left _ (List.mem_map_of_mem hp))

/-- The name of the table that a foreign key is about is mentioned. -/
theorem mem_mentions_target (hp : p ∈ e.propertyList) :
    p.constraints.foreignTarget.getD p.type ∈ e.mentions := by
  cases htarget : p.constraints.foreignTarget with
  | none => exact mem_mentions_type hp
  | some target =>
    have hmem : target ∈ e.propertyList.filterMap (·.constraints.foreignTarget) :=
      List.mem_filterMap.2 ⟨p, hp, htarget⟩
    exact List.mem_append_left _ (List.mem_append_right _ hmem)

theorem name_of_rel {a b : Option Entity} (h : Option.Rel Similar a b) :
    b.map (·.name) = a.map (·.name) := by
  cases h with
  | none => rfl
  | some h => exact congrArg some h.name

/-- The type of a column depends on the entity that its type names only up to similarity. -/
theorem propertyType_congr (h : Option.Rel Similar (m.named? p.type) (m'.named? p.type)) :
    propertyType d m' p = propertyType d m p := by
  cases hm : m.named? p.type with
  | none =>
    cases hm' : m'.named? p.type with
    | none => rw [propertyType_of_unnamed hm, propertyType_of_unnamed hm']
    | some target =>
      rw [hm, hm'] at h
      cases h
  | some target =>
    cases hm' : m'.named? p.type with
    | none =>
      rw [hm, hm'] at h
      cases h
    | some target' =>
      rw [hm, hm'] at h
      cases h with
      | some h => rw [propertyType_of_named hm, propertyType_of_named hm', h.referenceType]

namespace SimilarIn

variable (h : SimilarIn m m' e e')
include h

/-- A property of similar models has the same foreign key. Its target is a name that the entity
mentions, whether the constraint or the type gives it. -/
theorem ofProperty? (hp : p ∈ e.propertyList) :
    ForeignKey.ofProperty? m' p = ForeignKey.ofProperty? m p := by
  have hsome : (m'.named? p.type).isSome = (m.named? p.type).isSome := by
    have hname := congrArg Option.isSome (name_of_rel (h.named? _ (mem_mentions_type hp)))
    rwa [Option.isSome_map, Option.isSome_map] at hname
  have htarget : targetOf? m' p = targetOf? m p := by rw [targetOf?, targetOf?, hsome]
  rw [ForeignKey.ofProperty?, ForeignKey.ofProperty?, htarget]
  split
  next =>
    refine Option.map_congr fun target ht => ?_
    have hrel := h.named? target (targetOf?_eq_some ht ▸ mem_mentions_target hp)
    revert hrel
    cases m.named? target <;> cases m'.named? target <;> intro hrel <;> cases hrel
    next => rfl
    next hsimilar => simp only [hsimilar.name, hsimilar.keyName]
  next => rfl

/-- Entities that a schema does not tell apart have the same table. -/
theorem table : Table.ofEntity d m' e' = Table.ofEntity d m e := by
  have hcolumns : (columnProperties e').map (Column.ofProperty d m') =
      (columnProperties e).map (Column.ofProperty d m) := by
    rw [map_of_hidden h.columnProperties fun _ => rfl]
    refine List.map_congr_left fun p hp => ?_
    have hmention := mem_mentions_type (List.mem_of_mem_filter hp)
    rw [Column.ofProperty, Column.ofProperty, propertyType_congr (h.named? _ hmention)]
  have hprimary : ((columnProperties e').filter (·.constraints.primary)).map (·.name) =
      ((columnProperties e).filter (·.constraints.primary)).map (·.name) :=
    map_of_hidden (hidden_filter h.columnProperties fun _ => rfl) fun _ => rfl
  have hforeign : (columnProperties e').filterMap (ForeignKey.ofProperty? m') =
      (columnProperties e).filterMap (ForeignKey.ofProperty? m) := by
    rw [filterMap_of_hidden h.columnProperties fun _ => rfl]
    exact List.filterMap_congr fun p hp => h.ofProperty? (List.mem_of_mem_filter hp)
  rw [Table.ofEntity, Table.ofEntity, Table.ofProperties, Table.ofProperties, h.name, hcolumns,
    hprimary, hforeign]

/-! ## The order of creation -/

theorem parentName (hp : p ∈ e.propertyList) :
    Schema.parentName m' p = Schema.parentName m p := by
  rw [Schema.parentName, Schema.parentName, name_of_rel (h.named? _ (mem_mentions_target hp))]

omit h in
theorem lastPlace?_congr {entities entities' : List Entity}
    (h : entities'.map (·.name) = entities.map (·.name)) :
    lastPlace? entities' = lastPlace? entities := by
  funext name
  have hplace (entities : List Entity) : lastPlace? entities name =
      ((List.range (entities.map (·.name)).length).filter fun i =>
        (entities.map (·.name))[i]? == some name).getLast? := by
    simp only [lastPlace?, List.length_map, List.getElem?_map]
  rw [hplace, hplace, h]

theorem parentsAt {entities entities' : List Entity}
    (hnames : entities'.map (·.name) = entities.map (·.name)) (place : Nat) :
    parentsAt m' entities' place e' = Schema.parentsAt m entities place e := by
  have hforeign := hidden_filter (q := fun p => p.constraints.foreign) h.properties fun _ => rfl
  have hparents : (e'.propertyList.filter (·.constraints.foreign)).filterMap
        (fun p => lastPlace? entities' (Schema.parentName m' p)) =
      (e.propertyList.filter (·.constraints.foreign)).filterMap
        fun p => lastPlace? entities (Schema.parentName m p) := by
    rw [filterMap_of_hidden hforeign fun _ => rfl, lastPlace?_congr hnames]
    exact List.filterMap_congr fun p hp => by rw [h.parentName (List.mem_of_mem_filter hp)]
  rw [Schema.parentsAt, Schema.parentsAt, hparents]

end SimilarIn

/-! ## Schemas -/

section

variable {α β : Type} {r : α → α → Prop} {l l' : List α} (h : List.Forall₂ r l l')
include h

theorem map_congr_forall₂ {f g : α → β} (hfg : ∀ a b, r a b → g b = f a) : l'.map g = l.map f := by
  induction h with
  | nil => rfl
  | cons hab _ ih => rw [List.map_cons, List.map_cons, hfg _ _ hab, ih]

theorem mapIdx_congr_forall₂ {f g : Nat → α → β} (hfg : ∀ i a b, r a b → g i b = f i a) :
    l'.mapIdx g = l.mapIdx f := by
  induction h generalizing f g with
  | nil => rfl
  | cons hab _ ih =>
    rw [List.mapIdx_cons, List.mapIdx_cons, hfg 0 _ _ hab, ih fun i => hfg (i + 1)]

end

/-- Similar entities are created in the same order. -/
theorem creationOrder_congr {entities entities' : List Entity}
    (h : List.Forall₂ (SimilarIn m m') entities entities') :
    creationOrder m' entities' = creationOrder m entities := by
  have hnames : entities'.map (·.name) = entities.map (·.name) :=
    map_congr_forall₂ h fun _ _ hsimilar => hsimilar.name
  have hparents := mapIdx_congr_forall₂ h fun place _ _ hsimilar =>
    hsimilar.parentsAt hnames place
  rw [creationOrder, creationOrder, hparents, h.length_eq]

/-- Similar entities have the same table. -/
theorem SimilarIn.tableFile (h : SimilarIn m m' e e') :
    tableFile d m' e' = Schema.tableFile d m e := by
  rw [Schema.tableFile, Schema.tableFile, h.table, Emit.Emitter.fileName, Emit.Emitter.fileName,
    h.name]

/-- The name of the one script, if the options ask for one. -/
def scriptFile? (o : Options) : Option String :=
  ((o.target? "sql").filter (·.singleScript)).map (·.scriptName.getD defaultScriptName)

/-- There is one script, or else one file for every table. -/
theorem files_eq (d : Dialect) (m : Model) (o : Options) : files d m o =
    (scriptFile? o).elim ((tableEntities m).map (tableFile d m)) fun name =>
      [(name, script ((tableEntities m).map (tableFile d m))
        (creationOrder m (tableEntities m)))] := by
  have hname : (emitter d).name = "sql" := rfl
  simp only [files, scriptFile?, hname, fileFor_eq_tableFile]
  cases o.target? "sql" with
  | none => rfl
  | some t =>
    cases hsingle : t.singleScript <;> simp only [hsingle, Option.filter] <;> rfl

/-- Models whose entities a schema does not tell apart have the same schema. -/
theorem files_congr {o o' : Options} (hscript : scriptFile? o' = scriptFile? o)
    (h : List.Forall₂ (SimilarIn m m') m.entities.values m'.entities.values) :
    files d m' o' = files d m o := by
  have htables : List.Forall₂ (SimilarIn m m') (tableEntities m) (tableEntities m') :=
    List.rel_filter (fun _ _ hsimilar => by simp [hsimilar.kind]) h
  have hfiles : (tableEntities m').map (tableFile d m') = (tableEntities m).map (tableFile d m) :=
    map_congr_forall₂ htables fun _ _ hsimilar => hsimilar.tableFile
  rw [files_eq, files_eq, hscript, hfiles, creationOrder_congr htables]

/-! ## What does not show -/

/-- Look-ups in lists whose elements correspond have corresponding answers. -/
theorem rel_find? {α : Type} {r : α → α → Prop} {l l' : List α} {q : α → Bool}
    (h : List.Forall₂ r l l') (hq : ∀ a b, r a b → q b = q a) :
    Option.Rel r (l.find? q) (l'.find? q) := by
  induction h with
  | nil => exact .none
  | cons hab _ ih =>
    rw [List.find?_cons, List.find?_cons, hq _ _ hab]
    split
    next => exact .some hab
    next => exact ih

/-- Where all entities are similar, so are those that a name stands for. -/
theorem SimilarIn.of_forall₂ (h : List.Forall₂ Similar m.entities.values m'.entities.values) :
    List.Forall₂ (SimilarIn m m') m.entities.values m'.entities.values := by
  refine h.imp fun e e' hsimilar => ⟨hsimilar, fun name _ => ?_⟩
  rw [Model.named?_eq, Model.named?_eq]
  exact rel_find? h fun a b hab => by rw [hab.name]

/-- Options that agree on whether there is one script and on its name write the same script file. -/
theorem scriptFile?_congr {o o' : Options}
    (single : (o'.target? "sql").any (·.singleScript) = (o.target? "sql").any (·.singleScript))
    (name : (o'.target? "sql").bind (·.scriptName) = (o.target? "sql").bind (·.scriptName)) :
    scriptFile? o' = scriptFile? o := by
  have hfactor (o : Options) : scriptFile? o =
      if (o.target? "sql").any (·.singleScript) then
        some (((o.target? "sql").bind (·.scriptName)).getD defaultScriptName)
      else none := by
    rw [scriptFile?]
    cases o.target? "sql" with
    | none => rfl
    | some t => cases hsingle : t.singleScript <;> simp [hsingle, Option.filter]
  rw [hfactor o', hfactor o, single, name]

/-- A schema is settled by the kinds, the names and the properties of the entities, less the
access of the properties, and by what the options say of its script. -/
theorem files_noninterference (d : Dialect) {m m' : Model} {o o' : Options}
    (entities : List.Forall₂ Similar m.entities.values m'.entities.values)
    (single : (o'.target? "sql").any (·.singleScript) = (o.target? "sql").any (·.singleScript))
    (name : (o'.target? "sql").bind (·.scriptName) = (o.target? "sql").bind (·.scriptName)) :
    (backend d).files m' o' = (backend d).files m o :=
  files_congr (scriptFile?_congr single name) (SimilarIn.of_forall₂ entities)

/-- The shop in other cells, with methods, a stereotype, links and other access. -/
def busyShop : Model :=
  ⟨.ofList
    [("1", { order with
        methods := .ofList [(0, { name := "total", returns := "double" })]
        links := { bases := ["2"], associations := [(.outgoing, "3")] } }),
     ("2", { customer with
        stereotype := some "entity"
        properties := .ofList [(7, { billed with access := .everyone })] }),
     ("3", { account with links := { associations := [(.incoming, "1")] } })]⟩

/-- Tables do not change when the shop gets methods, links and other options. -/
theorem files_noninterference_shop : busyShop.get? "1" ≠ shop.get? "o" ∧
    (backend ansi).files busyShop
        { package := some "acme", encapsulate := true,
          targets := .ofList [("java", { imports := .ofList [("java.util", none)] }),
                              ("sql", { dialect := some "oracle", singleScript := true })] } =
      (backend ansi).files shop { targets := .ofList [("sql", { singleScript := true })] } :=
  ⟨by decide, files_noninterference ansi
    (.cons ⟨rfl, rfl, rfl⟩ (.cons ⟨rfl, rfl, rfl⟩ (.cons ⟨rfl, rfl, rfl⟩ .nil))) rfl rfl⟩

/-! ## Embedded models -/

/-- An entity is similar to its image. -/
theorem Similar.of_embedding (φ : m.Embedding m') (e : Entity) : Similar e (φ.onEntity e) where
  kind := φ.kind e
  name := φ.name e
  properties := by
    rw [φ.propertyList, List.map_map]
    exact List.map_congr_left fun p _ => φ.hidden p

/-- A schema does not tell an entity from its image. -/
theorem SimilarIn.of_embedding (φ : m.Embedding m') (he : e ∈ m.entities.values) :
    SimilarIn m m' e (φ.onEntity e) where
  toSimilar := .of_embedding φ e
  named? := by
    intro name hname
    rw [φ.named? name (Model.mem_mentions he hname)]
    cases m.named? name with
    | none => exact .none
    | some target => exact .some (.of_embedding φ target)

end ClassDiagram.Schema
