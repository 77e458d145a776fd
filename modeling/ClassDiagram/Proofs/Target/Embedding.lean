import Mathlib.Logic.Equiv.Basic
import ClassDiagram.Proofs.Model.Images
import ClassDiagram.Proofs.Schema.Similar
import ClassDiagram.Proofs.Target.Served

/-!
# The files of an embedded model

When a model is embedded in another and the options *agree*, an emitter is shown the
same of an entity and of its image (`Agree.alike`), and a schema does not tell them
apart.  So every backend writes the same file for the two (`Agree.fileFor`).

What else there is in the other model then makes files of its own.  If there is nothing
else, all files are the same (`Agree.files`); what comes after the images comes after
their files, unless all goes into one script (`Agree.files_append`).

So no backend lets the cells of a diagram show (`files_rename`), the option that makes
all properties private does what could have been done in the diagram
(`files_encapsulate`), and an entity that nothing speaks of changes no file but its own
(`files_insert`).
-/

namespace ClassDiagram

open Emit

/-- Two sets of options say the same of the properties of a model and of their images, and
otherwise of all files. -/
structure Agree {m m' : Model} (φ : m.Embedding m') (o o' : Options) : Prop where
  package : o'.package = o.package
  members : o'.members = o.members
  targets : o'.targets = o.targets
  encapsulated : ∀ p, encapsulated o' (φ.onProperty p) = encapsulated o p

variable {t : Target} {b : Backend}

/-- A backend picks entities by their kind. -/
theorem Target.Serves.accepts (hb : t.Serves b) {e e' : Entity} (h : e'.kind = e.kind) :
    b.emitter.accepts e' = b.emitter.accepts e := by
  rcases hb.cases with ⟨em, hem, rfl⟩ | ⟨d, rfl⟩
  · show em.accepts e' = em.accepts e
    rw [languages_accept em hem, languages_accept em hem]
  · show (e'.kind == .concrete) = (e.kind == .concrete)
    rw [h]

/-- Files that are not one script are those of the entities that the backend picks. -/
theorem Target.Serves.files_of_entities (hb : t.Serves b) {o : Options}
    (hscript : Schema.scriptFile? o = none) (m : Model) :
    b.files m o = (b.emitter.accepted m).map (b.emitter.fileFor b.entityText m o) := by
  rcases hb.cases with ⟨em, -, rfl⟩ | ⟨d, rfl⟩
  · rfl
  · show Schema.files d m o = _
    rw [Schema.files_eq, hscript]
    exact congrArg (List.map · _) (Schema.fileFor_eq_tableFile d m o).symm

namespace Agree

variable {m m' : Model} {φ : m.Embedding m'} {o o' : Options} (h : Agree φ o o') {e : Entity}
  (he : e ∈ m.entities.values) (hb : t.Serves b)
include h

theorem importsFor (target : String) : o'.importsFor target = o.importsFor target := by
  rw [Options.importsFor, Options.importsFor, Options.target?, Options.target?, h.targets]

theorem scriptFile? : Schema.scriptFile? o' = Schema.scriptFile? o := by
  rw [Schema.scriptFile?, Schema.scriptFile?, Options.target?, Options.target?, h.targets]

include he

/-- An emitter is shown the same of an entity and of its image. -/
theorem alike (target : String) :
    (Context.of m e o target).Alike (Context.of m' (φ.onEntity e) o' target) where
  name := (φ.name e).symm
  kind := (φ.kind e).symm
  members := h.members.symm
  package := by
    show o.packageName? = o'.packageName?
    rw [Options.packageName?, Options.packageName?, h.package]
  configuredImports := (h.importsFor target).symm
  dependencies := (φ.dependenciesOf he).symm
  properties := by
    show e.propertyList.map (Emit.encapsulated o) =
      (φ.onEntity e).propertyList.map (Emit.encapsulated o')
    rw [φ.propertyList, List.map_map]
    exact List.map_congr_left fun p _ => (h.encapsulated p).symm
  methods := (φ.methodList e).symm
  stubs := by
    show (if e.kind.isClass then m.owed e else []) =
      if (φ.onEntity e).kind.isClass then m'.owed (φ.onEntity e) else []
    rw [φ.kind, φ.owed he]

include hb

/-- The file for the image of an entity is the file for the entity. -/
theorem fileFor : b.emitter.fileFor b.entityText m' o' (φ.onEntity e) =
    b.emitter.fileFor b.entityText m o e := by
  rcases hb.cases with ⟨em, hem, rfl⟩ | ⟨d, rfl⟩
  · refine Prod.ext ?_ ((languages_extensional em hem).entityText (h.alike he em.name)).symm
    show em.fileName (φ.onEntity e) = em.fileName e
    rw [Emitter.fileName, Emitter.fileName, φ.name]
  · show (Schema.emitter d).fileFor (Schema.entityText d) m' o' _ =
      (Schema.emitter d).fileFor (Schema.entityText d) m o e
    rw [Schema.fileFor_eq_tableFile, Schema.fileFor_eq_tableFile]
    exact (Schema.SimilarIn.of_embedding φ he).tableFile

omit he

/-- The files for the images of the entities are the files for the entities. -/
theorem accepted_files : ((m.entities.values.map φ.onEntity).filter b.emitter.accepts).map
      (b.emitter.fileFor b.entityText m' o') =
    (b.emitter.accepted m).map (b.emitter.fileFor b.entityText m o) := by
  have haccepts : b.emitter.accepts ∘ φ.onEntity = b.emitter.accepts :=
    funext fun e => hb.accepts (φ.kind e)
  rw [Emitter.accepted, List.filter_map, haccepts, List.map_map]
  exact List.map_congr_left fun e he => h.fileFor (List.mem_of_mem_filter he) hb

/-- A model that has nothing but the images of the entities has the same files. -/
theorem files (hvalues : m'.entities.values = m.entities.values.map φ.onEntity) :
    b.files m' o' = b.files m o := by
  rcases hb.cases with ⟨em, hem, rfl⟩ | ⟨d, rfl⟩
  · have hfiles := h.accepted_files hb
    rw [← hvalues] at hfiles
    exact hfiles
  · refine Schema.files_congr h.scriptFile? ?_
    rw [hvalues, List.forall₂_map_right_iff, List.forall₂_same]
    exact fun e he => .of_embedding φ he

/-- What comes after the images of the entities comes after their files. -/
theorem files_append (hscript : Schema.scriptFile? o = none) {others : List Entity}
    (hvalues : m'.entities.values = m.entities.values.map φ.onEntity ++ others) :
    b.files m' o' = b.files m o ++
      (others.filter b.emitter.accepts).map (b.emitter.fileFor b.entityText m' o') := by
  rw [hb.files_of_entities hscript, hb.files_of_entities (h.scriptFile?.trans hscript),
    Emitter.accepted, hvalues, List.filter_append, List.map_append, h.accepted_files hb]

end Agree

/-! ## Changes that do not show -/

/-- Other cells do not change what any backend writes, be it file by file or in one script. -/
theorem files_rename {t : Target} {b : Emit.Backend} (hb : t.Serves b) (m : Model)
    (f : String → String) (hf : Set.InjOn f {id | id ∈ m.ids}) (o : Options) :
    b.files (m.rename f hf) o = b.files m o := by
  have hagree : Agree (Model.Embedding.rename hf) o o := ⟨rfl, rfl, rfl, fun _ => rfl⟩
  exact hagree.files hb (Model.values_rename hf)

/-- Two interfaces that realise each other take each other's cell. -/
theorem files_rename_circle :
    ∃ hf : Set.InjOn (Equiv.swap "a" "b") {id | id ∈ Emit.circle.ids},
      (Emit.circle.rename _ hf).get? "a" ≠ Emit.circle.get? "a" ∧
        Emit.java.backend.files (Emit.circle.rename _ hf) {} =
          Emit.java.backend.files Emit.circle {} :=
  ⟨(Equiv.swap "a" "b").injective.injOn, by decide,
    files_rename (t := .java) ⟨{}, rfl⟩ Emit.circle _ _ {}⟩

/-- The files with all properties encapsulated are the files of the model in which they are
private, without the option. -/
theorem files_encapsulate {t : Target} {b : Emit.Backend} (hb : t.Serves b) (m : Model)
    (o : Options) :
    b.files m { o with encapsulate := true } = b.files m.hidden { o with encapsulate := false } := by
  have hagree : Agree (Model.Embedding.hide m) { o with encapsulate := true }
      { o with encapsulate := false } := ⟨rfl, rfl, rfl, fun _ => rfl⟩
  exact (hagree.files hb m.values_hidden).symm

/-- An attribute for everyone gets its underscore and its accessors either way. -/
theorem files_encapsulate_store :
    store.hidden ≠ store ∧
      Emit.python.backend.files store everything =
        Emit.python.backend.files store.hidden { everything with encapsulate := false } :=
  ⟨by decide, files_encapsulate (t := .python) ⟨everything, rfl⟩ store everything⟩

/-- Whatever backend writes them, one file to an entity, the files for the old entities stay as
they are and where they are when an entity is added that nothing mentions. -/
theorem files_insert {t : Target} {b : Emit.Backend} (hb : t.Serves b) {m : Model}
    (closed : m.LinksClosed) {id : String} (fresh : m.contains id = false) {new : Entity}
    (unmentioned : new.name ∉ m.mentions) {o : Options} (hscript : Schema.scriptFile? o = none) :
    (∀ e ∈ m.entities.values, b.emitter.fileFor b.entityText (m.insert id new) o e =
        b.emitter.fileFor b.entityText m o e) ∧
      b.files (m.insert id new) o = b.files m o ++
        ([new].filter b.emitter.accepts).map
          (b.emitter.fileFor b.entityText (m.insert id new) o) := by
  have hagree : Agree (Model.Embedding.insert closed fresh unmentioned) o o :=
    ⟨rfl, rfl, rfl, fun _ => rfl⟩
  refine ⟨fun e he => hagree.fileFor he hb, hagree.files_append hb hscript ?_⟩
  rw [Model.values_insert fresh]
  exact congrArg (· ++ [new]) (List.map_id _).symm

/-- A class derived from the registry.  A type of the registry only looks like its name. -/
def item : Entity := { name := "Item", links := { bases := ["r"] } }

/-- A new item in the store gives one more file and changes no other. -/
theorem files_insert_store : ∃ file,
    Emit.cpp.backend.files (store.insert "i" item) everything =
      Emit.cpp.backend.files store everything ++ [file] := by
  have hlinks : ∀ e ∈ store.entities.values, ∀ other ∈ e.links.ids, store.contains other = true := by
    decide
  have closed : store.LinksClosed := fun _ e hget => hlinks e (Model.mem_values_of_get? hget)
  have fresh : store.contains "i" = false := rfl
  have unmentioned : item.name ∉ store.mentions := by decide
  have hscript : Schema.scriptFile? everything = none := rfl
  exact ⟨_, (files_insert (t := .cpp) ⟨everything, rfl⟩ closed fresh unmentioned hscript).2⟩

end ClassDiagram
