import ClassDiagram.Emit.Emitter

/-!
# Backends

A backend turns a model into files.  It has an emitter for the parts of an
entity, and decides how the parts make up an entity and the entities make up
files.  Most write one file to an entity that the emitter accepts.
-/

namespace ClassDiagram.Emit

/-- A file to be written: its name and what it holds. -/
abbrev File : Type := String × String

/-- What turns a model into files. -/
structure Backend where
  /-- How the parts of an entity are written. -/
  emitter : Emitter
  /-- A whole entity. -/
  entityText : Context → String
  /-- The files for a model. -/
  files : Model → Options → List File

/-- The file for one entity. -/
def Emitter.fileFor (em : Emitter) (entityText : Context → String) (m : Model) (o : Options)
    (e : Entity) : File :=
  (em.fileName e, entityText (.of m e o em.name))

/-- The entities that an emitter accepts, in order. -/
def Emitter.accepted (em : Emitter) (m : Model) : List Entity :=
  m.entities.values.filter em.accepts

/-- The backend that writes one file to an entity, with the parts in the common order. -/
def Emitter.backend (em : Emitter) : Backend where
  emitter := em
  entityText := em.entityText
  files := fun m o => (em.accepted m).map (em.fileFor em.entityText m o)

/-- The name of the target of a backend. -/
def Backend.name (b : Backend) : String := b.emitter.name

end ClassDiagram.Emit
