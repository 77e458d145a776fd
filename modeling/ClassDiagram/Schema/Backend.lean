import ClassDiagram.Emit.Backend
import ClassDiagram.Schema.Emitter
import ClassDiagram.Schema.Order

/-!
# The backend for schemas

A schema is written as one file to a table, or, if the options ask for it, as
one script with all tables in the order of creation and an empty line between
them.
-/

namespace ClassDiagram.Schema

/-- The table for the entity of a context, with the properties as the context shows them. -/
def entityText (d : Dialect) (x : Emit.Context) : String :=
  (Table.ofProperties d x.model x.name x.instanceProperties).text d

/-- The one script for some files, in the order of the given places. -/
def script (files : List Emit.File) (places : List Nat) : String :=
  "\n".intercalate (places.filterMap fun i => files[i]?.map (·.2))

/-- The files of a schema. -/
def files (d : Dialect) (m : Model) (o : Options) : List Emit.File :=
  let em := emitter d
  let entities := em.accepted m
  let single := entities.map (em.fileFor (entityText d) m o)
  match o.target? em.name with
  | some t =>
      if t.singleScript then
        [(t.scriptName.getD defaultScriptName, script single (creationOrder m entities))]
      else single
  | none => single

/-- The backend for the schemas of a dialect. -/
def backend (d : Dialect) : Emit.Backend where
  emitter := emitter d
  entityText := entityText d
  files := files d

end ClassDiagram.Schema
