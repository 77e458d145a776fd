import ClassDiagram.Emit.Emitter
import ClassDiagram.Schema.Table

/-!
# The emitter for schemas

Only classes that are not abstract become tables.  Of the parts that an emitter
has, a table has a first and a last line and its columns.
-/

namespace ClassDiagram.Schema

/-- The emitter for the schemas of a dialect. -/
def emitter (d : Dialect) : Emit.Emitter where
  name := "sql"
  extension := "sql"
  types := d.types
  typeName := fun type => d.columnType type {}
  defaultValue := fun _ => "NULL"
  accepts := fun e => e.kind == .concrete
  header := fun x => Table.header d x.name
  property := fun x p => (Column.ofProperty d x.model p).text d
  constant := fun _ _ _ => ""
  footer := fun _ => Table.footer

end ClassDiagram.Schema
