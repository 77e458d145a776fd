import ClassDiagram.Emit.Layout
import ClassDiagram.Model.Basic
import ClassDiagram.Schema.Dialect
import ClassDiagram.Schema.Literal

/-!
# Tables

A class becomes a table with one column to a property that is not static.  A
column whose type is the name of an entity refers to it and takes the type of
its key.  `Table.ofProperties` makes the table of the properties that it is shown,
`Table.ofEntity` that of the entity's own, and `Table.text` writes it.
-/

namespace ClassDiagram.Schema

open Emit (line margin commas words)

/-! ## Keys -/

/-- The column that is referred to where a table has no key. -/
def fallbackKey : String := "id"

/-- The type of a column that refers to a table without a key. -/
def fallbackKeyType : String := "int64"

/-- The property by which other tables refer to an entity: its only primary one, or else
the one with the name of the fallback key. -/
def keyOf? (e : Entity) : Option Property :=
  match e.propertyList.filter (·.constraints.primary) with
  | [key] => some key
  | _ => e.propertyList.find? (·.name == fallbackKey)

/-- Constraints without those that have the store fill in the value. -/
def withoutAutoValue (c : Constraints) : Constraints :=
  { c with identity := false, generated := false }

/-! ## Columns and foreign keys -/

/-- The properties of an entity that become columns. -/
def columnProperties (e : Entity) : List Property := e.propertyList.filter (!·.isStatic)

/-- The physical type of a property. -/
def propertyType (d : Dialect) (m : Model) (p : Property) : String :=
  match m.named? p.type with
  | some target =>
      match keyOf? target with
      | some key => d.columnType key.type (withoutAutoValue key.constraints)
      | none => d.columnType fallbackKeyType {}
  | none => d.columnType p.type p.constraints

/-- A column of a table. -/
structure Column where
  name : String
  /-- Its physical type. -/
  type : String
  /-- The clause by which the store fills it in, or the empty text. -/
  autoClause : String := ""
  /-- A value must be given. -/
  notNull : Bool := false
  /-- The literal for its initial value. -/
  initial : Option String := none
  /-- No two rows share the value. -/
  unique : Bool := false
deriving DecidableEq, Repr

/-- The column for a property.  The store does not fill in a value that it is given, and a
primary key is unique in any case. -/
def Column.ofProperty (d : Dialect) (m : Model) (p : Property) : Column where
  name := p.name
  type := propertyType d m p
  autoClause := if p.constraints.isAutoValued then d.identityClause else ""
  notNull := p.constraints.required || p.constraints.primary
  initial := if p.constraints.isAutoValued then none else p.initial.map literal
  unique := p.constraints.unique && !p.constraints.primary

/-- A reference from a column of a table to a column of another. -/
structure ForeignKey where
  /-- The column that refers. -/
  column : String
  /-- The table referred to. -/
  table : String
  /-- The column referred to. -/
  referenced : String
deriving DecidableEq, Repr

/-- The name of the table that a property refers to, if it names one. -/
def targetOf? (m : Model) (p : Property) : Option String :=
  match p.constraints.foreignTarget with
  | some target => some target
  | none => if (m.named? p.type).isSome then some p.type else none

/-- The reference that a property stands for. -/
def ForeignKey.ofProperty? (m : Model) (p : Property) : Option ForeignKey :=
  if p.constraints.foreign then
    (targetOf? m p).map fun target =>
      match m.named? target with
      | some e => ⟨p.name, e.name, ((keyOf? e).map (·.name)).getD fallbackKey⟩
      | none => ⟨p.name, target, fallbackKey⟩
  else none

/-! ## Tables -/

/-- A table. -/
structure Table where
  name : String
  columns : List Column
  /-- The columns of the primary key. -/
  primary : List String
  foreignKeys : List ForeignKey
deriving DecidableEq, Repr

/-- The table with a column to each of some properties. -/
def Table.ofProperties (d : Dialect) (m : Model) (name : String) (ps : List Property) : Table where
  name := name
  columns := ps.map (Column.ofProperty d m)
  primary := (ps.filter (·.constraints.primary)).map (·.name)
  foreignKeys := ps.filterMap (ForeignKey.ofProperty? m)

/-- The table for an entity. -/
def Table.ofEntity (d : Dialect) (m : Model) (e : Entity) : Table :=
  .ofProperties d m e.name (columnProperties e)

/-! ## Writing tables -/

/-- The definition of a column. -/
def Column.text (d : Dialect) (c : Column) : String :=
  margin 1 ++ words ([d.quote c.name, c.type]
    ++ (if c.autoClause.isEmpty then [] else [c.autoClause])
    ++ (if c.notNull then ["NOT NULL"] else [])
    ++ c.initial.toList.map ("DEFAULT " ++ ·)
    ++ (if c.unique then ["UNIQUE"] else []))

/-- The clause of a foreign key, with its number within the table. -/
def ForeignKey.text (d : Dialect) (table : String) (number : Nat) (k : ForeignKey) : String :=
  margin 1 ++ "CONSTRAINT " ++ d.foreignKeyName table k.table number
    ++ " FOREIGN KEY (" ++ d.quote k.column ++ ") REFERENCES " ++ d.quote k.table
    ++ " (" ++ d.quote k.referenced ++ ")"

namespace Table

/-- The clause of the primary key, if there is one. -/
def primaryText (d : Dialect) (t : Table) : List String :=
  if t.primary.isEmpty then []
  else [margin 1 ++ "PRIMARY KEY (" ++ commas (t.primary.map d.quote) ++ ")"]

/-- What stands between the parentheses of a table. -/
def itemTexts (d : Dialect) (t : Table) : List String :=
  t.columns.map (Column.text d) ++ t.primaryText d
    ++ t.foreignKeys.mapIdx fun index k => k.text d t.name (index + 1)

/-- The first line of a table. -/
def header (d : Dialect) (name : String) : String :=
  line 0 ("CREATE TABLE " ++ d.quote name ++ " (")

/-- The last line of a table. -/
def footer : String := line 0 ");"

/-- The statement that creates a table. -/
def text (d : Dialect) (t : Table) : String :=
  let items := t.itemTexts d
  header d t.name ++ ",\n".intercalate items ++ (if items.isEmpty then "" else "\n") ++ footer

end Table

end ClassDiagram.Schema
