import ClassDiagram.Text.Case

/-!
# Logical types

The types of a diagram are names.  Some are known to every target under several
spellings, in any case: `int` and `int32` are the same number.  All others stand
for themselves.

A target has a table of its own names for them.  `canonicalType` folds the
spellings of one type into one, and `TypeCategory.of` sorts types roughly, which
is enough to choose a default value.
-/

namespace ClassDiagram

open Text

/-- A rough sort of types. -/
inductive TypeCategory where
  | void | truth | integer | decimal | text | other
deriving DecidableEq, Repr

namespace TypeCategory

/-- The categories of the known names. -/
def names : List (String × TypeCategory) :=
  [("void", .void), ("bool", .truth), ("boolean", .truth),
   ("int", .integer), ("int8", .integer), ("int16", .integer), ("int32", .integer),
   ("int64", .integer), ("uint8", .integer), ("uint16", .integer), ("uint32", .integer),
   ("uint64", .integer), ("long", .integer), ("short", .integer), ("byte", .integer),
   ("float", .decimal), ("double", .decimal), ("decimal", .decimal), ("float32", .decimal),
   ("float64", .decimal),
   ("string", .text), ("wstring", .text), ("text", .text), ("char", .text)]

/-- The category of a type. -/
def of (type : String) : TypeCategory := (names.lookup (folded type)).getD .other

/-- The word for a category. -/
def keyword : TypeCategory → String
  | .void => "void"
  | .truth => "bool"
  | .integer => "integer"
  | .decimal => "float"
  | .text => "text"
  | .other => "other"

end TypeCategory

/-- Known names of types, each with its name in a target. -/
abbrev TypeTable : Type := List (String × String)

/-- The name of a type in a target, which is its own name if the table does not have it. -/
def TypeTable.nameFor (table : TypeTable) (type : String) : String :=
  (table.lookup (folded type)).getD (trim type)

/-- The spellings that stand for another name. -/
def typeAliases : TypeTable :=
  [("int", "int32"), ("long", "int64"), ("short", "int16"), ("byte", "int8"),
   ("boolean", "bool"), ("float32", "float"), ("float64", "double"), ("text", "string")]

/-- The one name of a type, in lower case. -/
def canonicalType (type : String) : String :=
  let name := folded type
  (typeAliases.lookup name).getD name

end ClassDiagram
