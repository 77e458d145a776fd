import ClassDiagram.Json.Reader
import ClassDiagram.OrderedMap

/-!
# Records in JSON

A record of known fields is written as an object or, without the names, as an
array of its fields in order.  An object may leave fields out and have members
that are no fields, which are skipped unread; it must not give a field twice.
An array may stop early and must not go on after the last field.

A value that is read must have a text wherever it has a string or a key.  Of a
map with a key given twice the later value counts, at the place of the earlier.
-/

namespace ClassDiagram.Json

/-- Arrays and objects that may be open inside each other in the part of a
document that is read. -/
def nestingLimit : Nat := 127

/-- The text of a string. -/
def text? : Read → Option String
  | .string text => text
  | _ => none

/-- A truth value. -/
def bool? : Read → Option Bool
  | .bool b => some b
  | _ => none

/-- A value that may be `null`. -/
def nullable? {α : Type} (read : Read → Option α) : Read → Option (Option α)
  | .null => some none
  | value => (read value).map some

/-- A list of values. -/
def list? {α : Type} (read : Read → Option α) : Read → Option (List α)
  | .array items => items.mapM read
  | _ => none

/-- A member of a map. -/
def readPair? {α : Type} (read : Read → Option α) (member : Option String × Read) :
    Option (String × α) := do
  let key ← member.1
  let value ← read member.2
  some (key, value)

/-- A map from texts to values. -/
def map? {α : Type} (read : Read → Option α) : Read → Option (OrderedMap String α)
  | .object members => (members.mapM (readPair? read)).map .ofList
  | _ => none

/-! ## Records -/

/-- The fields that the members of an object give, by name. -/
def fieldMembers? (names : List String) :
    List (Option String × Read) → Option (OrderedMap String Read)
  | [] => some ∅
  | (key, value) :: members => do
      let name ← key
      let others ← fieldMembers? names members
      if name ∈ names then
        if others.contains name then none else some (others.insert name value)
      else some others

/-- The fields of a record, each with its value if it has one. -/
def fields? (names : List String) : Read → Option (OrderedMap String Read)
  | .object members => fieldMembers? names members
  | .array items =>
      if items.length ≤ names.length then some (.ofList (names.zip items)) else none
  | _ => none

/-- The value of a field that must be there. -/
def required? {α : Type} (fields : OrderedMap String Read) (name : String)
    (read : Read → Option α) : Option α :=
  (fields.get? name).bind read

/-- The value of a field, or another one if the field is left out. -/
def optional? {α : Type} (fields : OrderedMap String Read) (name : String) (other : α)
    (read : Read → Option α) : Option α :=
  match fields.get? name with
  | none => some other
  | some value => read value

end ClassDiagram.Json
