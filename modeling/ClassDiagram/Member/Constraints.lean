import ClassDiagram.SortedSet

/-!
# Constraints of a member

A member may carry a block of constraints in braces.  A `Constraints` value is
what such a block says, whatever order and spelling it used: a set of flags, a
few values, and the texts that mean nothing known.

`Constraints.tokens` writes a value in its one normal form, the flags first and
the unknown texts last, and `Constraints.text` puts that form in braces.
-/

namespace ClassDiagram

/-- What the constraint block of a member says. -/
structure Constraints where
  /-- The member belongs to the class and not to its instances. -/
  isStatic : Bool := false
  /-- The member is left to the classes below. -/
  isAbstract : Bool := false
  /-- The classes below may replace the member. -/
  isVirtual : Bool := false
  /-- The member does not change once it is set. -/
  isFinal : Bool := false
  /-- A value must be given. -/
  required : Bool := false
  /-- No two instances share the value. -/
  unique : Bool := false
  /-- The value is part of the primary key. -/
  primary : Bool := false
  /-- The value is a number that the store counts up. -/
  identity : Bool := false
  /-- The value is computed by the store. -/
  generated : Bool := false
  /-- The value may be a large object. -/
  lob : Bool := false
  /-- The value is a foreign key. -/
  foreign : Bool := false
  /-- The table that the foreign key names. -/
  foreignTarget : Option String := none
  /-- The greatest length of the value. -/
  length : Option UInt32 := none
  /-- The number of digits, and how many of them follow the point. -/
  size : Option (UInt32 × UInt32) := none
  /-- The format of the value. -/
  format : Option String := none
  /-- The texts that mean nothing known. -/
  other : SortedSet := ∅
deriving DecidableEq

namespace Constraints

instance : Inhabited Constraints := ⟨{}⟩

/-- The block says nothing. -/
def isEmpty (c : Constraints) : Bool := c == {}

/-- The store fills in the value. -/
def isAutoValued (c : Constraints) : Bool := c.identity || c.generated

/-- The flags that a name alone stands for, each with its name and whether it is raised. -/
def flags (c : Constraints) : List (String × Bool) :=
  [("static", c.isStatic), ("abstract", c.isAbstract), ("virtual", c.isVirtual),
   ("final", c.isFinal), ("required", c.required), ("unique", c.unique), ("pk", c.primary),
   ("identity", c.identity), ("generated", c.generated), ("lob", c.lob)]

/-- The token for the foreign key. -/
def foreignToken (c : Constraints) : List String :=
  if c.foreign then
    match c.foreignTarget with
    | some target => ["fk:" ++ target]
    | none => ["fk"]
  else []

/-- The token for the length. -/
def lengthToken (c : Constraints) : List String :=
  c.length.toList.map fun n => "length:" ++ toString n.toNat

/-- The token for the size. -/
def sizeToken (c : Constraints) : List String :=
  c.size.toList.map fun (precision, scale) =>
    "size:" ++ toString precision.toNat ++ ":" ++ toString scale.toNat

/-- The token for the format. -/
def formatToken (c : Constraints) : List String :=
  c.format.toList.map ("format:" ++ ·)

/-- The tokens of the normal form. -/
def tokens (c : Constraints) : List String :=
  (c.flags.filter (·.2)).map (·.1)
    ++ c.foreignToken ++ c.lengthToken ++ c.sizeToken ++ c.formatToken ++ c.other.toList

/-- The normal form in braces. -/
def text (c : Constraints) : String := "\x7b" ++ ", ".intercalate c.tokens ++ "\x7d"

end Constraints

end ClassDiagram
