/-!
# Access

Who may use a member of a class.  In a diagram a mark in front of the member
says so, and a member without a mark is for its own class only.
-/

namespace ClassDiagram

/-- Who may use a member. -/
inductive Access where
  /-- Everyone, marked `+`. -/
  | everyone
  /-- The class and the classes below it, marked `#`. -/
  | heirs
  /-- The class alone, marked `-`. -/
  | owner
deriving DecidableEq, Repr

namespace Access

/-- The access a mark stands for. -/
def ofMark? : Char → Option Access
  | '+' => some .everyone
  | '#' => some .heirs
  | '-' => some .owner
  | _ => none

/-- The mark of an access. -/
def mark : Access → Char
  | .everyone => '+'
  | .heirs => '#'
  | .owner => '-'

/-- The keyword for an access in the languages that have one. -/
def keyword : Access → String
  | .everyone => "public"
  | .heirs => "protected"
  | .owner => "private"

/-- The access of a member that classes below must be able to replace. -/
def overridable : Access → Access
  | .owner => .heirs
  | access => access

/-! ## Small facts -/

/-- Every access has a mark of its own. -/
@[simp] theorem ofMark?_mark (a : Access) : ofMark? a.mark = some a := by cases a <;> rfl

end Access

end ClassDiagram
