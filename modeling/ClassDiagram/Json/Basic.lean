/-!
# JSON values

A value over the texts `σ`, which are its strings and the keys of its objects.
An object keeps its members in the order written, and a key may come twice.

A value that is read has texts in `Option String`.  A string literal with an
escape for half a surrogate pair is well formed and yet denotes no text; it is
`none`.  A value that is written has texts in `String`.
-/

namespace ClassDiagram

/-- A JSON value whose texts are of type `σ`. -/
inductive Json (σ : Type) where
  | null
  | bool (b : Bool)
  /-- A number as it is written. -/
  | number (digits : String)
  | string (text : σ)
  | array (items : List (Json σ))
  | object (members : List (σ × Json σ))

namespace Json

/-- A natural number as a value. -/
def nat {σ : Type} (n : Nat) : Json σ := .number (toString n)

/-- A value that may be missing, of which the missing one is `null`. -/
def ofOption {σ α : Type} (f : α → Json σ) : Option α → Json σ
  | none => .null
  | some a => f a

/-- A list of values. -/
def ofList {σ α : Type} (f : α → Json σ) (l : List α) : Json σ := .array (l.map f)

end Json

end ClassDiagram
