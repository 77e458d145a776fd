import ClassDiagram.Json.Basic
import ClassDiagram.Json.Lexer

/-!
# Reading JSON

The reader takes one token at a time and keeps the arrays and objects that are
open on a stack, so no nesting is too deep for it.  `Json.parse?` is strict: no
comments, no comma before a closing bracket, and nothing after the value.
-/

namespace ClassDiagram.Json

/-- A value as it is read. -/
abbrev Read : Type := Json (Option String)

namespace Reader

/-- An array or object that is open around the value being read. -/
inductive Frame where
  /-- An array with its items so far, newest first. -/
  | array (items : List Read)
  /-- An object with its members so far, newest first, and the key of the next. -/
  | object (members : List (Option String × Read)) (key : Option String)

/-- What the reader waits for. -/
inductive State where
  /-- A value. -/
  | value (stack : List Frame)
  /-- A value or the end of an array without items. -/
  | first (stack : List Frame)
  /-- A comma or the end of an array. -/
  | afterItem (items : List Read) (stack : List Frame)
  /-- A key or the end of an object without members. -/
  | firstKey (stack : List Frame)
  /-- A key. -/
  | key (members : List (Option String × Read)) (stack : List Frame)
  /-- The colon after a key. -/
  | afterKey (members : List (Option String × Read)) (key : Option String) (stack : List Frame)
  /-- A comma or the end of an object. -/
  | afterMember (members : List (Option String × Read)) (stack : List Frame)
  /-- Nothing more. -/
  | done (value : Read)

/-- The state after a whole value. -/
def complete (value : Read) : List Frame → State
  | [] => .done value
  | .array items :: stack => .afterItem (value :: items) stack
  | .object members key :: stack => .afterMember ((key, value) :: members) stack

/-- The state after the first token of a value. -/
def open? (stack : List Frame) : Token → Option State
  | .null => some (complete .null stack)
  | .bool b => some (complete (.bool b) stack)
  | .number digits => some (complete (.number digits) stack)
  | .string text => some (complete (.string text) stack)
  | .openBracket => some (.first stack)
  | .openBrace => some (.firstKey stack)
  | .closeBrace | .closeBracket | .comma | .colon => none

/-- The state after one more token. -/
def step : State → Token → Option State
  | .value stack, token => open? stack token
  | .first stack, .closeBracket => some (complete (.array []) stack)
  | .first stack, token => open? (.array [] :: stack) token
  | .afterItem items stack, .comma => some (.value (.array items :: stack))
  | .afterItem items stack, .closeBracket => some (complete (.array items.reverse) stack)
  | .firstKey stack, .closeBrace => some (complete (.object []) stack)
  | .firstKey stack, .string key => some (.afterKey [] key stack)
  | .key members stack, .string key => some (.afterKey members key stack)
  | .afterKey members key stack, .colon => some (.value (.object members key :: stack))
  | .afterMember members stack, .comma => some (.key members stack)
  | .afterMember members stack, .closeBrace => some (complete (.object members.reverse) stack)
  | _, _ => none

end Reader

/-- The value that a text denotes. -/
def parse? (text : String) : Option Read := do
  let tokens ← tokens? text
  match ← tokens.foldlM Reader.step (.value []) with
  | .done value => some value
  | _ => none

end ClassDiagram.Json
