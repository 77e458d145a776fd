/-!
# Tokens of JSON

The lexer is a machine that takes one character at a time.  `Lexer.Mode` is
where it stands, and `Lexer.step` is the machine.

A string literal is read into the text it denotes.  The escapes `\ud800` to
`\udbff` are the first half of a pair and count only together with a second half
right after them.  A literal with an unpaired half denotes no text, and the
machine goes on through it, as it is well formed.

A number ends where a character does not continue it.  What follows is a token
of its own, so `01` is two numbers, which no value has side by side.
-/

namespace ClassDiagram.Json

/-- A token of JSON. -/
inductive Token where
  | openBrace | closeBrace | openBracket | closeBracket | comma | colon
  | null
  | bool (b : Bool)
  | number (digits : String)
  /-- A string literal, with `none` for one that denotes no text. -/
  | string (text : Option String)
deriving DecidableEq, Repr

namespace Lexer

/-! ## Numbers -/

/-- How much of a number has been read. -/
inductive NumberPhase where
  | sign | zero | integer | point | fraction | exponent | exponentSign | power
deriving DecidableEq, Repr

namespace NumberPhase

/-- A number may end here. -/
def complete : NumberPhase → Bool
  | .zero | .integer | .fraction | .power => true
  | .sign | .point | .exponent | .exponentSign => false

/-- The phase after one more character, if the character continues the number. -/
def next? (phase : NumberPhase) (c : Char) : Option NumberPhase :=
  let mark := if c = '.' then some .point else if c = 'e' ∨ c = 'E' then some .exponent else none
  match phase with
  | .sign => if c = '0' then some .zero else if c.isDigit then some .integer else none
  | .zero => mark
  | .integer => if c.isDigit then some .integer else mark
  | .point => if c.isDigit then some .fraction else none
  | .fraction =>
      if c.isDigit then some .fraction else if c = 'e' ∨ c = 'E' then some .exponent else none
  | .exponent =>
      if c.isDigit then some .power else if c = '+' ∨ c = '-' then some .exponentSign else none
  | .exponentSign => if c.isDigit then some .power else none
  | .power => if c.isDigit then some .power else none

end NumberPhase

/-! ## Strings -/

/-- What has been read of a string literal. -/
structure Literal where
  /-- Its characters, newest first, or nothing once an unpaired half was met. -/
  read : Option (List Char) := some []
  /-- A first half of a pair that waits for its second. -/
  half : Option Nat := none

namespace Literal

/-- The literal with one more character. -/
def push (l : Literal) (c : Char) : Literal :=
  match l.half with
  | some _ => ⟨none, none⟩
  | none => ⟨l.read.map (c :: ·), none⟩

/-- The literal with one more unit of 16 bits. -/
def pushUnit (l : Literal) (unit : Nat) : Literal :=
  if 0xDC00 ≤ unit ∧ unit ≤ 0xDFFF then
    match l.half with
    | some high =>
        ⟨l.read.map (.ofNat (0x10000 + (high - 0xD800) * 0x400 + (unit - 0xDC00)) :: ·), none⟩
    | none => ⟨none, none⟩
  else if 0xD800 ≤ unit ∧ unit ≤ 0xDBFF then
    match l.half with
    | some _ => ⟨none, none⟩
    | none => ⟨l.read, some unit⟩
  else l.push (.ofNat unit)

/-- The text of a whole literal. -/
def text? (l : Literal) : Option String :=
  match l.half with
  | some _ => none
  | none => l.read.map fun cs => .ofList cs.reverse

end Literal

/-- The character that an escape of one letter stands for. -/
def escape? : Char → Option Char
  | '"' => some '"'
  | '\\' => some '\\'
  | '/' => some '/'
  | 'b' => some (.ofNat 8)
  | 'f' => some (.ofNat 12)
  | 'n' => some '\n'
  | 'r' => some '\r'
  | 't' => some '\t'
  | _ => none

/-- The value of a digit of base sixteen, in either case. -/
def hexValue? (c : Char) : Option Nat :=
  if c.isDigit then some (c.toNat - 48)
  else if 'a' ≤ c ∧ c ≤ 'f' then some (c.toNat - 87)
  else if 'A' ≤ c ∧ c ≤ 'F' then some (c.toNat - 55)
  else none

/-! ## The machine -/

/-- Where the machine stands. -/
inductive Mode where
  /-- Between tokens. -/
  | between
  /-- In a word, with the letters still to come and the token it is. -/
  | word (left : List Char) (token : Token)
  /-- In a number, with its characters, newest first. -/
  | number (phase : NumberPhase) (read : List Char)
  /-- In a string literal. -/
  | literal (l : Literal)
  /-- After a backslash. -/
  | escape (l : Literal)
  /-- In an escape by number, with the digits still to come and the value so far. -/
  | unit (left value : Nat) (l : Literal)

/-- The machine: where it stands, and the tokens read, newest first. -/
structure State where
  mode : Mode := .between
  tokens : List Token := []

namespace State

/-- The machine between tokens, after one more of them. -/
def emit (s : State) (t : Token) : State := ⟨.between, t :: s.tokens⟩

/-- The machine in another mode. -/
def goto (s : State) (mode : Mode) : State := ⟨mode, s.tokens⟩

/-- A character between tokens. -/
def start? (s : State) (c : Char) : Option State :=
  match c with
  | ' ' | '\t' | '\n' | '\r' => some (s.goto .between)
  | '{' => some (s.emit .openBrace)
  | '}' => some (s.emit .closeBrace)
  | '[' => some (s.emit .openBracket)
  | ']' => some (s.emit .closeBracket)
  | ',' => some (s.emit .comma)
  | ':' => some (s.emit .colon)
  | '"' => some (s.goto (.literal {}))
  | 'n' => some (s.goto (.word ['u', 'l', 'l'] .null))
  | 't' => some (s.goto (.word ['r', 'u', 'e'] (.bool true)))
  | 'f' => some (s.goto (.word ['a', 'l', 's', 'e'] (.bool false)))
  | '-' => some (s.goto (.number .sign ['-']))
  | c => (NumberPhase.sign.next? c).map fun phase => s.goto (.number phase [c])

/-- The number just read. -/
def endNumber (s : State) (read : List Char) : State := s.emit (.number (.ofList read.reverse))

/-- The machine after one more character. -/
def step (s : State) (c : Char) : Option State :=
  match s.mode with
  | .between => s.start? c
  | .word [] token => (s.emit token).start? c
  | .word [l] token => if c = l then some (s.emit token) else none
  | .word (l :: left) token => if c = l then some (s.goto (.word left token)) else none
  | .number phase read =>
      match phase.next? c with
      | some next => some (s.goto (.number next (c :: read)))
      | none => if phase.complete then (s.endNumber read).start? c else none
  | .literal l =>
      if c = '"' then some (s.emit (.string l.text?))
      else if c = '\\' then some (s.goto (.escape l))
      else if c.toNat < 32 then none
      else some (s.goto (.literal (l.push c)))
  | .escape l =>
      if c = 'u' then some (s.goto (.unit 4 0 l))
      else (escape? c).map fun e => s.goto (.literal (l.push e))
  | .unit left value l =>
      (hexValue? c).map fun d =>
        let value := 16 * value + d
        if left ≤ 1 then s.goto (.literal (l.pushUnit value)) else s.goto (.unit (left - 1) value l)

/-- The tokens, if the text may end here. -/
def finish? (s : State) : Option (List Token) :=
  match s.mode with
  | .between => some s.tokens.reverse
  | .number phase read => if phase.complete then some (s.endNumber read).tokens.reverse else none
  | _ => none

end State

end Lexer

/-- The tokens of a text. -/
def tokens? (text : String) : Option (List Token) :=
  (text.toList.foldlM Lexer.State.step {}).bind Lexer.State.finish?

end ClassDiagram.Json
