import ClassDiagram.Member.Annotation
import ClassDiagram.Member.Basic

/-!
# Signatures

A line of a class box is the signature of a member.

```
property := [mark] name [":" type] ["=" value] [block]
method   := [mark] name ["(" [param ("," param)*] ")"] [":" type] [block]
param    := [name ":"] type
mark     := "+" | "#" | "-"
block    := "{" token ("," token)* "}"
```

The block is what follows the last opening brace, and a line with a closing
brace must end with it.  The parameter list runs from the first opening to the
last closing parenthesis.  Blanks around each part do not count.

A line that does not fit is refused with the first fault found, in the order of
`SignatureFault`.
-/

namespace ClassDiagram

open Text

/-! ## Faults -/

/-- Why a line is no signature. -/
inductive SignatureFault where
  | closingBraceAlone
  | textAfterBlock
  | bracesInBlock
  | closingParenthesisAlone
  | missingClosingParenthesis
  | missingName
  | nestedParentheses
  | textAfterParameters (tail : String)
deriving DecidableEq, Repr

/-- The wording of a fault. -/
def SignatureFault.message : SignatureFault → String
  | .closingBraceAlone => "closing brace without opening brace"
  | .textAfterBlock => "text after constraint block"
  | .bracesInBlock => "unbalanced braces in constraint block"
  | .closingParenthesisAlone => "closing parenthesis without opening parenthesis"
  | .missingClosingParenthesis => "missing closing parenthesis"
  | .missingName => "missing member name"
  | .nestedParentheses => "nested parentheses in parameter list"
  | .textAfterParameters tail => "unexpected '" ++ tail ++ "' after parameter list"

/-- A line that is no signature. -/
structure MalformedSignature where
  /-- The line as it was given. -/
  line : String
  /-- Why it is refused. -/
  fault : SignatureFault
deriving DecidableEq, Repr

/-- The report that a line is refused for a reason. -/
def malformedReport (line reason : String) : String :=
  "Malformed signature '" ++ line ++ "': " ++ reason

/-- The report of a line that is no signature. -/
def MalformedSignature.message (e : MalformedSignature) : String :=
  malformedReport e.line e.fault.message

/-! ## The parts of a line -/

/-- A line without its constraint block, and what the block says. -/
def splitBlock (line : List Char) : Except SignatureFault (List Char × Constraints) :=
  let text := trimChars line
  match splitLast '}' text with
  | none => .ok (text, {})
  | some (upto, tail) =>
      match splitLast '{' upto with
      | none => .error .closingBraceAlone
      | some (body, block) =>
          if (trimChars tail).isEmpty then
            match blockTokens? block with
            | none => .error .bracesInBlock
            | some tokens => .ok (trimEndChars body, .ofTokens tokens)
          else .error .textAfterBlock

/-- The access a line starts with, and the rest of the line. -/
def splitMark : List Char → Access × List Char
  | [] => (.owner, [])
  | c :: cs =>
      match Access.ofMark? c with
      | some access => (access, trimStartChars cs)
      | none => (.owner, c :: cs)

/-- A name, which must not be blank. -/
def nameOf (cs : List Char) : Except SignatureFault String :=
  let name := trimChars cs
  if name.isEmpty then .error .missingName else .ok (.ofList name)

/-- A text, or another one in its place if it is blank. -/
def trimmedOr (other : String) (cs : List Char) : String :=
  let text := trimChars cs
  if text.isEmpty then other else .ofList text

/-- The parts of a text around a character, of which the second is empty if the
character does not occur. -/
def splitOptional (mark : Char) (cs : List Char) : List Char × List Char :=
  (splitFirst mark cs).getD (cs, [])

/-- The parameter at a place of the list. -/
def parameterOf (index : Nat) (item : List Char) : Parameter :=
  match splitFirst ':' item with
  | some (name, type) =>
      { name := trimmedOr (Parameter.positionalName index) name
        type := trimmedOr unspecifiedType type }
  | none => { name := Parameter.positionalName index, type := .ofList item }

/-- The parameters of a list. -/
def parametersOf (list : List Char) : Except SignatureFault (List Parameter) :=
  match items [',', '(', ')'] list with
  | none => .error .nestedParentheses
  | some entries => .ok (entries.mapIdx parameterOf)

/-- The return type that follows a parameter list. -/
def returnOf (tail : List Char) : Except SignatureFault String :=
  match trimChars tail with
  | [] => .ok voidType
  | ':' :: type => .ok (trimmedOr voidType type)
  | text => .error (.textAfterParameters (.ofList text))

/-! ## Reading lines -/

/-- The property that a line stands for. -/
def readProperty (line : List Char) : Except SignatureFault Property := do
  let (text, constraints) ← splitBlock line
  let (access, rest) := splitMark text
  let (declaration, value) := splitOptional '=' rest
  let (before, type) := splitOptional ':' declaration
  let name ← nameOf before
  let initial := trimChars value
  return {
    access
    name
    type := trimmedOr unspecifiedType type
    initial := if initial.isEmpty then none else some (.ofList initial)
    constraints }

/-- The method that a line stands for. -/
def readMethod (line : List Char) : Except SignatureFault Method := do
  let (text, constraints) ← splitBlock line
  let (access, rest) := splitMark text
  match splitFirst '(' rest with
  | none =>
      if ')' ∈ rest then .error .closingParenthesisAlone
      else
        let (before, type) := splitOptional ':' rest
        let name ← nameOf before
        return { access, name, returns := trimmedOr voidType type, constraints }
  | some (before, after) =>
      match splitLast ')' after with
      | none => .error .missingClosingParenthesis
      | some (list, tail) =>
          let name ← nameOf before
          let parameters ← parametersOf list
          let returns ← returnOf tail
          return { access, name, parameters, returns, constraints }

/-- The member of a sort that a line stands for. -/
def readMember (kind : MemberKind) (line : List Char) : Except SignatureFault Member :=
  match kind with
  | .property => (readProperty line).map .property
  | .method => (readMethod line).map .method

/-- The property that a line stands for, or the line with its fault. -/
def Property.ofLine (line : String) : Except MalformedSignature Property :=
  (readProperty line.toList).mapError (⟨line, ·⟩)

/-- The method that a line stands for, or the line with its fault. -/
def Method.ofLine (line : String) : Except MalformedSignature Method :=
  (readMethod line.toList).mapError (⟨line, ·⟩)

/-- The member of a sort that a line stands for, or the line with its fault. -/
def Member.ofLine (kind : MemberKind) (line : String) : Except MalformedSignature Member :=
  (readMember kind line.toList).mapError (⟨line, ·⟩)

end ClassDiagram
