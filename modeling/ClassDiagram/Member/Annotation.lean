import ClassDiagram.Member.Constraints
import ClassDiagram.Text.Case
import ClassDiagram.Text.Numeral
import ClassDiagram.Text.Split

/-!
# Reading constraints

A constraint block is a list of tokens separated by commas, and no token holds a
brace.  A token with a colon gives a value to a key, and a token without one is
the name of a flag, in any case and in one of several spellings.  A token that
fits no rule is kept as it stands.

`Constraints.note` takes in one token.  No token takes back what an earlier one
said, and of two values for one key the later counts.
-/

namespace ClassDiagram

open Text

/-! ## Flags -/

/-- What the name of a flag stands for. -/
inductive Flag where
  | isStatic | isAbstract | isVirtual | isFinal | required | unique | primary | identity
  | generated | lob | foreign
deriving DecidableEq, Repr

/-- The spellings of the flags, in lower case. -/
def Flag.spellings : List (String × Flag) :=
  [("static", .isStatic), ("abstract", .isAbstract), ("virtual", .isVirtual),
   ("final", .isFinal), ("sealed", .isFinal), ("const", .isFinal), ("readonly", .isFinal),
   ("required", .required), ("notnull", .required), ("nonnull", .required),
   ("unique", .unique), ("pk", .primary), ("key", .primary),
   ("identity", .identity), ("id", .identity), ("counter", .identity), ("serial", .identity),
   ("autoincrement", .identity), ("auto_increment", .identity),
   ("generated", .generated), ("computed", .generated), ("lob", .lob), ("fk", .foreign)]

/-- The flag with a spelling, whatever its case. -/
def Flag.ofName? (name : String) : Option Flag := spellings.lookup (toLower name)

/-! ## Tokens -/

/-- The precision and scale of a number, of which the scale may be left out. -/
def size? (payload : List Char) : Option (UInt32 × UInt32) :=
  match splitFirst ':' payload with
  | some (precision, scale) => do
      let p ← word32? (trimChars precision)
      let s ← word32? (trimChars scale)
      some (p, s)
  | none => (word32? payload).map (·, 0)

namespace Constraints

/-- The constraints with one flag raised. -/
def raise (c : Constraints) : Flag → Constraints
  | .isStatic => { c with isStatic := true }
  | .isAbstract => { c with isAbstract := true }
  | .isVirtual => { c with isVirtual := true }
  | .isFinal => { c with isFinal := true }
  | .required => { c with required := true }
  | .unique => { c with unique := true }
  | .primary => { c with primary := true }
  | .identity => { c with identity := true }
  | .generated => { c with generated := true }
  | .lob => { c with lob := true }
  | .foreign => { c with foreign := true }

/-- The constraints with a text that means nothing known. -/
def keep (c : Constraints) (raw : List Char) : Constraints :=
  { c with other := c.other.insert (.ofList raw) }

/-- The constraints with a value given to a key, if the key is known and takes it. -/
def assign? (c : Constraints) (key : String) (payload : List Char) : Option Constraints :=
  if key = "fk" then
    if payload.isEmpty then none
    else some { c with foreign := true, foreignTarget := some (.ofList payload) }
  else if key = "length" then (word32? payload).map fun n => { c with length := some n }
  else if key = "size" then (size? payload).map fun s => { c with size := some s }
  else if key = "format" then
    if payload.isEmpty then none else some { c with format := some (.ofList payload) }
  else none

/-- The constraints with one more token taken in. -/
def note (c : Constraints) (token : List Char) : Constraints :=
  let raw := trimChars token
  if raw.isEmpty then c
  else
    match splitFirst ':' raw with
    | some (key, payload) =>
        (c.assign? (toLower (.ofList (trimChars key))) (trimChars payload)).getD (c.keep raw)
    | none =>
        match Flag.ofName? (.ofList raw) with
        | some flag => c.raise flag
        | none => c.keep raw

/-- What a list of tokens says. -/
def ofTokens (tokens : List (List Char)) : Constraints := tokens.foldl note {}

end Constraints

/-- The tokens of a constraint block without its braces. -/
def blockTokens? (block : List Char) : Option (List (List Char)) := items [',', '{', '}'] block

end ClassDiagram
