import ClassDiagram.Text.Split

/-!
# Switches

The arguments of a command line are switches and words.  A switch is given by
its name after two hyphens, or by its letter after one.  Switches without a
value may share a hyphen.  A value follows its switch in the next argument, or
in the same one, there with an equals sign before it, which may be left out
after a letter.

Arguments are read from left to right, and the first one that ends the reading
decides how: an argument that cannot be read, or a switch that asks for
something else than a command.  A word from a given list also ends the reading,
and what comes after it is left to the word.
-/

namespace ClassDiagram.CommandLine

open Text

/-- What ends the reading of arguments. -/
inductive Stop where
  /-- The arguments cannot be read. -/
  | usage
  /-- Help is asked for. -/
  | help
  /-- The version is asked for. -/
  | version
deriving DecidableEq, Repr

/-- A switch. -/
structure Switch where
  /-- Its name. -/
  name : String
  /-- Its letter, if it has one. -/
  letter : Option Char := none
  /-- It has a value. -/
  takesValue : Bool := false
  /-- It may be given more than once. -/
  repeatable : Bool := false
  /-- It may have this value. -/
  admits : String → Bool := fun _ => true
  /-- What it asks for instead of a command. -/
  stop : Option Stop := none

/-- The switches given so far, each with its value, which is empty if it takes none. -/
abbrev Given : Type := List (String × String)

namespace Given

/-- The switches with one more. -/
def add (given : Given) (s : Switch) (value : String) : Except Stop Given :=
  match s.stop with
  | some stop => .error stop
  | none =>
      if !s.repeatable && given.any (·.1 == s.name) then .error .usage
      else if s.admits value then .ok (given ++ [(s.name, value)])
      else .error .usage

/-- A switch is given. -/
def has (given : Given) (name : String) : Bool := given.any (·.1 == name)

/-- The value of a switch. -/
def value? (given : Given) (name : String) : Option String := given.lookup name

/-- The values of a switch, in order. -/
def values (given : Given) (name : String) : List String :=
  (given.filter (·.1 == name)).map (·.2)

end Given

/-- How far arguments have been read. -/
structure Reading where
  /-- The switches given so far. -/
  given : Given := []
  /-- A switch whose value comes next. -/
  pending : Option Switch := none

namespace Reading

/-- Reads the name of a switch, with its value if there is one. -/
def takeName (switches : List Switch) (given : Given) (argument : List Char) :
    Except Stop Reading := do
  let (name, value) : List Char × Option (List Char) :=
    match splitFirst '=' argument with
    | some (name, value) => (name, some value)
    | none => (argument, none)
  match switches.find? (·.name == String.ofList name) with
  | none => .error .usage
  | some s =>
      match s.takesValue, value with
      | true, some value => return { given := ← given.add s (.ofList value) }
      | true, none => return { given, pending := some s }
      | false, none => return { given := ← given.add s "" }
      | false, some _ => .error .usage

/-- Reads letters of switches.  What follows the letter of a switch with a value is that
value. -/
def takeLetters (switches : List Switch) (given : Given) : List Char → Except Stop Reading
  | [] => .ok { given }
  | c :: cs =>
      match switches.find? (·.letter == some c) with
      | none => .error .usage
      | some s =>
          if s.takesValue then
            match cs with
            | [] => .ok { given, pending := some s }
            | '=' :: value | value => do return { given := ← given.add s (.ofList value) }
          else do takeLetters switches (← given.add s "") cs

end Reading

/-- An argument is read as switches and not as a value.  A hyphen alone is a value. -/
def looksLikeSwitch (argument : String) : Bool :=
  argument.toList.head? == some '-' && argument != "-"

/-- Reads arguments up to a word of a list, and gives the switches and what is left.  After
two hyphens there may be nothing more. -/
def readSwitches (switches : List Switch) (words : List String) (r : Reading) :
    List String → Except Stop (Given × List String)
  | [] => if r.pending.isSome then .error .usage else .ok (r.given, [])
  | argument :: rest =>
      match r.pending with
      | some s => do
          if looksLikeSwitch argument then .error .usage
          else readSwitches switches words { given := ← r.given.add s argument } rest
      | none =>
          if words.contains argument then .ok (r.given, argument :: rest)
          else
            match argument.toList with
            | ['-', '-'] => if rest.isEmpty then .ok (r.given, []) else .error .usage
            | '-' :: '-' :: name => do
                readSwitches switches words (← Reading.takeName switches r.given name) rest
            | '-' :: c :: cs => do
                readSwitches switches words (← Reading.takeLetters switches r.given (c :: cs)) rest
            | _ => .error .usage

end ClassDiagram.CommandLine
