/-!
# Numerals

A numeral is written in the digits 0 to 9 with no blanks or separators, and may
start with a sign.  Both readers are total on the digits and refuse a number
outside the range of the stated word.
-/

namespace ClassDiagram.Text

/-- The value of a digit. -/
def digit? (c : Char) : Option Nat := if c.isDigit then some (c.toNat - '0'.toNat) else none

/-- The number that a row of digits continues, read from the left. -/
def digitsFrom? (value : Nat) : List Char → Option Nat
  | [] => some value
  | c :: cs => (digit? c).bind fun d => digitsFrom? (10 * value + d) cs

/-- The number that a row of at least one digit denotes. -/
def digits? : List Char → Option Nat
  | [] => none
  | cs => digitsFrom? 0 cs

/-- The first number that does not fit 32 bits. -/
def word32Limit : Nat := 0x100000000

/-- The first number that does not fit 64 bits, of which one holds the sign. -/
def int64Limit : Nat := 0x8000000000000000

/-- An unsigned number of 32 bits, with or without a plus sign. -/
def word32? (cs : List Char) : Option UInt32 :=
  let unsigned := match cs with
    | '+' :: r => r
    | _ => cs
  (digits? unsigned).bind fun n => if n < word32Limit then some (.ofNat n) else none

/-- A signed number of 64 bits, with or without a sign. -/
def int64? (cs : List Char) : Option Int64 :=
  let (negative, unsigned) := match cs with
    | '+' :: r => (false, r)
    | '-' :: r => (true, r)
    | _ => (false, cs)
  (digits? unsigned).bind fun n =>
    if negative then if n ≤ int64Limit then some (.ofInt (-n)) else none
    else if n < int64Limit then some (.ofNat n) else none

end ClassDiagram.Text
