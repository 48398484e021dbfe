import Collective.Text.Blank

/-!
# Integers in environment variables

A numeral is decimal, hexadecimal after `0x`, or octal after a leading zero.  The
reader removes one sign and the mark of the base; the digits that remain may carry a
sign once more, and have to denote a signed 64-bit integer.  The sign in front is
applied last, so the smallest integer has no negation: that is an overflow and not a
malformed text.
-/

namespace Collective.Integer

/-- What the text of a numeral comes to. -/
inductive Reading where
  | value (number : Int)
  | malformed
  | overflow
  deriving DecidableEq, Repr

/-- The value of a digit, where it is one of the base. -/
def digit? (base : Nat) (c : Char) : Option Nat :=
  let code := c.toNat
  let value :=
    if 48 ≤ code ∧ code ≤ 57 then some (code - 48)
    else if 97 ≤ code ∧ code ≤ 102 then some (code - 87)
    else if 65 ≤ code ∧ code ≤ 70 then some (code - 55)
    else none
  value.filter (· < base)

/-- The number that digits continue, most significant first. -/
def extend? (base : Nat) : Nat → List Char → Option Nat
  | number, [] => some number
  | number, c :: rest =>
      match digit? base c with
      | some value => extend? base (number * base + value) rest
      | none => none

/-- The number that one or more digits denote. -/
def magnitude? (base : Nat) : List Char → Option Nat
  | [] => none
  | chars => extend? base 0 chars

/-- Whether an integer is a signed 64-bit one. -/
def fits (number : Int) : Bool :=
  Int64.minValue.toInt ≤ number && number ≤ Int64.maxValue.toInt

/-- The signed 64-bit integer that digits denote, which may carry a sign. -/
def signed? (base : Nat) (chars : List Char) : Option Int :=
  let number : Option Int :=
    match chars with
    | '-' :: digits => (magnitude? base digits).map fun size => -(size : Int)
    | '+' :: digits => (magnitude? base digits).map fun size => (size : Int)
    | digits => (magnitude? base digits).map fun size => (size : Int)
  number.filter fits

/-- A text without the mark of its base, and the base. -/
def baseAndDigits : List Char → Nat × List Char
  | '0' :: 'x' :: digits => (16, digits)
  | '0' :: 'X' :: digits => (16, digits)
  | '0' :: c :: digits => (8, c :: digits)
  | digits => (10, digits)

/-- A text without its leading sign, and whether that is a minus. -/
def signAndRest : List Char → Bool × List Char
  | '-' :: rest => (true, rest)
  | '+' :: rest => (false, rest)
  | rest => (false, rest)

/-- The integer that a text denotes, white space around it aside. -/
def read (text : String) : Reading :=
  let (negative, unsigned) := signAndRest (Text.trim text.toList)
  let (base, digits) := baseAndDigits unsigned
  match signed? base digits with
  | none => .malformed
  | some number =>
      if negative then
        if number = Int64.minValue.toInt then .overflow else .value (-number)
      else .value number

end Collective.Integer
