import Collective.Integer
import Collective.Toml.Value

/-!
# Truth values, numbers and moments of TOML

What is neither a string nor bracketed is one run of letters, digits and the marks
`+ - _ . :`.  The kinds of such runs do not overlap.
-/

namespace Collective.Toml

/-- A character of a run. -/
def isScalarChar (c : Char) : Bool :=
  c.isAlphanum || c == '+' || c == '-' || c == '_' || c == '.' || c == ':'

/-- Digits with single underscores between them, without the underscores. -/
def grouped? (isDigit : Char → Bool) : List Char → Option (List Char)
  | [] => none
  | [c] => if isDigit c then some [c] else none
  | c :: '_' :: rest => if isDigit c then (grouped? isDigit rest).map (c :: ·) else none
  | c :: rest => if isDigit c then (grouped? isDigit rest).map (c :: ·) else none

/-- The digits of a decimal integer, which start with zero only if that is all. -/
def decimalDigits? (chars : List Char) : Option (List Char) :=
  match grouped? Char.isDigit chars with
  | some ('0' :: _ :: _) => none
  | digits => digits

/-- The number of an integer without a sign, in the base that its mark names. -/
def basedInteger? : List Char → Option Nat
  | '0' :: 'x' :: digits =>
      (grouped? (fun c => (Integer.digit? 16 c).isSome) digits).bind (Integer.magnitude? 16)
  | '0' :: 'o' :: digits =>
      (grouped? (fun c => (Integer.digit? 8 c).isSome) digits).bind (Integer.magnitude? 8)
  | '0' :: 'b' :: digits =>
      (grouped? (fun c => (Integer.digit? 2 c).isSome) digits).bind (Integer.magnitude? 2)
  | digits => (decimalDigits? digits).bind (Integer.magnitude? 10)

/-- The signed 64-bit integer that a run denotes.  Only decimal integers take a
sign. -/
def integer? (chars : List Char) : Option Int :=
  let number : Option Int :=
    match chars with
    | '-' :: digits =>
        ((decimalDigits? digits).bind (Integer.magnitude? 10)).map fun size => -(size : Int)
    | '+' :: digits =>
        ((decimalDigits? digits).bind (Integer.magnitude? 10)).map fun size => (size : Int)
    | digits => (basedInteger? digits).map fun size => (size : Int)
  number.filter Integer.fits

/-- Whether `mantissa * 10 ^ exponent` is below the least number that rounds to
infinity in double precision. -/
def roundsToFinite (mantissa : Nat) (exponent : Int) : Bool :=
  let size := (Nat.toDigits 10 mantissa).length
  let bound := Nat.pow 2 1024 - Nat.pow 2 970
  if mantissa = 0 then true
  else if size + exponent ≤ 308 then true
  else if 310 ≤ size + exponent then false
  else if 0 ≤ exponent then mantissa * Nat.pow 10 exponent.toNat < bound
  else mantissa < bound * Nat.pow 10 (-exponent).toNat

/-- The exponent of a float: `e`, perhaps a sign, and digits. -/
def exponent? : List Char → Option Int
  | [] => some 0
  | mark :: rest =>
      if mark = 'e' ∨ mark = 'E' then
        match rest with
        | '-' :: digits => (number? digits).map fun size => -(size : Int)
        | '+' :: digits => (number? digits).map fun size => (size : Int)
        | digits => (number? digits).map fun size => (size : Int)
      else none
where
  /-- The number of some digits, which may start with zeros. -/
  number? (digits : List Char) : Option Nat :=
    (grouped? Char.isDigit digits).bind (Integer.magnitude? 10)

/-- The characters of a run up to the first that is no digit or underscore, and the
others. -/
def spanDigits (chars : List Char) : List Char × List Char :=
  let inDigits := fun c : Char => c.isDigit || c == '_'
  (chars.takeWhile inDigits, chars.dropWhile inDigits)

/-- Whether a run is a float, with a fraction or an exponent.  A float above all finite
doubles is refused; one below them is not. -/
def isFloat (chars : List Char) : Bool :=
  let (negative, unsigned) := Integer.signAndRest chars
  if unsigned = ['i', 'n', 'f'] ∨ unsigned = ['n', 'a', 'n'] then true
  else
    let (whole, rest) := spanDigits unsigned
    let parts : Option (Nat × Int) :=
      match rest with
      | [] => none
      | '.' :: rest => do
          let (fraction, rest) := spanDigits rest
          let whole ← decimalDigits? whole
          let fraction ← grouped? Char.isDigit fraction
          let power ← exponent? rest
          let mantissa ← Integer.magnitude? 10 (whole ++ fraction)
          some (mantissa, power - fraction.length)
      | rest => do
          let whole ← decimalDigits? whole
          let power ← exponent? rest
          some (← Integer.magnitude? 10 whole, power)
    parts.any fun (mantissa, power) => negative || roundsToFinite mantissa power

/-- The number that exactly `count` decimal digits denote, and the rest. -/
def field? (count : Nat) (chars : List Char) : Option (Nat × List Char) :=
  let digits := chars.take count
  if digits.length = count ∧ digits.all Char.isDigit then
    (Integer.magnitude? 10 digits).map fun number => (number, chars.drop count)
  else none

/-- The text after one given character. -/
def after? (c : Char) : List Char → Option (List Char)
  | [] => none
  | head :: rest => if head = c then some rest else none

/-- The text after a date.  Every month may have 31 days. -/
def afterDate? (chars : List Char) : Option (List Char) := do
  let (_, rest) ← field? 4 chars
  let (month, rest) ← field? 2 (← after? '-' rest)
  let (day, rest) ← field? 2 (← after? '-' rest)
  if 1 ≤ month ∧ month ≤ 12 ∧ 1 ≤ day ∧ day ≤ 31 then some rest else none

/-- The text after a time of day. -/
def afterTime? (chars : List Char) : Option (List Char) := do
  let (hour, rest) ← field? 2 chars
  let (minute, rest) ← field? 2 (← after? ':' rest)
  let (second, rest) ← field? 2 (← after? ':' rest)
  if hour ≤ 23 ∧ minute ≤ 59 ∧ second ≤ 60 then
    match rest with
    | '.' :: digit :: rest =>
        if digit.isDigit then some (rest.dropWhile Char.isDigit) else none
    | rest => some rest
  else none

/-- Whether a text is the offset of a time from the universal one. -/
def isOffset : List Char → Bool
  | ['Z'] => true
  | ['z'] => true
  | sign :: rest =>
      (sign == '+' || sign == '-') &&
        (do
          let (hour, rest) ← field? 2 rest
          let (minute, rest) ← field? 2 (← after? ':' rest)
          some (hour ≤ 23 && minute ≤ 59 && rest.isEmpty)).getD false
  | [] => false

/-- Whether a text is a time of day, perhaps with an offset. -/
def isZonedTime (chars : List Char) : Bool :=
  (afterTime? chars).any fun rest => rest.isEmpty || isOffset rest

/-- Whether a run is a date. -/
def isDate (chars : List Char) : Bool :=
  afterDate? chars == some []

/-- Whether a run is a date, a time, or both with a `T` between them. -/
def isMoment (chars : List Char) : Bool :=
  match afterDate? chars with
  | some [] => true
  | some (mark :: time) => (mark == 'T' || mark == 't') && isZonedTime time
  | none => afterTime? chars == some []

/-- The value that a run denotes. -/
def scalar? (chars : List Char) : Option Value :=
  if chars = ['t', 'r', 'u', 'e'] then some (.boolean true)
  else if chars = ['f', 'a', 'l', 's', 'e'] then some (.boolean false)
  else
    match integer? chars with
    | some number => some (.integer number)
    | none =>
        if isFloat chars then some (.float (String.ofList chars))
        else if isMoment chars then some (.moment (String.ofList chars))
        else none

end Collective.Toml
