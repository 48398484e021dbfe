import Collective.Toml.Value
import Collective.Text.Quoted

/-!
# Writing TOML

Settings are written one `key = value` pair a line.  A string is quoted with
apostrophes where that spares backslashes, and else with double quotes; either are
tripled for a text of several lines.
-/

namespace Collective.Toml

/-- The quotes around a string. -/
inductive Quotes where
  /-- One quote on each side. -/
  | single
  /-- Three apostrophes on each side, on one line. -/
  | triple
  /-- Three quotes on each side, the text starting on the next line. -/
  | lines
  deriving DecidableEq, Repr

/-- A character that a string between apostrophes cannot hold. -/
def needsEscape (c : Char) : Bool :=
  (c.toNat < 0x20 && c != '\t' && c != '\n') || c == '\x7f'

/-- The length of the longest run of apostrophes, given the length of the run that
ends here. -/
def longestQuoteRun : (run : Nat) → List Char → Nat
  | run, [] => run
  | run, c :: rest =>
      if c = '\x27' then longestQuoteRun (run + 1) rest
      else max run (longestQuoteRun 0 rest)

/-- Whether a string is written between apostrophes: it must hold a backslash, and
nothing that apostrophes cannot enclose. -/
def prefersLiteral (chars : List Char) : Bool :=
  chars.contains '\x5c' && !chars.any needsEscape &&
    longestQuoteRun 0 chars < 3 && chars.getLast? != some '\x27'

/-- The characters that stand for one character between double quotes. -/
def basicChar (multiline : Bool) (c : Char) : List Char :=
  if c = '\x08' then ['\x5c', 'b']
  else if c = '\t' then ['\x5c', 't']
  else if c = '\n' then if multiline then ['\n'] else ['\x5c', 'n']
  else if c = '\x0c' then ['\x5c', 'f']
  else if c = '\r' then ['\x5c', 'r']
  else if c = '\x22' ∨ c = '\x5c' then ['\x5c', c]
  else if c.toNat < 0x20 ∨ c = '\x7f' then
    let shown := (Nat.toDigits 16 c.toNat).map Char.toUpper
    ['\x5c', 'u'] ++ List.replicate (4 - shown.length) '0' ++ shown
  else [c]

/-- A string between apostrophes. -/
def literalText (quotes : Quotes) (chars : List Char) : List Char :=
  match quotes with
  | .single => ['\x27'] ++ chars ++ ['\x27']
  | .triple => ['\x27', '\x27', '\x27'] ++ chars ++ ['\x27', '\x27', '\x27']
  | .lines => ['\x27', '\x27', '\x27', '\n'] ++ chars ++ ['\x27', '\x27', '\x27']

/-- A string between double quotes. -/
def basicText (multiline : Bool) (chars : List Char) : List Char :=
  let inner := chars.flatMap (basicChar multiline)
  if multiline then
    ['\x22', '\x22', '\x22', '\n'] ++ inner ++ ['\x22', '\x22', '\x22']
  else ['\x22'] ++ inner ++ ['\x22']

/-- The text of a string. -/
def stringText (text : String) : List Char :=
  let chars := text.toList
  let multiline := chars.contains '\n'
  if prefersLiteral chars then
    let quotes :=
      if multiline then Quotes.lines
      else if chars.contains '\x27' then Quotes.triple
      else Quotes.single
    literalText quotes chars
  else basicText multiline chars

/-- The values that are written: strings, integers and truth values. -/
inductive Plain where
  | string (text : String)
  | integer (number : Nat)
  | boolean (truth : Bool)
  deriving DecidableEq, Repr

/-- The value that a plain one is read as. -/
def Plain.value : Plain → Value
  | .string text => .string text
  | .integer number => .integer number
  | .boolean truth => .boolean truth

/-- The text of a plain value.  An integer above the signed 64-bit ones has none. -/
def Plain.text? : Plain → Option (List Char)
  | .string text => some (stringText text)
  | .integer number =>
      if number ≤ Int64.maxValue.toNatClampNeg then some (Nat.toDigits 10 number) else none
  | .boolean truth => some (if truth then ['t', 'r', 'u', 'e'] else ['f', 'a', 'l', 's', 'e'])

/-- The lines of some pairs, in order. -/
def lines? : List (String × Plain) → Option (List Char)
  | [] => some []
  | (key, item) :: rest => do
      let shown ← item.text?
      let others ← lines? rest
      some (key.toList ++ [' ', '=', ' '] ++ shown ++ ['\n'] ++ others)

/-- The document of some pairs, whose keys need no quotes. -/
def render? (pairs : List (String × Plain)) : Option String :=
  (lines? pairs).map String.ofList

end Collective.Toml
