import Collective.Path
import Collective.Text.Extending
import Collective.Text.Unprintable
import Collective.Text.Utf8

/-!
# Quoted paths

Messages show a path between double quotes.  Characters without a printed form are
spelled by number, and bytes that are no UTF-8 in hexadecimal, so a quoted path is
one line of printable text that still tells two paths apart.
-/

namespace Collective.Text

/-- Whether a code point lies in one of some closed ranges. -/
def inRanges (ranges : List (Nat × Nat)) (code : Nat) : Bool :=
  ranges.any fun (first, last) => first ≤ code && code ≤ last

/-- The digits of a number in a base up to sixteen, most significant first. -/
def digits (base number : Nat) : List Char :=
  Nat.toDigits base number

/-- The characters that stand for one character between quotes. -/
def quotedChar (c : Char) : List Char :=
  if c = '\x00' then ['\x5c', '0']
  else if c = '\t' then ['\x5c', 't']
  else if c = '\r' then ['\x5c', 'r']
  else if c = '\n' then ['\x5c', 'n']
  else if c = '\x22' ∨ c = '\x5c' then ['\x5c', c]
  else if inRanges extendingRanges c.toNat || inRanges unprintableRanges c.toNat then
    ['\x5c', 'u', '\x7b'] ++ digits 16 c.toNat ++ ['\x7d']
  else [c]

/-- The characters that stand for one byte which is no UTF-8. -/
def quotedByte (byte : UInt8) : List Char :=
  let shown := (digits 16 byte.toNat).map Char.toUpper
  ['\x5c', 'x'] ++ List.replicate (2 - shown.length) '0' ++ shown

/-- A path between double quotes. -/
def quoted (path : Path) : String :=
  let inner := (Utf8.pieces path.bytes).flatMap fun
    | .inl character => quotedChar character
    | .inr byte => quotedByte byte
  String.ofList ('\x22' :: inner ++ ['\x22'])

/-- Some paths between square brackets, each quoted. -/
def quotedList (paths : List Path) : String :=
  "[" ++ ", ".intercalate (paths.map quoted) ++ "]"

end Collective.Text
