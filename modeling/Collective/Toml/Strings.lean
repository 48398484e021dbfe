import Collective.Integer
import Collective.Text.Utf8

/-!
# Strings of TOML

A string is written between double quotes, where a backslash spells other
characters, or between apostrophes, where every character stands for itself.
Either may be tripled, and may then span lines.

Each reader takes the text after the opening quotes, and gives the content with
the text after the closing ones.
-/

namespace Collective.Toml

/-- A character that stands for itself between double quotes. -/
def isBasicChar (c : Char) : Bool :=
  c == '\t' || (0x20 ≤ c.toNat && c != '\x22' && c != '\x5c' && c != '\x7f')

/-- A character that stands for itself between apostrophes. -/
def isLiteralChar (c : Char) : Bool :=
  c == '\t' || (0x20 ≤ c.toNat && c != '\x27' && c != '\x7f')

/-- The character that a letter after a backslash spells. -/
def escaped? : Char → Option Char
  | 'b' => some '\x08'
  | 't' => some '\t'
  | 'n' => some '\n'
  | 'f' => some '\x0c'
  | 'r' => some '\r'
  | '\x22' => some '\x22'
  | '\x5c' => some '\x5c'
  | _ => none

/-- The character whose number some hexadecimal digits give. -/
def numbered? (digits : List Char) : Option Char := do
  Text.Utf8.character? 0 (← Integer.magnitude? 16 digits)

/-- Puts a character in front of the content of a string. -/
def prepend (c : Char) (body : Option (List Char × List Char)) :
    Option (List Char × List Char) :=
  body.map fun (content, rest) => (c :: content, rest)

/-- The rest of a string between double quotes. -/
def basicBody : List Char → Option (List Char × List Char)
  | [] => none
  | '\x22' :: rest => some ([], rest)
  | '\x5c' :: 'u' :: a :: b :: c :: d :: rest =>
      (numbered? [a, b, c, d]).bind fun spelled => prepend spelled (basicBody rest)
  | '\x5c' :: 'U' :: a :: b :: c :: d :: e :: f :: g :: h :: rest =>
      (numbered? [a, b, c, d, e, f, g, h]).bind fun spelled =>
        prepend spelled (basicBody rest)
  | '\x5c' :: letter :: rest =>
      (escaped? letter).bind fun spelled => prepend spelled (basicBody rest)
  | c :: rest => if isBasicChar c then prepend c (basicBody rest) else none

/-- The rest of a string between apostrophes. -/
def literalBody : List Char → Option (List Char × List Char)
  | [] => none
  | '\x27' :: rest => some ([], rest)
  | c :: rest => if isLiteralChar c then prepend c (literalBody rest) else none

/-- Whether only blanks stand before the end of the line. -/
def endsLine (chars : List Char) : Bool :=
  match chars.dropWhile fun c => c == ' ' || c == '\t' with
  | '\n' :: _ => true
  | '\r' :: '\n' :: _ => true
  | _ => false

/-- The rest of a string between tripled double quotes.  After a backslash at the end
of a line, blanks and line ends are `skipping`.  Up to two quotes may stand right
before the closing ones. -/
def multilineBody : (skipping : Bool) → List Char → Option (List Char × List Char)
  | _, [] => none
  | true, ' ' :: rest => multilineBody true rest
  | true, '\t' :: rest => multilineBody true rest
  | true, '\n' :: rest => multilineBody true rest
  | true, '\r' :: '\n' :: rest => multilineBody true rest
  | _, '\x22' :: '\x22' :: '\x22' :: '\x22' :: '\x22' :: rest =>
      some (['\x22', '\x22'], rest)
  | _, '\x22' :: '\x22' :: '\x22' :: '\x22' :: rest => some (['\x22'], rest)
  | _, '\x22' :: '\x22' :: '\x22' :: rest => some ([], rest)
  | _, '\x22' :: rest => prepend '\x22' (multilineBody false rest)
  | _, '\r' :: '\n' :: rest => prepend '\n' (multilineBody false rest)
  | _, '\n' :: rest => prepend '\n' (multilineBody false rest)
  | _, '\x5c' :: 'u' :: a :: b :: c :: d :: rest =>
      (numbered? [a, b, c, d]).bind fun spelled =>
        prepend spelled (multilineBody false rest)
  | _, '\x5c' :: 'U' :: a :: b :: c :: d :: e :: f :: g :: h :: rest =>
      (numbered? [a, b, c, d, e, f, g, h]).bind fun spelled =>
        prepend spelled (multilineBody false rest)
  | _, '\x5c' :: letter :: rest =>
      match escaped? letter with
      | some spelled => prepend spelled (multilineBody false rest)
      | none => if endsLine (letter :: rest) then multilineBody true rest else none
  | _, c :: rest => if isBasicChar c then prepend c (multilineBody false rest) else none

/-- The rest of a string between tripled apostrophes. -/
def multilineLiteralBody : List Char → Option (List Char × List Char)
  | [] => none
  | '\x27' :: '\x27' :: '\x27' :: '\x27' :: '\x27' :: rest => some (['\x27', '\x27'], rest)
  | '\x27' :: '\x27' :: '\x27' :: '\x27' :: rest => some (['\x27'], rest)
  | '\x27' :: '\x27' :: '\x27' :: rest => some ([], rest)
  | '\x27' :: rest => prepend '\x27' (multilineLiteralBody rest)
  | '\r' :: '\n' :: rest => prepend '\n' (multilineLiteralBody rest)
  | '\n' :: rest => prepend '\n' (multilineLiteralBody rest)
  | c :: rest => if isLiteralChar c then prepend c (multilineLiteralBody rest) else none

/-- A text without the line end that it may start with. -/
def skipNewline : List Char → List Char
  | '\n' :: rest => rest
  | '\r' :: '\n' :: rest => rest
  | chars => chars

/-- The string that a text starts with, if it starts with a quote. -/
def string? : List Char → Option (String × List Char)
  | '\x22' :: '\x22' :: '\x22' :: rest => finish (multilineBody false (skipNewline rest))
  | '\x27' :: '\x27' :: '\x27' :: rest => finish (multilineLiteralBody (skipNewline rest))
  | '\x22' :: rest => finish (basicBody rest)
  | '\x27' :: rest => finish (literalBody rest)
  | _ => none
where
  /-- Makes a text of the content. -/
  finish (body : Option (List Char × List Char)) : Option (String × List Char) :=
    body.map fun (content, rest) => (String.ofList content, rest)

end Collective.Toml
