import Collective.Toml.Scalar
import Collective.Toml.Strings

/-!
# Reading TOML

`parse?` gives the entries of a document, or nothing if the text is no document.
Arrays and inline tables nest at most `maxDepth` deep, and a dotted key has at most
as many parts.
-/

namespace Collective.Toml

/-- How deep brackets nest, and how many parts a dotted key has, at most. -/
def maxDepth : Nat := 127

/-- A text without the blanks that it starts with. -/
def skipBlanks (chars : List Char) : List Char :=
  chars.dropWhile fun c => c == ' ' || c == '\t'

/-- A character that a comment may hold. -/
def isCommentChar (c : Char) : Bool :=
  c == '\t' || (0x20 ≤ c.toNat && c != '\x7f')

/-- The text after the end of a line, which may hold blanks and a comment. -/
def afterLine? (chars : List Char) : Option (List Char) :=
  let rest :=
    match skipBlanks chars with
    | '#' :: comment => comment.dropWhile isCommentChar
    | rest => rest
  match rest with
  | [] => some []
  | '\n' :: rest => some rest
  | '\r' :: '\n' :: rest => some rest
  | _ => none

/-- The text after blanks, line ends and comments, as they may stand between the items
of an array.  A comment reaches to the end of its line. -/
def skipSpace? : (inComment : Bool) → List Char → Option (List Char)
  | true, [] => none
  | true, '\n' :: rest => skipSpace? false rest
  | true, '\r' :: '\n' :: rest => skipSpace? false rest
  | true, c :: rest => if isCommentChar c then skipSpace? true rest else none
  | false, ' ' :: rest => skipSpace? false rest
  | false, '\t' :: rest => skipSpace? false rest
  | false, '\n' :: rest => skipSpace? false rest
  | false, '\r' :: '\n' :: rest => skipSpace? false rest
  | false, '#' :: rest => skipSpace? true rest
  | false, rest => some rest

/-- A character of a key without quotes. -/
def isKeyChar (c : Char) : Bool :=
  c.isAlphanum || c == '_' || c == '-'

/-- One part of a key. -/
def simpleKey? : List Char → Option (String × List Char)
  | '\x22' :: rest => (basicBody rest).map fun (name, rest) => (String.ofList name, rest)
  | '\x27' :: rest => (literalBody rest).map fun (name, rest) => (String.ofList name, rest)
  | chars =>
      let name := chars.takeWhile isKeyChar
      if name.isEmpty then none
      else some (String.ofList name, chars.dropWhile isKeyChar)

/-- The parts of a key of at most `parts` parts, with the blanks around them. -/
def key? : (parts : Nat) → List Char → Option (List String × List Char)
  | 0, _ => none
  | parts + 1, chars => do
      let (name, rest) ← simpleKey? (skipBlanks chars)
      match skipBlanks rest with
      | '.' :: rest =>
          let (names, rest) ← key? parts rest
          some (name :: names, rest)
      | rest => some ([name], rest)

/-- The items of an array after its opening bracket; a comma may follow the last. -/
def items? (item? : List Char → Option (Value × List Char)) :
    (fuel : Nat) → List Char → Option (List Value × List Char)
  | 0, _ => none
  | fuel + 1, chars => do
      match ← skipSpace? false chars with
      | ']' :: rest => some ([], rest)
      | chars =>
          let (item, rest) ← item? chars
          match ← skipSpace? false rest with
          | ',' :: rest =>
              let (others, rest) ← items? item? fuel rest
              some (item :: others, rest)
          | ']' :: rest => some ([item], rest)
          | _ => none

/-- One `key = value` pair, with the blanks around it. -/
def pair? (item? : List Char → Option (Value × List Char)) (chars : List Char) :
    Option ((List String × Value) × List Char) := do
  let (names, rest) ← key? maxDepth chars
  match rest with
  | '=' :: rest =>
      let (item, rest) ← item? (skipBlanks rest)
      some ((names, item), rest)
  | _ => none

/-- The pairs of an inline table, at least one, up to its closing brace. -/
def pairs? (item? : List Char → Option (Value × List Char)) :
    (fuel : Nat) → List Char → Option (List (List String × Value) × List Char)
  | 0, _ => none
  | fuel + 1, chars => do
      let (pair, rest) ← pair? item? chars
      match skipBlanks rest with
      | ',' :: rest =>
          let (others, rest) ← pairs? item? fuel rest
          some (pair :: others, rest)
      | '\x7d' :: rest => some ([pair], rest)
      | _ => none

/-- The entries of an inline table with the given pairs. -/
def inlineEntries? (pairs : List (List String × Value)) : Option Entries :=
  pairs.foldlM
    (fun entries (names, item) =>
      match names.getLast? with
      | none => none
      | some key => addAt? .inline names.dropLast key item .inline entries)
    []

/-- The value of a run of characters.  A date may be followed by a blank and a time. -/
def run? (chars : List Char) : Option (Value × List Char) :=
  let run := chars.takeWhile isScalarChar
  let rest := chars.dropWhile isScalarChar
  match rest with
  | ' ' :: digit :: more =>
      if isDate run && digit.isDigit then
        let time := (digit :: more).takeWhile isScalarChar
        if isZonedTime time then
          some (.moment (String.ofList (run ++ ' ' :: time)),
            (digit :: more).dropWhile isScalarChar)
        else none
      else (scalar? run).map (·, rest)
  | _ => (scalar? run).map (·, rest)

/-- The value that a text starts with, with brackets nested at most `depth` deep. -/
def value? : (depth : Nat) → List Char → Option (Value × List Char)
  | depth, chars =>
      match chars with
      | '\x22' :: _ => (string? chars).map fun (text, rest) => (.string text, rest)
      | '\x27' :: _ => (string? chars).map fun (text, rest) => (.string text, rest)
      | '[' :: rest =>
          match depth with
          | 0 => none
          | depth + 1 => do
              let (items, rest) ← items? (value? depth) (rest.length + 1) rest
              some (.array items, rest)
      | '\x7b' :: rest =>
          match depth with
          | 0 => none
          | depth + 1 =>
              match skipBlanks rest with
              | '\x7d' :: rest => some (.table .inline [], rest)
              | rest => do
                  let (pairs, rest) ← pairs? (value? depth) (rest.length + 1) rest
                  some (.table .inline (← inlineEntries? pairs), rest)
      | _ => run? chars

/-- The document so far and the header under which new pairs fall. -/
structure Draft where
  root : Entries := []
  header : List String := []

/-- Adds a pair under the header of the moment. -/
def Draft.add? (draft : Draft) (names : List String) (item : Value) : Option Draft := do
  let key ← names.getLast?
  let root ← alter? .header (addAt? .dotted names.dropLast key item) draft.header
    .header draft.root
  some { draft with root }

/-- Turns to a new header. -/
def Draft.turn? (draft : Draft) (names : List String) (element : Bool) : Option Draft := do
  let key ← names.getLast?
  let root ←
    if element then openElement? names.dropLast key draft.root
    else openTable? names.dropLast key draft.root
  some { root, header := names }

/-- Reads the statements of a document: pairs, headers, and empty lines. -/
def statements? : (fuel : Nat) → Draft → List Char → Option Entries
  | 0, _, _ => none
  | fuel + 1, draft, chars =>
      match skipBlanks chars with
      | [] => some draft.root
      | '\n' :: rest => statements? fuel draft rest
      | '\r' :: '\n' :: rest => statements? fuel draft rest
      | '#' :: comment => do statements? fuel draft (← afterLine? ('#' :: comment))
      | '[' :: '[' :: rest => do
          let (names, rest) ← key? maxDepth rest
          match rest with
          | ']' :: ']' :: rest =>
              statements? fuel (← draft.turn? names true) (← afterLine? rest)
          | _ => none
      | '[' :: rest => do
          let (names, rest) ← key? maxDepth rest
          match rest with
          | ']' :: rest => statements? fuel (← draft.turn? names false) (← afterLine? rest)
          | _ => none
      | chars => do
          let ((names, item), rest) ← pair? (value? maxDepth) chars
          statements? fuel (← draft.add? names item) (← afterLine? rest)

/-- The entries of a document; a byte order mark at its start counts for nothing. -/
def parse? (text : String) : Option Entries :=
  let chars :=
    match text.toList with
    | '\ufeff' :: rest => rest
    | chars => chars
  statements? (chars.length + 1) {} chars

end Collective.Toml
