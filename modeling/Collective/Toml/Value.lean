/-!
# TOML values and the tables of a document

A document is a table whose entries keep the order in which they were written.
Every table remembers how it came about, because that decides what may still be
added to it: an inline table is closed once the braces around it are, a table with a
header can be given sub-tables but no second header, a table that only stands in a
longer header may still get its own, and a table made by a dotted key grows by dotted
keys alone.
-/

namespace Collective.Toml

/-- How a table came about. -/
inductive Origin where
  /-- Written between braces. -/
  | inline
  /-- Opened by a header of its own. -/
  | header
  /-- Passed through by the header of a sub-table. -/
  | implied
  /-- Passed through by a dotted key. -/
  | dotted
  deriving DecidableEq, Repr

/-- A TOML value.  Floats and moments keep their text, since no setting holds one. -/
inductive Value where
  | string (text : String)
  | integer (number : Int)
  | float (text : String)
  | boolean (truth : Bool)
  | moment (text : String)
  | array (items : List Value)
  | table (origin : Origin) (entries : List (String × Value))
  /-- Tables that share a doubled header, the latest one last. -/
  | tables (elements : List (List (String × Value)))
  deriving Inhabited

/-- The entries of a table, in the order in which they were written. -/
abbrev Entries := List (String × Value)

namespace Entries

/-- Puts a value at a key, in place of the value that is there. -/
def put (key : String) (value : Value) : Entries → Entries
  | [] => [(key, value)]
  | (other, old) :: rest =>
      if other = key then (key, value) :: rest else (other, old) :: put key value rest

/-- Adds a value at a new key; a key may be given once. -/
def insertNew? (key : String) (value : Value) (entries : Entries) : Option Entries :=
  if (entries.lookup key).isSome then none else some (entries ++ [(key, value)])

end Entries

/-- The three ways along which a path of keys is followed. -/
inductive Way where
  /-- The keys of a header. -/
  | header
  /-- A dotted key of a document. -/
  | dotted
  /-- A dotted key between braces. -/
  | inline
  deriving DecidableEq, Repr

/-- How a table comes about that a path of keys passes through for the first time. -/
def Way.makes : Way → Origin
  | .header => .implied
  | .dotted | .inline => .dotted

/-- Whether a path of keys may pass through a table. -/
def Way.enters : Way → Origin → Bool
  | .header, origin => origin != .inline
  | .dotted, origin => origin == .implied || origin == .dotted
  | .inline, origin => origin == .inline || origin == .dotted

/-- Changes the table at the end of a path of keys.  Missing tables are made, and of
tables that share a doubled header the latest is meant. -/
def alter? (way : Way) (change : Origin → Entries → Option Entries) :
    List String → Origin → Entries → Option Entries
  | [], origin, entries => change origin entries
  | key :: keys, _, entries =>
      match entries.lookup key with
      | none => do
          let inner ← alter? way change keys way.makes []
          some (entries.put key (.table way.makes inner))
      | some (.table origin inner) =>
          if way.enters origin then do
            let inner ← alter? way change keys origin inner
            some (entries.put key (.table origin inner))
          else none
      | some (.tables elements) =>
          if way = .inline then none
          else
            match elements.getLast? with
            | none => none
            | some latest => do
                let inner ← alter? way change keys .header latest
                some (entries.put key (.tables (elements.dropLast ++ [inner])))
      | some _ => none

/-- Adds a value at a dotted key.  In a document the table that the key ends in must
have been made by dotted keys; between braces any table there will do. -/
def addAt? (way : Way) (path : List String) (key : String) (value : Value)
    (origin : Origin) (entries : Entries) : Option Entries :=
  alter? way
    (fun last inner =>
      if way = .dotted && !path.isEmpty && last != .dotted then none
      else inner.insertNew? key value)
    path origin entries

/-- Opens the table of a header.  A table that was only passed through so far becomes
one with a header. -/
def openTable? (parents : List String) (key : String) (entries : Entries) :
    Option Entries :=
  alter? .header
    (fun _ inner =>
      match inner.lookup key with
      | none => some (inner.put key (.table .header []))
      | some (.table .implied own) => some (inner.put key (.table .header own))
      | some _ => none)
    parents .header entries

/-- Opens a further table of a doubled header. -/
def openElement? (parents : List String) (key : String) (entries : Entries) :
    Option Entries :=
  alter? .header
    (fun _ inner =>
      match inner.lookup key with
      | none => some (inner.put key (.tables [[]]))
      | some (.tables elements) => some (inner.put key (.tables (elements ++ [[]])))
      | some _ => none)
    parents .header entries

end Collective.Toml
