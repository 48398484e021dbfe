import Collective.Path
import Collective.Toml.Value

/-!
# Fields of a table

Readers for the settings of a table.  A field is absent, or it holds a value of the
wanted kind; everything else is refused.
-/

namespace Collective.Toml

namespace Value

/-- The truth value that a value is. -/
def boolean? : Value → Option Bool
  | .boolean truth => some truth
  | _ => none

/-- The text that a value is. -/
def text? : Value → Option String
  | .string text => some text
  | _ => none

/-- The path that a value spells. -/
def path? : Value → Option Path
  | .string text => some (.ofString text)
  | _ => none

/-- The 64-bit word that a value is. -/
def word64? : Value → Option UInt64
  | .integer number => if 0 ≤ number then some number.toNat.toUInt64 else none
  | _ => none

/-- The 32-bit word that a value is. -/
def word32? : Value → Option UInt32
  | .integer number =>
      if 0 ≤ number ∧ number < UInt32.size then some number.toNat.toUInt32 else none
  | _ => none

/-- The word that a value chooses among alternatives: a string, or a table whose only
entry has an empty table. -/
def choice? : Value → Option String
  | .string text => some text
  | .table _ [(key, .table _ [])] => some key
  | _ => none

end Value

/-- The value of a field that must be there. -/
def required? {α : Type} (entries : Entries) (key : String) (read? : Value → Option α) :
    Option α :=
  (entries.lookup key).bind read?

/-- The value of a field that may be absent, which then counts as `default`. -/
def optional? {α : Type} (entries : Entries) (key : String) (read? : Value → Option α)
    (default : α) : Option α :=
  match entries.lookup key with
  | some value => read? value
  | none => some default

end Collective.Toml
