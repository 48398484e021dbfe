import Collective.Toml.Reader
import Collective.Toml.Writer

/-!
# Formats

Settings are written as pairs and read as entries.  How a document spells them is left to a
`Format`, so whoever reads and writes files may bring a TOML library of their own; `Format.own` is
the reader and the writer that this library has.
-/

namespace Collective.Toml

/-- A library that reads and writes TOML documents. -/
structure Format where
  /-- The entries of a document. -/
  read? : String → Option Entries
  /-- The document of some pairs. -/
  write? : List (String × Plain) → Option String

/-- Documents as they are read and written here. -/
def Format.own : Format where
  read? := parse?
  write? := render?

end Collective.Toml
