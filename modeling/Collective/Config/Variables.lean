import Collective.Config.Basic
import Collective.Integer

/-!
# Configuration from environment variables

Two variables are integers and two are paths.  An integer that is absent, empty, no
UTF-8 or malformed counts as its default.
-/

namespace Collective

/-- The values of environment variables, which are byte strings like paths. -/
abbrev Variables := String → Option Path

namespace Config

/-- The value of an integer variable, or nothing if reading it overflows. -/
def integer? (settings : Variables) (name : String) (default : Int) : Option Int :=
  match (settings name).bind Path.toString? with
  | none => some default
  | some text =>
      if text.isEmpty then some default
      else
        match Integer.read text with
        | .value number => some number
        | .malformed => some default
        | .overflow => none

/-- The configuration that environment variables describe, or nothing if reading an
integer overflows. -/
def ofVariables? (settings : Variables) : Option Config := do
  let enable ← integer? settings "MSCCL_ENABLE" 1
  let stack ← integer? settings "NCCL_SET_STACK_SIZE" 0
  some {
    enabled := enable != 0
    schedulerPath := (settings "MSCCL_SCHEDULER").getD ({} : Config).schedulerPath
    algorithmDirectory := settings "MSCCL_ALGO_DIR"
    setStackSize := stack == 1 }

end Config

end Collective
