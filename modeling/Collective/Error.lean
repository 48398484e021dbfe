import Collective.Handle
import Collective.Operation.Kind
import Collective.Text.Quoted

/-!
# Why a call fails

An error is the cause of a failure.  Its wording is in `Misuse.message` and
`Error.message`.
-/

namespace Collective

/-- A call that does not fit the state it meets, or an operation that does not fit
the communicator. -/
inductive Misuse where
  /-- An operation came with fewer counts than ranks. -/
  | shortCounts (kind : Kind) (needed : UInt64) (got : Nat)
  /-- A second scheduler was to be installed. -/
  | schedulerActive
  /-- An algorithm was to be loaded while nothing is up. -/
  | loadBeforeStart
  /-- An operation was to be launched while nothing is up. -/
  | launchAfterShutdown
  /-- An operation was to be launched on an empty slot. -/
  | notLoaded (handle : Handle)
  /-- An empty slot was to be connected. -/
  | nothingToConnect (handle : Handle)
  /-- A launch found no synchronisation flags. -/
  | noSyncFlags
  /-- A group was closed that nobody opened. -/
  | unmatchedGroupEnd
  /-- A saved operation has no handle. -/
  | savedWithoutHandle
  /-- A number is too large for the interface of external schedulers. -/
  | fieldTooLarge (field : String) (value : UInt64)
  deriving DecidableEq, Repr

/-- The three functions of an external scheduler. -/
inductive ExternalStep where
  | start
  | select
  | shutdown
  deriving DecidableEq, Repr

/-- The name of an external scheduler's function in messages. -/
def ExternalStep.title : ExternalStep → String
  | .start => "init"
  | .select => "select_algo"
  | .shutdown => "teardown"

/-- The cause of a failed call. -/
inductive Error where
  /-- None of the candidate directories could be opened. -/
  | noAlgorithmDirectory (tried : List Path)
  /-- The directory that could be opened could not be listed. -/
  | unlistable (directory : Path) (reason : String)
  /-- An algorithm file could not be parsed. -/
  | unparsable (file : Path) (reason : String)
  /-- All slots hold an algorithm. -/
  | slotsExhausted
  /-- An operation has neither an algorithm nor a plain collective. -/
  | noPlainCollective (kind : Kind)
  | misuse (cause : Misuse)
  /-- An external scheduler answered with a code other than zero. -/
  | externalFailed (step : ExternalStep) (code : Int32)
  /-- A collaborator refused, with these words. -/
  | collaborator (reason : String)
  deriving DecidableEq

/-- The wording of a misuse. -/
def Misuse.message : Misuse → String
  | .shortCounts kind needed got =>
      kind.title ++ " needs " ++ toString needed.toNat ++
        " counts and displacements per direction, got " ++ toString got
  | .schedulerActive => "a scheduler is already active"
  | .loadBeforeStart => "load before initialization"
  | .launchAfterShutdown => "launch after teardown"
  | .notLoaded handle => handle.shown ++ " is not loaded"
  | .nothingToConnect handle => handle.shown ++ " has no loaded algorithm"
  | .noSyncFlags => "sync flags missing"
  | .unmatchedGroupEnd => "group end without a matching group start"
  | .savedWithoutHandle => "buffered operation has no algorithm"
  | .fieldTooLarge field value =>
      field ++ " " ++ toString value.toNat ++ " does not fit the scheduler interface"

/-- The wording of an error. -/
def Error.message : Error → String
  | .noAlgorithmDirectory tried =>
      "No algorithm directory could be opened, tried " ++ Text.quotedList tried
  | .unlistable directory reason =>
      "Failed to list algorithm directory " ++ Text.quoted directory ++ ": " ++ reason
  | .unparsable file reason =>
      "Failed to parse algorithm file " ++ Text.quoted file ++ ": " ++ reason
  | .slotsExhausted =>
      "Algorithm handle pool exhausted, at most " ++ toString Handle.slots ++
        " algorithms can be loaded"
  | .noPlainCollective kind =>
      "No plain collective to fall back to for " ++ kind.title
  | .misuse cause => "Invalid usage: " ++ cause.message
  | .externalFailed step code =>
      "External scheduler " ++ step.title ++ " failed with code " ++
        toString code.toInt
  | .collaborator reason => "Collaborator: " ++ reason

end Collective
