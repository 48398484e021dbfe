import Collective.Config.Basic
import Collective.Procedure

/-!
# The catalog of algorithms

The catalog holds the metadata of every algorithm file of one directory, in the order
of the paths.  An operation is run by the first entry that accepts it, so the choice
depends on the files alone and not on the order in which a directory lists them.
-/

namespace Collective

/-- The algorithms that have been found. -/
structure Catalog where
  algorithms : List Metadata := []
  loaded : Bool := false
  deriving DecidableEq, Inhabited

namespace Catalog

/-- The paths of the algorithm files among the entries of a directory: regular files
and symbolic links, in ascending order. -/
def algorithmFiles (directory : Path) (entries : List DirectoryEntry) : List Path :=
  Path.sorted <|
    (entries.filter fun entry => entry.kind != .other).map fun entry =>
      directory.join ⟨entry.name⟩

/-- The first directory that can be opened. -/
def firstOpen {S : Type} : List Path → Procedure S (Option Path)
  | [] => return none
  | directory :: others => do
      if ← Procedure.ask (.openDirectory directory) then return some directory
      else firstOpen others

/-- The paths of the algorithm files in a directory, which must be opened once more to be
listed. -/
def filesIn {S : Type} (directory : Path) : Procedure S (List Path) := do
  match ← Procedure.ask (.listDirectory directory) with
  | .ok entries => return algorithmFiles directory entries
  | .error reason => throw (.unlistable directory reason)

/-- The metadata of some files, up to the first that cannot be parsed. -/
def parseAll {S : Type} : List Path → Procedure S (List Metadata)
  | [] => return []
  | file :: others => do
      match ← Procedure.ask (.parse file) with
      | .ok algorithm =>
          let rest ← parseAll others
          return { algorithm with file } :: rest
      | .error reason => throw (.unparsable file reason)

/-- Finds and parses the algorithm files, unless that has been done. -/
def discover (config : Config) : Procedure Catalog Unit := do
  if (← get).loaded then return
  let candidates := config.candidates (← Procedure.executableDirectory)
  match ← firstOpen candidates with
  | none => throw (.noAlgorithmDirectory candidates)
  | some directory =>
      let algorithms ← parseAll (← filesIn directory)
      set { algorithms, loaded := true : Catalog }

/-- The algorithm at a position. -/
def get? (catalog : Catalog) (index : Nat) : Option Metadata :=
  catalog.algorithms[index]?

/-- The number of channels that the algorithms for a number of ranks need. -/
def channelsFor (catalog : Catalog) (numRanks : UInt64) : UInt32 :=
  (catalog.algorithms.filter fun algorithm => algorithm.numRanks == numRanks).foldl
    (fun most algorithm => max most algorithm.numChannels) 0

/-- The position of the first algorithm that may run a request.  Only pointwise
reductions are run by algorithms. -/
def firstMatch? (catalog : Catalog) (request : Request) : Option Nat :=
  if request.operation.reduction.pointwise then
    catalog.algorithms.findIdx? fun algorithm => algorithm.accepts request request.inPlace
  else none

end Catalog

end Collective
