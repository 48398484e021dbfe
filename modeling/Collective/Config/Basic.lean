import Collective.Path

/-!
# Configuration

The configuration of a scheduler says whether it is on, which library may replace
its own selection, and where algorithm files are searched.
-/

namespace Collective

/-- The settings of a scheduler. -/
structure Config where
  enabled : Bool := true
  /-- A library that may hold an external scheduler. -/
  schedulerPath : Path := .ofString "libmsccl-scheduler.so"
  /-- An explicit directory of algorithms, which ends the search. -/
  algorithmDirectory : Option Path := none
  /-- Where the library is installed; the directory of the running program stands
  in for it. -/
  installDirectory : Option Path := none
  packageDirectory : Option Path := none
  unitTestMode : Bool := false
  setStackSize : Bool := false
  deriving DecidableEq, Inhabited

namespace Config

/-- The name of the directory of algorithms. -/
def directoryName (config : Config) : String :=
  if config.unitTestMode then "msccl-unit-test-algorithms" else "msccl-algorithms"

/-- The directory of algorithms as seen from the installed library. -/
def shareDirectory (config : Config) : Path :=
  .ofString ("../share/nccl/" ++ config.directoryName)

/-- The directory of algorithms of an installed package. -/
def defaultPackageDirectory (config : Config) : Path :=
  .ofString ("/usr/share/nccl/" ++ config.directoryName)

/-- The directories that are searched for algorithm files, in order.
`executableDirectory` is the directory of the running program, if it is known. -/
def candidates (config : Config) (executableDirectory : Option Path) : List Path :=
  match config.algorithmDirectory with
  | some directory => [directory]
  | none =>
      let installed :=
        match config.installDirectory <|> executableDirectory with
        | some directory =>
            [directory.join (.ofString config.directoryName),
              directory.join config.shareDirectory]
        | none => []
      installed ++ [config.packageDirectory.getD config.defaultPackageDirectory]

end Config

end Collective
