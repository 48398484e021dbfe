import Collective.Communicator
import Collective.FileTree
import Collective.Metadata

/-!
# Calls to the outside world

All that a scheduler asks of others is a `Call`: directories, the parser of algorithm
files, libraries and the schedulers in them, the runtime, the device, and the plain
collectives.  `Call.Answer` says what each may answer.  An `Environment` answers
every call, and may let the answer depend on the whole `History` before it, so a
statement about all environments covers every order of successes and failures.
-/

namespace Collective

/-- The stream on which an operation is launched. -/
structure Stream where
  value : UInt64
  deriving DecidableEq, Repr, Inhabited

/-- A buffer of device memory. -/
structure Buffer where
  address : Address
  size : UInt64
  deriving DecidableEq, Repr, Inhabited

/-- What a buffer of device memory is for. -/
inductive BufferUse where
  /-- The device image of a loaded algorithm. -/
  | image
  /-- Working memory shared by the launches. -/
  | scratch
  /-- The flags by which thread blocks wait for one another. -/
  | syncFlags
  deriving DecidableEq, Repr

/-- What the runtime reports of an algorithm that it has loaded. -/
structure LoadReport where
  /-- The runtime's own name for what it built. -/
  object : Nat := 0
  /-- The size of the device image, or zero for none. -/
  deviceBytes : UInt64 := 0
  needsProxy : Bool := false
  needsFence : Bool := false
  deriving DecidableEq, Repr, Inhabited

/-- An algorithm loaded for one rank: the file it came from, the rank, and what the
runtime reported. -/
structure Instance where
  file : Path
  rank : UInt64
  report : LoadReport
  deriving DecidableEq, Inhabited

/-- A scheduler outside this library. -/
inductive External where
  /-- Installed by the surrounding program, which may have several of them. -/
  | installed (key : Nat)
  /-- Found in a library. -/
  | library (path : Path)
  deriving DecidableEq, Inhabited

/-- The parameters of an operation as an external scheduler receives them. -/
structure Block where
  send : Address
  recv : Address
  peerCounts : Option PeerCounts
  count : UInt64
  element : Int32
  root : Int32
  peer : Int32
  reduction : Int32
  kind : Int32
  rank : Int32
  numRanks : Int32
  scheduled : Bool := false
  handle : Int32 := -1
  deriving DecidableEq

/-- What an external scheduler answers to a block. -/
structure Verdict where
  code : Int32 := 0
  scheduled : Bool := false
  handle : Int32 := -1
  deriving DecidableEq, Inhabited

/-- Everything the runtime needs to launch one operation. -/
structure Launch where
  request : Request
  handle : Handle
  algorithm : Instance
  image : Option Buffer
  scratch : Option Buffer
  syncFlags : Buffer
  workIndex : UInt64
  lastStream : Option Stream
  comm : Communicator
  stream : Stream
  /-- Whether the calling thread is marked as calling for the scheduler. -/
  asCaller : Bool
  deriving DecidableEq

/-- The arguments of a plain collective that belong to its kind. -/
inductive PlainArguments where
  | reduce (send recv : Address) (reduction : Reduction) (root : UInt64)
  | broadcast (send recv : Address) (root : UInt64)
  | allReduce (send recv : Address) (reduction : Reduction)
  | reduceScatter (send recv : Address) (reduction : Reduction)
  | allGather (send recv : Address)
  | send (buffer : Address) (peer : UInt64)
  | recv (buffer : Address) (peer : UInt64)
  | allToAll (send recv : Address)
  deriving DecidableEq, Repr

/-- A call of a plain collective. -/
structure PlainCall where
  arguments : PlainArguments
  count : UInt64
  element : Element
  comm : Communicator
  stream : Stream
  /-- Whether the calling thread is marked as calling for the scheduler. -/
  asCaller : Bool
  deriving DecidableEq

/-- A call to the outside world. -/
inductive Call where
  /-- Whether a directory can be opened. -/
  | openDirectory (path : Path)
  | listDirectory (path : Path)
  | parse (file : Path)
  | openLibrary (path : Path)
  | startExternal (scheduler : External)
  /-- What an external scheduler selects for a block, and whether the calling thread is marked as
  calling for the scheduler. -/
  | selectExternal (scheduler : External) (block : Block) (asCaller : Bool)
  | stopExternal (scheduler : External)
  | load (file : Path) (rank : UInt64)
  | unload (algorithm : Instance)
  | connect (algorithm : Instance) (comm : Communicator)
  | scratchBytes (algorithm : Instance) (request : Request)
  | launch (launch : Launch)
  | allocate (use : BufferUse) (bytes : UInt64)
  | free (use : BufferUse) (buffer : Buffer)
  | stackLimit
  | setStackLimit (bytes : UInt64)
  | initKernels (architecture : UInt32)
  | plain (call : PlainCall)
  deriving DecidableEq

/-- An answer that may be a refusal in words. -/
abbrev Fallible (α : Type) := Except String α

/-- What may be answered to a call. -/
@[reducible] def Call.Answer : Call → Type
  | .openDirectory _ => Bool
  | .listDirectory _ => Fallible (List DirectoryEntry)
  | .parse _ => Fallible Metadata
  | .openLibrary _ => Bool
  | .startExternal _ => Int32
  | .selectExternal _ _ _ => Verdict
  | .stopExternal _ => Int32
  | .load _ _ => Fallible LoadReport
  | .unload _ => Fallible Unit
  | .connect _ _ => Fallible Unit
  | .scratchBytes _ _ => UInt64
  | .launch _ => Fallible Unit
  | .allocate _ _ => Fallible Buffer
  | .free _ _ => Fallible Unit
  | .stackLimit => Fallible UInt64
  | .setStackLimit _ => Fallible Unit
  | .initKernels _ => Fallible UInt64
  | .plain _ => Fallible Unit

/-- A call with its answer. -/
structure Event where
  call : Call
  answer : call.Answer

/-- The calls so far with their answers, the latest first. -/
abbrev History := List Event

/-- The world around a scheduler.  Loaded algorithms are released in no order of
ours: the environment arranges them. -/
structure Environment where
  answer : History → (call : Call) → call.Answer
  /-- The directory of the running program, if it is known. -/
  executableDirectory : Option Path := none
  unloadOrder : History → List (Handle × Instance) → List (Handle × Instance) :=
    fun _ loaded => loaded
  unloadOrder_perm : ∀ history loaded, (unloadOrder history loaded).Perm loaded := by
    exact fun _ _ => List.Perm.refl _
  freeOrder : History → List (Handle × Buffer) → List (Handle × Buffer) :=
    fun _ images => images
  freeOrder_perm : ∀ history images, (freeOrder history images).Perm images := by
    exact fun _ _ => List.Perm.refl _

/-- The world that gives these answers and changes no order. -/
def Environment.inOrder (answer : History → (call : Call) → call.Answer)
    (executableDirectory : Option Path := none) : Environment :=
  { answer, executableDirectory }

end Collective
