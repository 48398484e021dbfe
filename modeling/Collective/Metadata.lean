import Collective.Operation.Request

/-!
# Metadata of algorithms

The metadata of an algorithm file say for which operations the algorithm may run.
-/

namespace Collective

/-- Shape and applicability of one algorithm file. -/
structure Metadata where
  file : Path := ⟨[]⟩
  name : String := ""
  kind : Kind
  numRanks : UInt64
  numChannels : UInt32
  sizeMultiplier : UInt64
  chunksPerLoop : UInt64
  minBytes : UInt64 := 0
  /-- The largest message, or zero for no bound. -/
  maxBytes : UInt64 := 0
  inPlace : Bool
  outOfPlace : Bool
  deriving DecidableEq, Inhabited

namespace Metadata

/-- The number of bytes that an operation amounts to for an algorithm, where it fits
a word. -/
def messageBytes? (algorithm : Metadata) (operation : Operation) : Option UInt64 := do
  let bytes ← Word.product? operation.count operation.element.bytes
  Word.product? bytes algorithm.sizeMultiplier

/-- Whether the elements of an operation fall into whole loops of chunks. -/
def chunksAligned (algorithm : Metadata) (operation : Operation) : Bool :=
  let remainder := do
    let elements ← Word.product? operation.count algorithm.sizeMultiplier
    Word.remainder? elements algorithm.chunksPerLoop
  remainder == some 0

/-- Whether the size of an operation suits an algorithm. -/
def sizeFits (algorithm : Metadata) (operation : Operation) : Bool :=
  operation.count != 0 && algorithm.chunksAligned operation &&
    (algorithm.messageBytes? operation).any fun bytes =>
      algorithm.minBytes ≤ bytes && (algorithm.maxBytes == 0 || bytes ≤ algorithm.maxBytes)

/-- Whether an algorithm may run a request whose buffers coincide or not. -/
def accepts (algorithm : Metadata) (request : Request) (inPlace : Bool) : Bool :=
  algorithm.sizeFits request.operation && algorithm.numRanks == request.numRanks &&
    algorithm.kind == request.operation.kind &&
    if inPlace then algorithm.inPlace else algorithm.outOfPlace

end Metadata

end Collective
