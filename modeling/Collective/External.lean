import Collective.Procedure

/-!
# External schedulers

An external scheduler is started once, asked about each request, and stopped once.
It receives a request as a `Block` of C integers, and its `Verdict` names a slot.
-/

namespace Collective

namespace Request

/-- A word as a C integer, which it must fit. -/
def interfaceField (field : String) (value : UInt64) : Except Error Int32 :=
  if value.toNat ≤ Int32.maxValue.toNatClampNeg then .ok (.ofNat value.toNat)
  else .error (.misuse (.fieldTooLarge field value))

/-- The block of a request. -/
def block (request : Request) : Except Error Block := do
  let operation := request.operation
  let root ← interfaceField "root" operation.root
  let peer ← interfaceField "peer" operation.peer
  let rank ← interfaceField "rank" request.rank
  let numRanks ← interfaceField "num_ranks" request.numRanks
  return {
    send := operation.send
    recv := operation.recv
    peerCounts := operation.peerCounts
    count := operation.count
    element := operation.element.code
    root, peer
    reduction := operation.reduction.code
    kind := operation.kind.code
    rank, numRanks }

end Request

/-- The slot that a verdict names, if it schedules the operation at all. -/
def Verdict.handle? (verdict : Verdict) : Option Handle :=
  if verdict.scheduled && 0 ≤ verdict.handle then some ⟨verdict.handle.toInt.toNat.toUInt32⟩
  else none

namespace External

variable {S : Type}

/-- Accepts the code zero only. -/
def checked (step : ExternalStep) (code : Int32) : Procedure S Unit :=
  if code = 0 then return else throw (.externalFailed step code)

/-- Starts an external scheduler. -/
def start (scheduler : External) : Procedure S Unit := do
  checked .start (← Procedure.ask (.startExternal scheduler))

/-- Asks an external scheduler for the slot that runs a request. -/
def select (scheduler : External) (asCaller : Bool) (request : Request) :
    Procedure S (Option Handle) := do
  let block ← Procedure.ofExcept request.block
  let verdict ← Procedure.ask (.selectExternal scheduler block asCaller)
  checked .select verdict.code
  return verdict.handle?

/-- Stops an external scheduler. -/
def stop (scheduler : External) : Procedure S Unit := do
  checked .shutdown (← Procedure.ask (.stopExternal scheduler))

end External

end Collective
