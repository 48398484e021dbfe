import Collective.Error
import Collective.Operation.Basic
import Collective.Word

/-!
# Requests

A request binds an operation to the rank that issues it.  `Request.validate` refuses
count lists shorter than the number of ranks, and `Request.inPlace` says whether the
two buffers overlap in the way that the kind of the operation defines.
-/

namespace Collective

/-- An operation bound to the rank that issues it and to the number of ranks. -/
structure Request where
  operation : Operation
  rank : UInt64
  numRanks : UInt64
  deriving DecidableEq, Repr, Inhabited

namespace Request

/-- What is wrong with a request, if anything: lists of counts must reach every
rank. -/
def fault? (request : Request) : Option Misuse :=
  match request.operation.peerCounts with
  | some counts =>
      if counts.shortest < request.numRanks.toNat then
        some (.shortCounts request.operation.kind request.numRanks counts.shortest)
      else none
  | none => none

/-- Refuses a faulty request. -/
def validate (request : Request) : Except Error Unit :=
  match request.fault? with
  | some fault => .error (.misuse fault)
  | none => .ok ()

/-- A request is valid exactly if all lists of counts that it has reach every rank. -/
theorem validate_eq_ok_iff {request : Request} :
    request.validate = .ok () ↔ ∀ counts, request.operation.peerCounts = some counts →
      counts.Reaches request.numRanks.toNat := by
  unfold validate fault?
  cases request.operation.peerCounts with
  | none => simp
  | some counts =>
      simp only [Option.some.injEq, forall_eq', ← PeerCounts.le_shortest_iff]
      by_cases short : counts.shortest < request.numRanks.toNat
      · simp [short]
      · simp [short, Nat.not_lt.mp short]

/-- The distance in bytes from the start of a buffer of all ranks to the part of the
issuing rank, where it fits the address space. -/
def rankOffset? (request : Request) : Option UInt64 := do
  let elements ← Word.product? request.rank request.operation.count
  Word.product? elements request.operation.element.bytes

/-- Whether input and output coincide in the way that the kind defines.  A part that
lies beyond the address space coincides with nothing. -/
def inPlace (request : Request) : Bool :=
  let send := request.operation.send
  let recv := request.operation.recv
  match request.operation.kind with
  | .reduce | .broadcast | .allReduce | .allToAll => send == recv
  | .allGather | .gather =>
      request.rankOffset?.any fun distance => send == recv.offset distance
  | .reduceScatter | .scatter =>
      request.rankOffset?.any fun distance => recv == send.offset distance
  | .send | .recv | .allToAllv => false

end Request

end Collective
