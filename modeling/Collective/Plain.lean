import Collective.Thread

/-!
# Falling back to plain collectives

Eight of the eleven kinds have a plain collective.  Operations fall back in order,
and the first failure ends the batch.
-/

namespace Collective

namespace Operation

/-- The plain collective of an operation, with the arguments that its kind takes. -/
def plain? (operation : Operation) : Option PlainArguments :=
  let send := operation.send
  let recv := operation.recv
  match operation.kind with
  | .reduce => some (.reduce send recv operation.reduction operation.root)
  | .broadcast => some (.broadcast send recv operation.root)
  | .allReduce => some (.allReduce send recv operation.reduction)
  | .reduceScatter => some (.reduceScatter send recv operation.reduction)
  | .allGather => some (.allGather send recv)
  | .send => some (.send send operation.peer)
  | .recv => some (.recv recv operation.peer)
  | .allToAll => some (.allToAll send recv)
  | .gather | .scatter | .allToAllv => none

end Operation

namespace Thread

/-- Runs an operation on the plain collective of its kind. -/
def runPlain (pending : Pending) : Procedure Thread Unit := do
  let operation := pending.request.operation
  match operation.plain? with
  | none => throw (.noPlainCollective operation.kind)
  | some arguments =>
      Procedure.accepted (← Procedure.ask (.plain {
        arguments
        count := operation.count
        element := operation.element
        comm := pending.comm
        stream := pending.stream
        asCaller := (← get).isCaller }))

/-- Runs operations on their plain collectives, in order. -/
def runEachPlain : List Pending → Procedure Thread Unit
  | [] => return
  | pending :: others => do
      runPlain pending
      runEachPlain others

/-- Runs the saved operations and then one more on their plain collectives.  The saved
operations are gone even where one of them fails. -/
def fallBack (pending : Pending) : Procedure Thread Unit := do
  let saved ← takeSaved
  asCaller (runEachPlain (saved.map (·.toPending) ++ [pending]))

end Thread

end Collective
