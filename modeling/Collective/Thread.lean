import Collective.Procedure

/-!
# Groups of operations

Every thread has groups of its own, which may nest.  While every operation of the
outermost group has an algorithm the operations are saved, to be launched when the
group closes.  Once one has none, the group falls back, and so does all that follows
in it.

A thread also carries a mark: it is set while the thread calls a plain collective on
behalf of the scheduler, so that the collective does not schedule again.
-/

namespace Collective

/-- How far the open group of a thread has come. -/
inductive Phase where
  /-- No group is open. -/
  | noGroup
  /-- Every operation of the group so far has an algorithm. -/
  | scheduling
  /-- An operation of the group has none. -/
  | fallingBack
  deriving DecidableEq, Repr, Inhabited

/-- An operation to be run: the request, its communicator and its stream. -/
structure Pending where
  request : Request
  comm : Communicator
  stream : Stream
  deriving DecidableEq

/-- An operation that waits for the end of its group, with the slot that was chosen
for it. -/
structure SavedOperation extends Pending where
  handle : Option Handle
  deriving DecidableEq

/-- What belongs to one thread alone. -/
structure Thread where
  /-- How many groups are open.  A word of the machine holds it: every open group has
  taken a call of its own (`Run.depth_le`), and 2^64 calls are out of reach. -/
  depth : Nat := 0
  phase : Phase := .noGroup
  saved : List SavedOperation := []
  /-- The mark of a thread that calls on behalf of the scheduler. -/
  isCaller : Bool := false
  /-- The marks that open guards restore, the innermost first. -/
  guards : List Bool := []
  deriving DecidableEq, Inhabited

namespace Thread

/-- Opens a group. -/
def openGroup (thread : Thread) : Thread :=
  { thread with
    depth := thread.depth + 1
    phase := if thread.phase = .noGroup then .scheduling else thread.phase }

/-- Closes a group.  The end of the outermost one gives the saved operations, if they
are to be launched. -/
def closeGroup : Procedure Thread (Option (List SavedOperation)) := do
  let thread ← get
  if thread.depth = 0 then throw (.misuse .unmatchedGroupEnd)
  else if 1 < thread.depth then
    set { thread with depth := thread.depth - 1 }
    return none
  else if thread.phase = .scheduling then
    set { thread with depth := 0, phase := .noGroup, saved := [] }
    return some thread.saved
  else
    set { thread with depth := 0, phase := .noGroup }
    return none

/-- Saves an operation until its group closes. -/
def save (thread : Thread) (operation : SavedOperation) : Thread :=
  { thread with saved := thread.saved ++ [operation] }

/-- Takes the saved operations. -/
def takeSaved : Procedure Thread (List SavedOperation) := do
  let thread ← get
  set { thread with saved := [] }
  return thread.saved

/-- Sets the mark and keeps the one before for `popGuard`. -/
def pushGuard (thread : Thread) : Thread :=
  { thread with isCaller := true, guards := thread.isCaller :: thread.guards }

/-- Restores the mark that the innermost guard keeps, and says whether there was a
guard. -/
def popGuard : Procedure Thread Bool := do
  let thread ← get
  match thread.guards with
  | [] => return false
  | mark :: others =>
      set { thread with isCaller := mark, guards := others }
      return true

/-- Runs a procedure with the mark set, and restores the mark however it ends. -/
def asCaller {α : Type} (procedure : Procedure Thread α) : Procedure Thread α :=
  fun env thread history =>
    let outcome := procedure env { thread with isCaller := true } history
    { outcome with state := { outcome.state with isCaller := thread.isCaller } }

end Thread

end Collective
