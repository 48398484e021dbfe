import Collective.External
import Collective.Store
import Collective.Thread

/-!
# What the threads share

The status holds everything that belongs to the process: who selects algorithms, the
catalog, the store, two device buffers, and the count of launches.  `bringUp` makes
the status ready for a communicator and undoes a failed first attempt; `shutDown`
releases everything, whatever fails on the way.
-/

namespace Collective

/-- Who decides which algorithm runs an operation. -/
inductive Selector where
  /-- The catalog decides. -/
  | internal
  /-- An external scheduler decides, and its algorithms are its own. -/
  | external (scheduler : External)
  deriving DecidableEq, Inhabited

/-- An external scheduler where its library can be opened, and the catalog where it
cannot. -/
def Selector.discover {S : Type} (config : Config) : Procedure S Selector := do
  if ← Procedure.ask (.openLibrary config.schedulerPath) then
    let scheduler := External.library config.schedulerPath
    scheduler.start
    return .external scheduler
  else return .internal

/-- The number of channels an external scheduler may need. -/
def maxChannels : UInt32 := 32

/-- The size of the synchronisation flags: one line of 32 bytes for each of the thread
blocks, of which every channel has 32. -/
def syncFlagBytes : UInt64 := 32 * 32 * 32

/-- What all threads share. -/
structure Status where
  selector : Option Selector := none
  catalog : Catalog := {}
  store : Store := {}
  scratch : Option Buffer := none
  syncFlags : Option Buffer := none
  workIndex : UInt64 := 0
  lastStream : Option Stream := none
  /-- Whether operations may be launched. -/
  ready : Bool := false
  deriving Inhabited

namespace Status

/-- Whether an external scheduler decides. -/
def isExternal (status : Status) : Bool :=
  match status.selector with
  | some (.external _) => true
  | _ => false

/-- The size of the working memory. -/
def scratchSize (status : Status) : UInt64 :=
  match status.scratch with
  | some buffer => buffer.size
  | none => 0

/-- Runs a procedure on the store. -/
def onStore {α : Type} (procedure : Procedure Store α) : Procedure Status α :=
  procedure.within store fun status store => { status with store }

/-- Runs a procedure on the catalog. -/
def onCatalog {α : Type} (procedure : Procedure Catalog α) : Procedure Status α :=
  procedure.within catalog fun status catalog => { status with catalog }

/-- Puts an external scheduler in charge, before any other is. -/
def install (scheduler : External) : Procedure Status Unit := do
  if (← get).selector.isSome then throw (.misuse .schedulerActive)
  scheduler.start
  modify fun status => { status with selector := some (.external scheduler) }

/-- The slot that the selector chooses for a request of a thread with or without the mark, if it
chooses one. -/
def select (asCaller : Bool) (request : Request) : Procedure Status (Option Handle) := do
  let status ← get
  match status.selector with
  | none => return none
  | some .internal =>
      match status.catalog.firstMatch? request with
      | none => return none
      | some index => return status.store.handle? index request.rank
  | some (.external scheduler) => scheduler.select asCaller request

/-- The selector, which is discovered where there is none. -/
def ensureSelector (config : Config) : Procedure Status Selector := do
  match (← get).selector with
  | some selector => return selector
  | none =>
      let selector ← Selector.discover config
      modify fun status => { status with selector := some selector }
      return selector

/-- The number of channels that a communicator needs.  The catalog is filled first, if
it decides. -/
def channels (config : Config) (comm : Communicator) : Selector → Procedure Status UInt32
  | .internal => do
      onCatalog (Catalog.discover config)
      return (← get).catalog.channelsFor comm.numRanks
  | .external _ => return maxChannels

/-- Allocates what all launches share, and opens the status for launches. -/
def startLaunches : Procedure Status Unit := do
  modify fun status =>
    { status with scratch := none, workIndex := 1, lastStream := none }
  let flags ← Procedure.accepted (← Procedure.ask (.allocate .syncFlags syncFlagBytes))
  modify fun status => { status with syncFlags := some flags, ready := true }

/-- Makes the status ready for a communicator.  Connections are made here and not at
the first launch, because none can be made while a stream is recorded. -/
def prepare (config : Config) (comm : Communicator) : Procedure Status UInt32 := do
  let selector ← ensureSelector config
  let needed ← channels config comm selector
  let ready := (← get).ready
  if !ready then modify fun status => { status with store := status.store.refill }
  if selector = .internal then
    let catalog := (← get).catalog
    onStore (Store.prepare catalog comm)
  if !ready then startLaunches
  return needed

/-- Frees a buffer that may be there. -/
def freeHeld (use : BufferUse) : Option Buffer → Procedure Status (Except Error Unit)
  | none => return .ok ()
  | some buffer => do
      return Store.released (← Procedure.ask (.free use buffer))

/-- Ends the time of a selector, and of the catalog with it unless the selector is an
external scheduler. -/
def dismiss : Option Selector → Procedure Status Unit
  | some (.external scheduler) => do
      modify fun status => { status with selector := none }
      scheduler.stop
  | _ => modify fun status => { status with selector := none, catalog := {} }

/-- Releases everything.  A failure stops nothing; the first one is the result. -/
def release : Procedure Status Unit := do
  let stored ← (onStore Store.releaseAll).attempt
  let status ← get
  modify fun status => { status with scratch := none, syncFlags := none, lastStream := none }
  let scratch ← freeHeld .scratch status.scratch
  let flags ← freeHeld .syncFlags status.syncFlags
  let dismissed ← (dismiss status.selector).attempt
  Procedure.ofExcept <|
    Store.earlier stored <| Store.earlier scratch <| Store.earlier flags dismissed

/-- Makes the status ready for a communicator.  A first attempt that fails is undone,
and its error is the result whatever fails meanwhile. -/
def bringUp (config : Config) (comm : Communicator) : Procedure Status UInt32 := do
  if (← get).ready then prepare config comm
  else
    try prepare config comm
    catch error =>
      let _ ← release.attempt
      throw error

/-- Releases everything and closes the status for launches.  Where nothing is up, an
installed scheduler is all there is to release. -/
def shutDown : Procedure Status Unit := do
  let status ← get
  if status.ready then
    let result ← release.attempt
    modify fun status => { status with ready := false }
    Procedure.ofExcept result
  else if status.selector.isSome then dismiss status.selector

/-- Loads an algorithm that no catalog lists. -/
def load (file : Path) (rank : UInt64) : Procedure Status Handle := do
  if !(← get).ready then throw (.misuse .loadBeforeStart)
  onStore (Store.load file rank)

/-- Makes the working memory at least as large as a launch needs it. -/
def ensureScratch (bytes : UInt64) : Procedure Status Unit := do
  let status ← get
  if bytes ≤ status.scratchSize then return
  if let some old := status.scratch then
    modify fun status => { status with scratch := none }
    Procedure.accepted (← Procedure.ask (.free .scratch old))
  let buffer ← Procedure.accepted (← Procedure.ask (.allocate .scratch bytes))
  modify fun status => { status with scratch := some buffer }

/-- Launches an operation on the algorithm in a slot, from a thread with or without the mark. -/
def launch (asCaller : Bool) (pending : Pending) (handle : Handle) : Procedure Status Unit := do
  let status ← get
  if !status.ready then throw (.misuse .launchAfterShutdown)
  match status.store.loaded.get? handle with
  | none => throw (.misuse (.notLoaded handle))
  | some algorithm =>
      ensureScratch (← Procedure.ask (.scratchBytes algorithm pending.request))
      let status ← get
      match status.syncFlags with
      | none => throw (.misuse .noSyncFlags)
      | some syncFlags =>
          Procedure.accepted (← Procedure.ask (.launch {
            request := pending.request
            handle, algorithm
            image := status.store.images.get? handle
            scratch := status.scratch
            syncFlags
            workIndex := status.workIndex
            lastStream := status.lastStream
            comm := pending.comm
            stream := pending.stream
            asCaller }))
          modify fun status =>
            { status with
              workIndex := status.workIndex + 1
              lastStream := some pending.stream }

/-- Launches saved operations in order, up to the first that fails. -/
def launchEach (asCaller : Bool) : List SavedOperation → Procedure Status Unit
  | [] => return
  | operation :: others => do
      match operation.handle with
      | none => throw (.misuse .savedWithoutHandle)
      | some handle => launch asCaller operation.toPending handle
      launchEach asCaller others

end Status

end Collective
