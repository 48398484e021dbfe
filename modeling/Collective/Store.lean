import Collective.Catalog
import Collective.Table

/-!
# The store of loaded algorithms

The store hands out slots, keeps the algorithm loaded in each, and remembers which
catalog entry was loaded for which rank and which slots are connected on which
communicator.  Every procedure leaves the store as it was where a call fails, apart
from what earlier calls of it achieved, so that trying again goes on from there.
-/

namespace Collective

/-- Loaded algorithms and the communicators they are connected on. -/
structure Store where
  /-- The free slots, the next one first. -/
  free : List Handle := []
  /-- The slot of a catalog entry for a rank. -/
  assigned : Table (Nat × UInt64) Handle := ∅
  loaded : Table Handle Instance := ∅
  images : Table Handle Buffer := ∅
  /-- The slots that are connected on a communicator, by its identifier. -/
  connected : List (UInt32 × Handle) := []
  needsProxy : Bool := false
  needsFence : Bool := false
  deriving Inhabited

namespace Store

/-- Makes every slot free, the first one next, and forgets what was needed. -/
def refill (store : Store) : Store :=
  { store with free := Handle.all, needsProxy := false, needsFence := false }

/-- The slot that holds a catalog entry for a rank. -/
def handle? (store : Store) (index : Nat) (rank : UInt64) : Option Handle :=
  store.assigned.get? (index, rank)

/-- Whether a slot is connected on a communicator. -/
def isConnected (store : Store) (comm : UInt32) (handle : Handle) : Bool :=
  store.connected.contains (comm, handle)

/-- Takes the next free slot. -/
def takeSlot : Procedure Store Handle := do
  match (← get).free with
  | [] => throw .slotsExhausted
  | handle :: others =>
      modify fun store => { store with free := others }
      return handle

/-- Makes a slot the next free one. -/
def giveBack (store : Store) (handle : Handle) : Store :=
  { store with free := handle :: store.free }

/-- Keeps the device image of a slot. -/
def addImage (store : Store) (handle : Handle) (image : Buffer) : Store :=
  { store with images := store.images.insert handle image }

/-- Keeps the algorithm of a slot and what it needs. -/
def addLoaded (store : Store) (handle : Handle) (algorithm : Instance) : Store :=
  { store with
    loaded := store.loaded.insert handle algorithm
    needsProxy := store.needsProxy || algorithm.report.needsProxy
    needsFence := store.needsFence || algorithm.report.needsFence }

/-- Allocates the device image of an algorithm that was just loaded.  Where that fails
the slot is free again and the algorithm is unloaded. -/
def provideImage (handle : Handle) (algorithm : Instance) : Procedure Store Unit := do
  if algorithm.report.deviceBytes = 0 then return
  match ← Procedure.ask (.allocate .image algorithm.report.deviceBytes) with
  | .ok image => modify fun store => store.addImage handle image
  | .error reason =>
      modify fun store => store.giveBack handle
      let _ ← Procedure.ask (.unload algorithm)
      throw (.collaborator reason)

/-- Loads the algorithm of a file for a rank into a free slot. -/
def load (file : Path) (rank : UInt64) : Procedure Store Handle := do
  let handle ← takeSlot
  match ← Procedure.ask (.load file rank) with
  | .error reason =>
      modify fun store => store.giveBack handle
      throw (.collaborator reason)
  | .ok report =>
      let algorithm : Instance := { file, rank, report }
      provideImage handle algorithm
      modify fun store => store.addLoaded handle algorithm
      return handle

/-- Connects a slot on a communicator, unless it is. -/
def connect (handle : Handle) (comm : Communicator) : Procedure Store Unit := do
  let store ← get
  if store.isConnected comm.id handle then return
  match store.loaded.get? handle with
  | none => throw (.misuse (.nothingToConnect handle))
  | some algorithm =>
      Procedure.accepted (← Procedure.ask (.connect algorithm comm))
      modify fun store => { store with connected := (comm.id, handle) :: store.connected }

/-- The slot of a catalog entry for a rank, which is loaded unless it is already. -/
def assign (index : Nat) (algorithm : Metadata) (rank : UInt64) :
    Procedure Store Handle := do
  match (← get).handle? index rank with
  | some handle => return handle
  | none =>
      let handle ← load algorithm.file rank
      modify fun store =>
        { store with assigned := store.assigned.insert (index, rank) handle }
      return handle

/-- Loads and connects, from position `index` on, the algorithms that have the number
of ranks of a communicator. -/
def prepareFrom (comm : Communicator) : (index : Nat) → List Metadata → Procedure Store Unit
  | _, [] => return
  | index, algorithm :: others => do
      if algorithm.numRanks = comm.numRanks then
        connect (← assign index algorithm comm.rank) comm
      prepareFrom comm (index + 1) others

/-- Loads and connects every algorithm of a catalog that has the number of ranks of a
communicator. -/
def prepare (catalog : Catalog) (comm : Communicator) : Procedure Store Unit :=
  prepareFrom comm 0 catalog.algorithms

/-- Of two results, the earlier error. -/
def earlier (first second : Except Error Unit) : Except Error Unit :=
  match first with
  | .error error => .error error
  | .ok () => second

/-- The result of a release step. -/
def released : Fallible Unit → Except Error Unit
  | .ok () => .ok ()
  | .error reason => .error (.collaborator reason)

/-- Unloads some algorithms and frees their slots.  A refusal stops nothing; the first
one is the result. -/
def unloadEach : List (Handle × Instance) → Procedure Store (Except Error Unit)
  | [] => return .ok ()
  | (handle, algorithm) :: others => do
      let answer ← Procedure.ask (.unload algorithm)
      modify fun store => store.giveBack handle
      return earlier (released answer) (← unloadEach others)

/-- Frees some device images.  A refusal stops nothing; the first one is the
result. -/
def freeEach : List (Handle × Buffer) → Procedure Store (Except Error Unit)
  | [] => return .ok ()
  | (_, image) :: others => do
      let answer ← Procedure.ask (.free .image image)
      return earlier (released answer) (← freeEach others)

/-- Unloads every algorithm, frees every image, and forgets assignments and
connections. -/
def releaseAll : Procedure Store Unit := do
  let unloaded ← unloadEach (← Procedure.inUnloadOrder (← get).loaded.entries)
  let freed ← freeEach (← Procedure.inFreeOrder (← get).images.entries)
  modify fun store => { store with assigned := ∅, loaded := ∅, images := ∅, connected := [] }
  Procedure.ofExcept (earlier unloaded freed)

end Store

end Collective
