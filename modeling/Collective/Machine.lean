import Collective.Plain
import Collective.Status

/-!
# The scheduler

A machine is a scheduler with the threads that use it.  Threads take turns: a
`Command` is one call by one thread, and `Machine.perform` carries it out.
-/

namespace Collective

/-- The number of a thread. -/
abbrev ThreadId := Nat

/-- A scheduler, the threads that use it, and the communicators it has marked as fit
for algorithms. -/
structure Machine where
  status : Status := {}
  threads : ThreadId → Thread := fun _ => {}
  compatible : Communicator → Bool := fun _ => false

/-- A call of a scheduler. -/
inductive Command where
  /-- Puts one of the surrounding program's external schedulers in charge. -/
  | install (key : Nat)
  /-- Prepares a communicator, and on first use everything else. -/
  | join (comm : Communicator)
  | shutDown
  | openGroup
  | closeGroup
  /-- Runs an operation, now or at the end of the open group. -/
  | submit (operation : Operation) (comm : Communicator) (stream : Stream)
  | select (request : Request)
  | load (file : Path) (rank : UInt64)
  | connect (handle : Handle) (comm : Communicator)
  | setCaller
  | clearCaller
  | pushGuard
  | popGuard
  deriving DecidableEq

/-- What a call of a scheduler answers. -/
inductive Reply where
  | done
  | channels (number : UInt32)
  | handle (handle : Handle)
  | selected (handle : Option Handle)
  | restored (hadGuard : Bool)
  deriving DecidableEq, Repr

/-- The request of a communicator's rank. -/
def Communicator.request (comm : Communicator) (operation : Operation) : Request :=
  { operation, rank := comm.rank, numRanks := comm.numRanks }

namespace Machine

variable {α : Type}

/-- Runs a procedure on what the threads share. -/
def onStatus (procedure : Procedure Status α) : Procedure Machine α :=
  procedure.within status fun machine status => { machine with status }

/-- Replaces the state of one thread. -/
def setThread (machine : Machine) (thread : ThreadId) (state : Thread) : Machine :=
  { machine with
    threads := fun other => if other = thread then state else machine.threads other }

/-- Runs a procedure on the state of one thread. -/
def onThread (thread : ThreadId) (procedure : Procedure Thread α) : Procedure Machine α :=
  procedure.within (fun machine => machine.threads thread) fun machine state =>
    machine.setThread thread state

/-- Runs a procedure on what the threads share that depends on the mark of the calling thread. -/
def onBehalf (thread : ThreadId) (procedure : Bool → Procedure Status α) :
    Procedure Machine α := do
  let machine ← get
  onStatus (procedure (machine.threads thread).isCaller)

/-- Marks a communicator as fit for algorithms or not. -/
def mark (machine : Machine) (comm : Communicator) (compatible : Bool) : Machine :=
  { machine with
    compatible := fun other => if other = comm then compatible else machine.compatible other }

/-- Whether operations may be launched. -/
def available (machine : Machine) (config : Config) : Bool :=
  config.enabled && machine.status.ready

/-- Prepares the kernels of the device, and raises the stack limit where they need it
and the configuration allows it.  Only kernels that cannot be prepared are an
error. -/
def adjustStack {S : Type} (config : Config) (comm : Communicator) : Procedure S Unit := do
  let current :=
    match ← Procedure.ask .stackLimit with
    | .ok bytes => bytes
    | .error _ => 0
  let needed ← Procedure.accepted (← Procedure.ask (.initKernels comm.architecture))
  if current < needed && config.setStackSize then
    let _ ← Procedure.ask (.setStackLimit needed)

/-- Whether a communicator is fit for algorithms: they are switched on, no process
drives two of its ranks, and no two of its ranks share a process. -/
def fit (config : Config) (comm : Communicator) : Bool :=
  config.enabled && comm.intraRanks ≤ 1 && Peer.distinct comm.peers

/-- Prepares a communicator and says how many channels it needs.  A communicator that
is unfit for algorithms needs none. -/
def join (config : Config) (comm : Communicator) : Procedure Machine UInt32 := do
  modify fun machine => machine.mark comm (fit config comm)
  if !fit config comm then return 0
  let wasReady := (← get).status.ready
  let channels ← onStatus (Status.bringUp config comm)
  if !wasReady then adjustStack config comm
  return channels

/-- Forgets the saved operations of the calling thread and releases everything. -/
def shutDown (thread : ThreadId) : Procedure Machine Unit := do
  onThread thread (modify fun state => { state with saved := [] })
  onStatus Status.shutDown

/-- Closes a group of a thread.  The end of the outermost one launches the saved
operations. -/
def closeGroup (thread : ThreadId) : Procedure Machine Unit := do
  match ← onThread thread Thread.closeGroup with
  | none => return
  | some saved => onBehalf thread (Status.launchEach · saved)

/-- The slot for a request, where its communicator is fit and operations may be
launched. -/
def choose (config : Config) (thread : ThreadId) (pending : Pending) :
    Procedure Machine (Option Handle) := do
  let machine ← get
  if machine.compatible pending.comm && machine.available config then
    onBehalf thread (Status.select · pending.request)
  else return none

/-- Runs an operation of a thread.  Outside groups it is launched at once, or falls
back.  In a group it is saved, unless it has no algorithm: then the whole group falls
back. -/
def submit (config : Config) (thread : ThreadId) (operation : Operation)
    (comm : Communicator) (stream : Stream) : Procedure Machine Unit := do
  let request := comm.request operation
  let pending : Pending := { request, comm, stream }
  Procedure.ofExcept request.validate
  match ((← get).threads thread).phase with
  | .noGroup =>
      match ← choose config thread pending with
      | some handle => onBehalf thread (Status.launch · pending handle)
      | none => onThread thread (Thread.fallBack pending)
  | .scheduling =>
      match ← choose config thread pending with
      | some handle =>
          onThread thread (modify fun state => state.save { pending with handle := some handle })
      | none =>
          onThread thread (modify fun state => { state with phase := .fallingBack })
          onThread thread (Thread.fallBack pending)
  | .fallingBack => onThread thread (Thread.fallBack pending)

/-- Carries out a command of a thread. -/
def perform (config : Config) (thread : ThreadId) : Command → Procedure Machine Reply
  | .install key => do onStatus (Status.install (.installed key)); return .done
  | .join comm => return .channels (← join config comm)
  | .shutDown => do shutDown thread; return .done
  | .openGroup => do onThread thread (modify Thread.openGroup); return .done
  | .closeGroup => do closeGroup thread; return .done
  | .submit operation comm stream => do
      submit config thread operation comm stream
      return .done
  | .select request => return .selected (← onBehalf thread (Status.select · request))
  | .load file rank => return .handle (← onStatus (Status.load file rank))
  | .connect handle comm => do
      onStatus (Status.onStore (Store.connect handle comm))
      return .done
  | .setCaller => do
      onThread thread (modify fun state => { state with isCaller := true })
      return .done
  | .clearCaller => do
      onThread thread (modify fun state => { state with isCaller := false })
      return .done
  | .pushGuard => do onThread thread (modify Thread.pushGuard); return .done
  | .popGuard => return .restored (← onThread thread Thread.popGuard)

end Machine

end Collective
