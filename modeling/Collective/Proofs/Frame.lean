import Collective.Proofs.Turn

/-!
# What procedures leave alone

Launches leave alone who selects, what the catalog lists and what the store holds, and a
thread's own affairs leave alone all that the threads share.  To show that a command keeps
something it is therefore enough to look at the few procedures that may change it.
-/

namespace Collective

open Procedure

namespace Procedure

variable {S T α : Type}

/-- What is left alone keeps all that is said of it. -/
theorem Keeps.through {value : S → T} {procedure : Procedure S α}
    (alone : ∀ start, procedure.Keeps fun state _ => value state = start) (holds : T → Prop) :
    procedure.Keeps fun state _ => holds (value state) := by
  intro env state history before
  apply (alone (value state) env state history rfl).mono
  · exact fun _ _ _ same => same ▸ before
  · exact fun _ _ _ same => same ▸ before

/-- Questions keep what is said of the state. -/
theorem Keeps.of_asked {holds : S → Prop} {procedure : Procedure S α}
    (asked : ∀ env state history, procedure.Ensures env state history
      (fun _ => Asked state history) (fun _ => Asked state history)) :
    procedure.Keeps fun state _ => holds state := by
  intro env state history before
  apply (asked env state history).mono
  · exact fun _ _ _ same => same.1 ▸ before
  · exact fun _ _ _ same => same.1 ▸ before

end Procedure

theorem External.keeps_checked {S : Type} {holds : S → History → Prop} (step : ExternalStep)
    (code : Int32) : (External.checked step code : Procedure S Unit).Keeps holds := by
  unfold External.checked
  split
  · exact .pure _
  · exact .throw _

namespace Store

variable {assigned : Table (Nat × UInt64) Handle}

theorem keeps_assigned_load (file : Path) (rank : UInt64) :
    (load file rank).Keeps fun store _ => store.assigned = assigned := by
  intro env store history same
  apply (ensures_load [] file rank).mono
  · rintro _ _ _ ⟨_, _, _, _, _, _, rfl, _⟩
    exact same
  · rintro _ _ _ ⟨rfl, _⟩
    exact same

/-- A connection keeps what does not depend on which slots are connected. -/
theorem keeps_connect {holds : Store → Prop} (handle : Handle) (comm : Communicator)
    (connects : ∀ store connected, holds store → holds { store with connected }) :
    (connect handle comm).Keeps fun store _ => holds store := by
  refine .bind .get fun store => ?_
  split
  · exact .pure _
  · split
    · exact .throw _
    · refine .bind (.ask fun _ _ _ held => held) fun answer => ?_
      exact .bind (.accepted answer) fun _ => .modify fun store _ => connects store _

end Store

namespace Status

variable {α : Type}

/-- What preparations record: the entries of the catalog, and their slots. -/
def recorded (status : Status) : Catalog × Table (Nat × UInt64) Handle :=
  (status.catalog, status.store.assigned)

/-- What launches leave alone: who selects, what is listed and what is loaded. -/
def core (status : Status) : Option Selector × Catalog × Store :=
  (status.selector, status.catalog, status.store)

/-- A selection keeps what is said of the status. -/
theorem keeps_select {holds : Status → Prop} {asCaller : Bool} (request : Request) :
    (select asCaller request).Keeps fun status _ => holds status :=
  .of_asked fun _ _ _ => (ensures_selectSlot request).mono (fun _ _ _ asked => asked.1)
    fun _ _ _ asked => asked.1

/-- The installation of a scheduler keeps what does not depend on who selects. -/
theorem keeps_install {holds : Status → Prop} (scheduler : External)
    (installs : ∀ status selector, holds status → holds { status with selector }) :
    (install scheduler).Keeps fun status _ => holds status := by
  refine .bind .get fun status => ?_
  split
  · exact .throw _
  · refine .bind (.of_asked fun _ _ _ => External.ensures_start _) fun _ => ?_
    exact .modify fun status _ => installs status _

theorem keeps_load {holds : Status → Prop} {file : Path} {rank : UInt64}
    (loads : (onStore (Store.load file rank)).Keeps fun status _ => holds status) :
    (load file rank).Keeps fun status _ => holds status := by
  refine .bind .get fun status => ?_
  split
  · exact .throw _
  · exact loads

section Core

variable {core : Option Selector × Catalog × Store}

theorem keeps_core_startLaunches : startLaunches.Keeps fun status _ => status.core = core := by
  refine .bind (.modify fun _ _ same => same) fun _ => ?_
  refine .bind (.ask fun _ _ _ same => same) fun answer => ?_
  exact .bind (.accepted answer) fun _ => .modify fun _ _ same => same

theorem keeps_core_ensureScratch (bytes : UInt64) :
    (ensureScratch bytes).Keeps fun status _ => status.core = core := by
  have stretch : Keeps (fun status _ => status.core = core) (do
      let buffer ← accepted (← ask (.allocate .scratch bytes))
      modify fun status : Status => { status with scratch := some buffer }) := by
    refine .bind (.ask fun _ _ _ same => same) fun answer => ?_
    exact .bind (.accepted answer) fun _ => .modify fun _ _ same => same
  refine .bind .get fun status => ?_
  split
  · exact .pure _
  · split
    · refine .bind (.modify fun _ _ same => same) fun _ => ?_
      refine .bind (.ask fun _ _ _ same => same) fun answer => ?_
      exact .bind (.accepted answer) fun _ => stretch
    · exact stretch

theorem keeps_core_launch {asCaller : Bool} (pending : Pending) (handle : Handle) :
    (launch asCaller pending handle).Keeps fun status _ => status.core = core := by
  refine .bind .get fun status => ?_
  dsimp only
  split
  · exact .throw _
  · split
    · exact .throw _
    · refine .bind (.ask fun _ _ _ same => same) fun bytes => ?_
      refine .bind (keeps_core_ensureScratch bytes) fun _ => .bind .get fun status => ?_
      split
      · exact .throw _
      · refine .bind (.ask fun _ _ _ same => same) fun answer => ?_
        exact .bind (.accepted answer) fun _ => .modify fun _ _ same => same

theorem keeps_core_launchEach {asCaller : Bool} (operations : List SavedOperation) :
    (launchEach asCaller operations).Keeps fun status _ => status.core = core := by
  induction operations with
  | nil => exact .pure _
  | cons operation others ih =>
      unfold launchEach
      split
      · exact .throw _
      · exact .bind (keeps_core_launch _ _) fun _ => ih

end Core

end Status

namespace Machine

variable {α : Type} {holds : Machine → History → Prop} {config : Config} {thread : ThreadId}

theorem keeps_onStatus {holds : Status → History → Prop} {procedure : Procedure Status α}
    (kept : procedure.Keeps holds) :
    (onStatus procedure).Keeps fun machine => holds machine.status :=
  .within (fun _ => rfl) fun _ => kept

theorem keeps_onBehalf {holds : Status → History → Prop} {procedure : Bool → Procedure Status α}
    (kept : ∀ asCaller, (procedure asCaller).Keeps holds) :
    (onBehalf thread procedure).Keeps fun machine => holds machine.status :=
  .bind .get fun _ => keeps_onStatus (kept _)

/-- A thread's own affairs keep what is said of all that the threads share. -/
theorem keeps_onThread {holds : Status → Prop} (procedure : Procedure Thread α) :
    (onThread thread procedure).Keeps fun machine _ => holds machine.status :=
  .within (fun _ => setThread_eta) fun machine => .always (holds machine.status) procedure

/-- A submission keeps what selections, launches and its thread's own affairs keep. -/
theorem keeps_submit (operation : Operation) (comm : Communicator) (stream : Stream)
    (selects : ∀ request, (onBehalf thread (Status.select · request)).Keeps holds)
    (launches : ∀ pending handle, (onBehalf thread (Status.launch · pending handle)).Keeps holds)
    (saves : ∀ operation, (onThread thread (modify fun state => state.save operation)).Keeps holds)
    (turns :
      (onThread thread (modify fun state => { state with phase := .fallingBack })).Keeps holds)
    (falls : ∀ pending, (onThread thread (Thread.fallBack pending)).Keeps holds) :
    (submit config thread operation comm stream).Keeps holds := by
  have chooses (pending : Pending) : (choose config thread pending).Keeps holds := by
    refine .bind .get fun machine => ?_
    split
    · exact selects _
    · exact .pure _
  refine .bind (.ofExcept _) fun _ => .bind .get fun machine => ?_
  split
  · refine .bind (chooses _) fun choice => ?_
    cases choice with
    | some handle => exact launches _ handle
    | none => exact falls _
  · refine .bind (chooses _) fun choice => ?_
    cases choice with
    | some handle => exact saves _
    | none => exact .bind turns fun _ => falls _
  · exact falls _

theorem keeps_closeGroup (closes : (onThread thread Thread.closeGroup).Keeps holds)
    (launches : ∀ operations, (onBehalf thread (Status.launchEach · operations)).Keeps holds) :
    (closeGroup thread).Keeps holds := by
  refine .bind closes fun saved => ?_
  split
  · exact .pure _
  · exact launches _

/-- A command that is neither a join nor a shutdown keeps what is said of the selector, the catalog
and the store, if those keep it that may change them. -/
theorem keeps_core {holds : Option Selector × Catalog × Store → Prop} (command : Command)
    (elsewise : ∀ comm, command ≠ .join comm) (open_ : command ≠ .shutDown)
    (installs : ∀ key, command = .install key →
      (Status.install (.installed key)).Keeps fun status _ => holds status.core)
    (loads : ∀ file rank, command = .load file rank →
      (Status.load file rank).Keeps fun status _ => holds status.core)
    (connects : ∀ handle comm, command = .connect handle comm →
      (Status.onStore (Store.connect handle comm)).Keeps fun status _ => holds status.core) :
    (perform config thread command).Keeps fun machine _ => holds machine.status.core := by
  let Holds (status : Status) : Prop := holds status.core
  have own {β : Type} (procedure : Procedure Thread β) :
      (onThread thread procedure).Keeps fun machine _ => Holds machine.status :=
    keeps_onThread procedure
  have selected (request : Request) :
      (onBehalf thread (Status.select · request)).Keeps fun machine _ => Holds machine.status :=
    keeps_onBehalf fun _ => Status.keeps_select request
  cases command with
  | join comm => exact absurd rfl (elsewise comm)
  | shutDown => exact absurd rfl open_
  | install key => exact .bind (keeps_onStatus (installs key rfl)) fun _ => .pure _
  | closeGroup =>
      refine .bind (keeps_closeGroup (own _) fun operations => ?_) fun _ => .pure _
      exact keeps_onBehalf fun _ =>
        .through (fun _ => Status.keeps_core_launchEach operations) holds
  | submit operation comm stream =>
      refine .bind (keeps_submit operation comm stream ?_ ?_ (fun _ => own _) (own _)
        fun _ => own _) fun _ => .pure _
      · exact selected
      · exact fun pending handle => keeps_onBehalf fun _ =>
          .through (fun _ => Status.keeps_core_launch pending handle) holds
  | select request => exact .bind (selected request) fun _ => .pure _
  | load file rank => exact .bind (keeps_onStatus (loads file rank rfl)) fun _ => .pure _
  | connect handle comm =>
      exact .bind (keeps_onStatus (connects handle comm rfl)) fun _ => .pure _
  | openGroup | setCaller | clearCaller | pushGuard | popGuard =>
      exact .bind (own _) fun _ => .pure _

/-- Only a communicator that joins fills the catalog or has slots recorded for its entries, and
only a shutdown forgets them. -/
theorem keeps_recorded {recorded : Catalog × Table (Nat × UInt64) Handle} (command : Command)
    (elsewise : ∀ comm, command ≠ .join comm) (open_ : command ≠ .shutDown) :
    (perform config thread command).Keeps fun machine _ =>
      machine.status.recorded = recorded := by
  have stored {β : Type} {procedure : Procedure Store β}
      (kept : ∀ assigned, procedure.Keeps fun store _ => store.assigned = assigned) :
      (Status.onStore procedure).Keeps fun status _ => status.recorded = recorded :=
    .within (fun _ => rfl) fun status =>
      .through kept fun assigned => (status.catalog, assigned) = recorded
  refine @keeps_core config thread (fun core => (core.2.1, core.2.2.assigned) = recorded) command
    elsewise open_ ?_ ?_ ?_
  · exact fun key _ => Status.keeps_install _ fun _ _ same => same
  · exact fun file rank _ => Status.keeps_load (stored fun _ => Store.keeps_assigned_load file rank)
  · exact fun handle comm _ => stored fun _ => Store.keeps_connect handle comm fun _ _ same => same

end Machine

end Collective
