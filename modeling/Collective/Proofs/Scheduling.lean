import Collective.Proofs.Connections
import Mathlib.Tactic.IntervalCases

/-!
# What is selected for a communicator that has joined

Where the catalog decides, every operation on a communicator that has joined is scheduled
for which the catalog has an entry: nothing that happens before somebody shuts down can
take away the slots of the communicator, or their connections.
-/

namespace Collective

open Procedure History

theorem Word.le_max (first second : UInt32) :
    first ≤ max first second ∧ second ≤ max first second := by
  show first ≤ (if first ≤ second then second else first) ∧
    second ≤ (if first ≤ second then second else first)
  split
  next less => exact ⟨less, UInt32.le_refl second⟩
  next more => exact ⟨UInt32.le_refl first, UInt32.le_of_lt (UInt32.not_le.mp more)⟩

namespace Catalog

variable {catalog : Catalog} {request : Request} {index : Nat} {entry : Metadata}

/-- Something is found exactly if there is something to find. -/
theorem firstMatch?_isSome :
    (catalog.firstMatch? request).isSome = true ↔ request.operation.reduction.pointwise = true ∧
      ∃ entry ∈ catalog.algorithms, entry.accepts request request.inPlace = true := by
  unfold firstMatch?
  split
  next pointwise => simp [pointwise]
  next other => simp [other]

/-- The largest number of channels is at least each, and at least what it started from. -/
theorem le_foldl_max (entries : List Metadata) (start : UInt32) :
    start ≤ entries.foldl (fun most entry => max most entry.numChannels) start ∧
      ∀ entry ∈ entries,
        entry.numChannels ≤ entries.foldl (fun most entry => max most entry.numChannels) start := by
  induction entries generalizing start with
  | nil => exact ⟨UInt32.le_refl start, by simp⟩
  | cons first others ih =>
      obtain ⟨least, own⟩ := Word.le_max start first.numChannels
      obtain ⟨most, each⟩ := ih (max start first.numChannels)
      refine ⟨UInt32.le_trans least most, ?_⟩
      intro entry member
      rcases List.mem_cons.mp member with rfl | later
      · exact UInt32.le_trans own most
      · exact each entry later

/-- An entry needs no more channels than its number of ranks needs. -/
theorem numChannels_le_channelsFor (listed : catalog.get? index = some entry) :
    entry.numChannels ≤ catalog.channelsFor entry.numRanks := by
  apply (le_foldl_max _ 0).2
  rw [List.mem_filter]
  exact ⟨List.mem_of_getElem? listed, by simp⟩

end Catalog

namespace Status

variable {env : Environment} {status : Status} {history : History}

/-- The catalog's choice is the slot that is recorded for its first entry that accepts the
request. -/
theorem run_select {asCaller : Bool} (internal : status.selector = some .internal)
    (request : Request) :
    (select asCaller request).run env status history =
      ⟨.ok ((status.catalog.firstMatch? request).bind fun index =>
        status.store.handle? index request.rank), status, history⟩ := by
  unfold select
  rw [run_bind, run_get]
  dsimp only
  rw [internal]
  cases status.catalog.firstMatch? request with
  | none => rfl
  | some index => rfl

/-- A slot for an operation on a communicator: it is recorded for the first entry of the
catalog that accepts the operation, which needs no more channels than there are, it holds
an algorithm from the file of that entry for the rank of the communicator, and it is
connected on the communicator. -/
def Schedules (status : Status) (comm : Communicator) (operation : Operation)
    (channels : UInt32) (handle : Handle) : Prop :=
  ∃ index entry algorithm, status.catalog.Elects (comm.request operation) index entry ∧
    entry.numChannels ≤ channels ∧
    status.store.handle? index comm.rank = some handle ∧
    status.store.loaded.get? handle = some algorithm ∧
    algorithm.file = entry.file ∧ algorithm.rank = comm.rank ∧
    status.store.isConnected comm.id handle = true

theorem Schedules.loaded {comm : Communicator} {operation : Operation} {channels : UInt32}
    {handle : Handle} (schedules : status.Schedules comm operation channels handle) :
    ∃ algorithm, status.store.loaded.get? handle = some algorithm := by
  obtain ⟨_, _, algorithm, _, _, _, loaded, _⟩ := schedules
  exact ⟨algorithm, loaded⟩

/-- Where a communicator is hosted, the first entry that accepts an operation has a
slot. -/
theorem Hosts.schedules {comm : Communicator} {channels : UInt32} {operation : Operation}
    {index : Nat} (hosts : status.Hosts comm channels)
    (sound : status.store.Sound status.catalog.algorithms)
    (found : status.catalog.firstMatch? (comm.request operation) = some index) :
    ∃ handle, status.store.handle? index comm.rank = some handle ∧
      status.Schedules comm operation channels handle := by
  obtain ⟨entry, elects⟩ := Catalog.elects_of_firstMatch? found
  have ranks : entry.numRanks = comm.numRanks := Metadata.numRanks_of_accepts elects.accepts
  obtain ⟨handle, recorded, linked⟩ := hosts.serves elects.listed ranks
  obtain ⟨other, algorithm, listed, loaded, file, rank⟩ := sound.recorded recorded
  have same : other = entry := Option.some.inj (listed.symm.trans elects.listed)
  rw [same] at file
  have enough := Catalog.numChannels_le_channelsFor elects.listed
  rw [ranks, hosts.channels] at enough
  exact ⟨handle, recorded, index, entry, algorithm, elects, enough, recorded, loaded, file, rank,
    linked⟩

end Status

namespace Run

variable {run : Run} {joining last : Nat} {thread : ThreadId} {comm : Communicator}
variable {channels : UInt32}

/-- Once a communicator has joined and until somebody shuts down, where the catalog
decides, whatever else happens: a selection for an operation on the communicator succeeds
and changes nothing, and it gives a slot exactly if the operation reduces pointwise, if at
all, and some entry of the catalog accepts it.  The slot is then that of the first such
entry, loaded from its file for the rank of the communicator and connected on it, and the
entry needs no more channels than the communicator was told. -/
theorem schedules_what_is_accepted (fits : Machine.fit run.config comm = true)
    (taken : run.turns[joining]? = some ⟨thread, .join comm⟩)
    (joined : (run.outcome (run.scene joining) ⟨thread, .join comm⟩).result =
      .ok (.channels channels))
    (order : joining < last) (steady : run.Steady joining last)
    (internal : (run.status last).isExternal = false) (asking : ThreadId)
    (operation : Operation) :
    ∃ chosen, run.outcome (run.scene last) ⟨asking, .select (comm.request operation)⟩ =
        ⟨.ok (.selected chosen), (run.scene last).machine, run.history last⟩ ∧
      (chosen.isSome = true ↔ operation.reduction.pointwise = true ∧
        ∃ entry ∈ (run.status last).catalog.algorithms, entry.accepts (comm.request operation)
          (comm.request operation).inPlace = true) ∧
      ∀ handle, chosen = some handle →
        (run.status last).Schedules comm operation channels handle := by
  obtain ⟨up, decides, hosts⟩ := stays_hosted fits taken joined order steady internal
  have selected : run.outcome (run.scene last) ⟨asking, .select (comm.request operation)⟩ =
      ⟨.ok (.selected (((run.status last).catalog.firstMatch? (comm.request operation)).bind
        fun index => (run.status last).store.handle? index comm.rank)),
        (run.scene last).machine, run.history last⟩ := by
    unfold status at decides
    unfold outcome Machine.perform Machine.onBehalf Machine.onStatus
    rw [run_bind, run_bind, run_get]
    dsimp only
    rw [run_within, Status.run_select decides]
    rfl
  refine ⟨_, selected, ?_, ?_⟩
  · have findable := @Catalog.firstMatch?_isSome (run.status last).catalog (comm.request operation)
    refine Iff.trans ?_ findable
    cases found : (run.status last).catalog.firstMatch? (comm.request operation) with
    | none => rfl
    | some index =>
        obtain ⟨handle, recorded, _⟩ := hosts.schedules ((run.settled last).1.sound up) found
        simp [recorded]
  · intro handle chosen
    obtain ⟨index, found, given⟩ := Option.bind_eq_some_iff.mp chosen
    obtain ⟨other, recorded, schedules⟩ := hosts.schedules ((run.settled last).1.sound up) found
    have same : other = handle := Option.some.inj (recorded.symm.trans given)
    rw [← same]
    exact schedules

end Run

namespace Sample

/-- Two communicators join, an algorithm is loaded, and an operation is launched. -/
def shared : Run := run .allReduce [⟨0, .join (comm 1 0)⟩, ⟨1, .join (comm 2 1)⟩,
  ⟨1, .load ⟨[0]⟩ 0⟩, ⟨1, .submit allReduce (comm 2 1) ⟨0⟩⟩]

/-- The operation is still scheduled for the communicator that joined first. -/
theorem scheduled_in_shared :
    ∃ handle, (shared.outcome (shared.scene 4) ⟨1, .select ((comm 1 0).request allReduce)⟩).result =
        .ok (.selected (some handle)) ∧
      (shared.status 4).Schedules (comm 1 0) allReduce 1 handle := by
  have joined : (shared.outcome (shared.scene 0) ⟨0, .join (comm 1 0)⟩).result =
      .ok (.channels 1) := by decide +kernel
  have internal : (shared.status 4).isExternal = false := by decide +kernel
  have steady : shared.Steady 0 4 := by
    intro number turn _ below taken
    interval_cases number <;> cases taken <;> simp
  obtain ⟨chosen, selected, _, schedules⟩ :=
    @Run.schedules_what_is_accepted shared 0 4 0 (comm 1 0) 1 (by decide) rfl joined (by decide)
      steady internal 1 allReduce
  have given : (shared.outcome (shared.scene 4)
      ⟨1, .select ((comm 1 0).request allReduce)⟩).result = .ok (.selected (some ⟨0⟩)) := by
    decide +kernel
  rw [selected] at given
  cases given
  exact ⟨⟨0⟩, by rw [selected], schedules ⟨0⟩ rfl⟩

end Sample

end Collective
