import Collective.Proofs.Accounting
import Collective.Proofs.Groups

/-!
# On what operations are launched

A launch runs on whatever its slot holds by then.  That is the algorithm that was
selected when the operation was submitted, unless somebody has shut down since: then
the selected algorithm was given back, and the launch runs on one that was loaded
later.
-/

namespace Collective

open Procedure History

/-- An algorithm runs requests for its own number of ranks. -/
theorem Metadata.numRanks_of_accepts {metadata : Metadata} {request : Request} {inPlace : Bool}
    (accepted : metadata.accepts request inPlace = true) :
    metadata.numRanks = request.numRanks := by
  simp only [accepts, Bool.and_eq_true, beq_iff_eq] at accepted
  exact accepted.1.1.2

namespace Catalog

variable {catalog : Catalog} {request : Request} {index : Nat}

/-- An entry of the catalog is the first that accepts a request. -/
structure Elects (catalog : Catalog) (request : Request) (index : Nat) (entry : Metadata) :
    Prop where
  listed : catalog.get? index = some entry
  accepts : entry.accepts request request.inPlace = true
  first : ∀ earlier other, earlier < index → catalog.get? earlier = some other →
    other.accepts request request.inPlace = false

theorem elects_of_firstMatch? (found : catalog.firstMatch? request = some index) :
    ∃ entry, catalog.Elects request index entry := by
  unfold firstMatch? at found
  split at found
  next =>
    obtain ⟨bound, accepted, first⟩ := List.findIdx?_eq_some_iff_getElem.mp found
    refine ⟨catalog.algorithms[index], List.getElem?_eq_getElem bound, accepted, ?_⟩
    intro earlier other before listed
    obtain ⟨_, rfl⟩ := List.getElem?_eq_some_iff.mp listed
    simpa using first earlier before
  next => cases found

end Catalog

namespace Status

variable {status : Status} {request : Request} {handle : Handle}

/-- A slot holds an algorithm for the rank of a request, and it is recorded for the
first catalog entry that accepts the request, whose file the algorithm came from. -/
structure Selects (status : Status) (request : Request) (handle : Handle)
    (algorithm : Instance) : Prop where
  loaded : status.store.loaded.get? handle = some algorithm
  rank : algorithm.rank = request.rank
  entry : ∃ index metadata, status.catalog.firstMatch? request = some index ∧
    status.catalog.get? index = some metadata ∧
    metadata.accepts request request.inPlace = true ∧
    status.store.handle? index request.rank = some handle ∧
    algorithm.file = metadata.file

/-- What the catalog chooses is selected. -/
theorem Chooses.selects (chooses : status.Chooses request handle)
    (coherent : status.Coherent) (internal : status.isExternal = false) :
    ∃ algorithm, status.Selects request handle algorithm := by
  obtain ⟨index, first, recorded⟩ := chooses.first internal
  obtain ⟨metadata, entry, accepted, _⟩ := Catalog.elects_of_firstMatch? first
  have sound := coherent.sound chooses.ready
  obtain ⟨other, algorithm, listed, loaded, file, rank⟩ := sound.recorded recorded
  have same : other = metadata := Option.some.inj (listed.symm.trans entry)
  rw [same] at file
  exact ⟨algorithm, loaded, rank, index, metadata, first, entry, accepted, recorded, file⟩

end Status

namespace Run

variable {run : Run} {number first last closing : Nat} {turn : Turn}

/-- A turn shuts down. -/
def ShutsDown (run : Run) (number : Nat) : Prop :=
  ∃ thread, run.turns[number]? = some ⟨thread, .shutDown⟩

theorem steady_iff : run.Steady first last ↔
    ∀ closing, first ≤ closing → closing < last → ¬ run.ShutsDown closing := by
  constructor
  · intro steady closing above below shuts
    obtain ⟨thread, taken⟩ := shuts
    exact steady closing _ above below taken rfl
  · intro never number turn above below taken shuts
    apply never number above below
    refine ⟨turn.thread, ?_⟩
    rw [taken, ← shuts]

/-- Nothing is held when somebody has just shut down. -/
theorem ShutsDown.holds_nothing (shuts : run.ShutsDown closing) :
    (run.status (closing + 1)).algorithms = 0 := by
  obtain ⟨thread, taken⟩ := shuts
  have closed : (run.status (closing + 1)).ready = false := (turned taken).down rfl
  exact ((run.settled (closing + 1)).2 closed).algorithms

/-- What was held and loaded is unloaded or held in the end. -/
theorem balance_between (order : first ≤ last) :
    loads (run.between first last) + (run.status first).algorithms =
      unloads (run.between first last) + (run.status last).algorithms := by
  have before := (run.accounted first).balanced.algorithms
  have after := (run.accounted last).balanced.algorithms
  rw [history_between order, loads_append, unloads_append, before] at after
  have sum : unloads (run.history first) +
        (loads (run.between first last) + (run.status first).algorithms) =
      unloads (run.history first) +
        (unloads (run.between first last) + (run.status last).algorithms) := by
    calc
      _ = loads (run.between first last) +
          (unloads (run.history first) + (run.status first).algorithms) := by abel
      _ = unloads (run.between first last) + unloads (run.history first) +
          (run.status last).algorithms := after
      _ = _ := by abel
  exact add_left_cancel sum

/-- What was held before somebody shut down was unloaded by then. -/
theorem ShutsDown.unloaded (shuts : run.ShutsDown closing) (order : first ≤ closing)
    {algorithm : Instance} (held : algorithm ∈ (run.status first).algorithms) :
    algorithm ∈ unloads (run.between first (closing + 1)) := by
  have balance := @balance_between run first (closing + 1) (Nat.le_succ_of_le order)
  rw [shuts.holds_nothing, Multiset.add_zero] at balance
  rw [← balance]
  exact Multiset.mem_add.mpr (.inr held)

/-- What is held after somebody shut down was loaded since. -/
theorem ShutsDown.loaded (shuts : run.ShutsDown closing) (order : closing < last)
    {algorithm : Instance} (held : algorithm ∈ (run.status last).algorithms) :
    algorithm ∈ loads (run.between (closing + 1) last) := by
  have balance := @balance_between run (closing + 1) last order
  rw [shuts.holds_nothing, Multiset.add_zero] at balance
  rw [balance]
  exact Multiset.mem_add.mpr (.inr held)

theorem loads_of_held {algorithm : Instance}
    (held : algorithm ∈ (run.status number).algorithms) :
    algorithm ∈ loads (run.history number) := by
  rw [(run.accounted number).balanced.algorithms]
  exact Multiset.mem_add.mpr (.inr held)

theorem distinct_before (distinct : (loads (run.history last)).Nodup) (order : first ≤ last) :
    (loads (run.history first)).Nodup :=
  Multiset.nodup_of_le (loads_le_of_suffix (history_suffix order)) distinct

/-- Where all loaded algorithms are distinct, none was loaded both before and after a
scene. -/
theorem not_loaded_again (distinct : (loads (run.history last)).Nodup) (order : first ≤ last)
    {algorithm : Instance} (before : algorithm ∈ loads (run.history first)) :
    algorithm ∉ loads (run.between first last) := by
  rw [history_between order, loads_append] at distinct
  obtain ⟨_, _, apart⟩ := Multiset.nodup_add.mp distinct
  intro after
  exact Multiset.disjoint_left.mp apart after before

theorem Launched.order {execution : Execution} (launched : run.Launched execution) :
    execution.submitted ≤ execution.executed := by
  rcases Nat.eq_zero_or_pos (run.thread execution.submitted execution.thread).depth
    with outside | inside
  · exact (launched.outside outside).ge
  · exact (launched.inside inside).order

/-- A call that launches was explained as a launch. -/
theorem launched_of_mem {execution : Execution} {launch : Launch}
    (member : execution ∈ run.ledger number) (launches : execution.event.call = .launch launch) :
    execution.executed < number ∧ run.Launched execution := by
  obtain ⟨before, launched | fell⟩ := explained member
  · exact ⟨before, launched⟩
  · obtain ⟨_, _, _, _, _, same⟩ := fell.runs
    rw [same] at launches
    cases launches

/-- What was chosen for an operation when it was submitted, and what it is launched
on. -/
theorem Launched.chosen {execution : Execution} {launch : Launch}
    (launched : run.Launched execution) (launches : execution.event.call = .launch launch) :
    run.Submits execution.submitted execution.thread
        ⟨launch.request, launch.comm, launch.stream⟩ ∧
      (run.status execution.submitted).Chooses launch.request launch.handle ∧
      (run.status execution.executed).store.loaded.get? launch.handle =
        some launch.algorithm := by
  obtain ⟨saved, ⟨submits, handle, given, chooses⟩, other, answer, same, request, comm, stream,
    slot, _, loaded⟩ := launched.launches
  rw [same] at launches
  obtain rfl : other = launch := Call.launch.inj launches
  rw [given] at slot
  cases slot
  rw [request, comm, stream]
  exact ⟨submits, chooses, loaded⟩

/-- Every launch of an operation whose algorithm the catalog decided runs on what its
slot holds.  That is the algorithm that was selected at the submission, loaded for the
operation's rank from the file of an entry that accepts it, unless somebody has shut
down since.  If somebody has, the selected algorithm was unloaded and the launch runs on
one that was loaded afterwards; so where all loaded algorithms are distinct, an
operation is launched on the algorithm selected for it exactly if nobody has shut
down. -/
theorem launched_as_selected {execution : Execution} {launch : Launch}
    (member : execution ∈ run.ledger number) (launches : execution.event.call = .launch launch)
    (internal : (run.status execution.submitted).isExternal = false) :
    run.Submits execution.submitted execution.thread
      ⟨launch.request, launch.comm, launch.stream⟩ ∧
    (run.status execution.executed).store.loaded.get? launch.handle = some launch.algorithm ∧
    ∃ selected, (run.status execution.submitted).Selects launch.request launch.handle selected ∧
      (run.Steady execution.submitted execution.executed → launch.algorithm = selected) ∧
      (∀ closing, execution.submitted ≤ closing → closing < execution.executed →
        run.ShutsDown closing →
        selected ∈ unloads (run.between execution.submitted (closing + 1)) ∧
        launch.algorithm ∈ loads (run.between (closing + 1) execution.executed)) ∧
      ((loads (run.history number)).Nodup →
        (launch.algorithm = selected ↔
          run.Steady execution.submitted execution.executed)) := by
  obtain ⟨before, launched⟩ := launched_of_mem member launches
  obtain ⟨submits, chooses, loaded⟩ := launched.chosen launches
  obtain ⟨selected, selects⟩ := chooses.selects (run.settled execution.submitted).1 internal
  have kept (steady : run.Steady execution.submitted execution.executed) :
      launch.algorithm = selected := by
    obtain ⟨_, extended⟩ := stays_up steady chooses.ready launched.order
    have still := extended.store.loaded selects.loaded
    exact Option.some.inj (loaded.symm.trans still)
  have replaced (closing : Nat) (above : execution.submitted ≤ closing)
      (below : closing < execution.executed) (shuts : run.ShutsDown closing) :
      selected ∈ unloads (run.between execution.submitted (closing + 1)) ∧
        launch.algorithm ∈ loads (run.between (closing + 1) execution.executed) := by
    constructor
    · exact shuts.unloaded above (Table.mem_values_of_get? selects.loaded)
    · exact shuts.loaded below (Table.mem_values_of_get? loaded)
  refine ⟨submits, loaded, selected, selects, kept, replaced, ?_⟩
  intro distinct
  refine ⟨fun same => ?_, kept⟩
  rw [steady_iff]
  intro closing above below shuts
  have again := (replaced closing above below shuts).2
  have held := Table.mem_values_of_get? selects.loaded
  have early := Multiset.mem_of_le (loads_le_of_suffix (history_suffix (Nat.le_succ_of_le above)))
    (loads_of_held held)
  have apart := distinct_before distinct (Nat.le_of_lt before)
  rw [same] at again
  exact not_loaded_again apart below early again

end Run

namespace Sample

/-- A thread saves an operation for rank 0.  Before it closes the group another thread
shuts down and joins as rank 1. -/
def overtaken : Run := run .allReduce [⟨0, .join (comm 1 0)⟩, ⟨0, .openGroup⟩,
  ⟨0, .submit allReduce (comm 1 0) ⟨0⟩⟩, ⟨1, .shutDown⟩, ⟨1, .join (comm 2 1)⟩, ⟨0, .closeGroup⟩]

/-- The operation is launched on an algorithm for rank 1, which is not the one that was
selected for it. -/
theorem launched_on_another :
    ∃ execution ∈ overtaken.ledger 6, ∃ launch, execution.event.call = .launch launch ∧
      (overtaken.status execution.submitted).isExternal = false ∧
      launch.request.rank = 0 ∧ launch.algorithm.rank = 1 ∧
      ∃ selected, (overtaken.status execution.submitted).Selects launch.request launch.handle
        selected ∧ launch.algorithm ≠ selected := by
  have listed : (overtaken.ledger 6).map (fun execution =>
      (execution.submitted, execution.event.call.launch?.map fun launch =>
        (launch.request.rank, launch.algorithm.rank))) = [(2, some (0, 1))] := by
    decide +kernel
  obtain ⟨execution, member, same⟩ := List.mem_map.mp (listed ▸ List.mem_singleton_self _)
  obtain ⟨submitted, ranks⟩ := Prod.mk.inj same
  obtain ⟨launch, found, same⟩ := Option.map_eq_some_iff.mp ranks
  obtain ⟨requested, loadedFor⟩ := Prod.mk.inj same
  have launches := Call.launch?_eq_some_iff.mp found
  have internal : (overtaken.status execution.submitted).isExternal = false := by
    rw [submitted]
    decide +kernel
  obtain ⟨_, _, selected, selects, _⟩ := Run.launched_as_selected member launches internal
  refine ⟨execution, member, launch, launches, internal, requested, loadedFor, selected,
    selects, ?_⟩
  intro equal
  have rank := selects.rank
  rw [← equal, requested, loadedFor] at rank
  cases rank

end Sample

end Collective
