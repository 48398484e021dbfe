import Collective.Proofs.Run
import Mathlib.Algebra.Order.Group.Multiset
import Mathlib.Tactic.Abel

/-!
# Accounting of algorithms and buffers

What was loaded or allocated and not yet given back is exactly what the status holds,
each thing once.  A thing is given back only while it is held, and a launch names only
things that are held.
-/

namespace Collective

open Procedure History

namespace History

/-- The algorithms that were loaded and not yet unloaded. -/
def algorithms (history : History) : Multiset Instance := loads history - unloads history

/-- The buffers that were allocated and not yet freed. -/
def buffers (history : History) : Multiset Buffer := allocations history - frees history

end History

/-- The buffers that a launch names. -/
def Launch.buffers (launch : Launch) : List Buffer :=
  launch.image.toList ++ launch.scratch.toList ++ [launch.syncFlags]

/-- An event gives back only what is held before it, and launches only that. -/
structure Event.Due (event : Event) (past : History) : Prop where
  unloaded : ∀ algorithm, event.call.unloaded? = some algorithm → algorithm ∈ algorithms past
  freed : ∀ buffer, event.call.freed? = some buffer → buffer ∈ buffers past
  launched : ∀ launch, event.call = .launch launch →
    launch.algorithm ∈ algorithms past ∧ ∀ buffer ∈ launch.buffers, buffer ∈ buffers past

/-- Every event of a history was due. -/
def History.Orderly (history : History) : Prop :=
  ∀ event past, event :: past <:+ history → event.Due past

namespace Status

/-- The algorithms that a status holds. -/
def algorithms (status : Status) : Multiset Instance := status.store.loaded.values

/-- The buffers that a status holds. -/
def buffers (status : Status) : Multiset Buffer :=
  status.store.images.values + (status.scratch.toList : Multiset Buffer) +
    (status.syncFlags.toList : Multiset Buffer)

/-- What was taken is what was given back and what is held. -/
structure Balanced (status : Status) (history : History) : Prop where
  algorithms : loads history = unloads history + status.algorithms
  buffers : allocations history = frees history + status.buffers

variable {status after : Status} {history later : History}

theorem Dormant.algorithms (dormant : status.Dormant) : status.algorithms = 0 := by
  rw [Status.algorithms, dormant.store.loaded]
  rfl

theorem Dormant.buffers (dormant : status.Dormant) : status.buffers = 0 := by
  rw [Status.buffers, dormant.store.images, dormant.scratch, dormant.syncFlags]
  rfl

namespace Balanced

theorem held_algorithms (balanced : status.Balanced history) :
    History.algorithms history = status.algorithms := by
  have sum := balanced.algorithms
  rw [Multiset.add_comm] at sum
  exact (Multiset.eq_sub_of_add_eq sum.symm).symm

theorem held_buffers (balanced : status.Balanced history) :
    History.buffers history = status.buffers := by
  have sum := balanced.buffers
  rw [Multiset.add_comm] at sum
  exact (Multiset.eq_sub_of_add_eq sum.symm).symm

/-- An event that takes nothing and gives nothing back. -/
theorem cons (balanced : status.Balanced history) (event : Event)
    (loaded : event.loaded? = none) (allocated : event.allocated? = none)
    (unloaded : event.call.unloaded? = none) (freed : event.call.freed? = none) :
    status.Balanced (event :: history) where
  algorithms := by simpa [loaded, unloaded] using balanced.algorithms
  buffers := by simpa [allocated, freed] using balanced.buffers

theorem quiet (balanced : status.Balanced history) {event : Event}
    (quiet : event.quiet = true) : status.Balanced (event :: history) := by
  obtain ⟨loaded, allocated, unloaded, freed, -, -⟩ := Event.quiet_iff.mp quiet
  exact balanced.cons event loaded allocated unloaded freed

/-- A buffer that is allocated is held from then on. -/
theorem allocate (balanced : status.Balanced history) (use : BufferUse) (bytes : UInt64)
    (buffer : Buffer) (same : after.algorithms = status.algorithms)
    (held : after.buffers = status.buffers + {buffer}) :
    after.Balanced (⟨.allocate use bytes, .ok buffer⟩ :: history) where
  algorithms := by
    rw [loads_cons, unloads_cons, same]
    simpa [Event.loaded?, Call.unloaded?] using balanced.algorithms
  buffers := by
    rw [allocations_cons, frees_cons, held, balanced.buffers]
    simp only [Event.allocated?, Call.freed?, Option.toList_none, Option.toList_some,
      Multiset.coe_singleton, Multiset.coe_nil]
    abel

/-- A load adds its algorithm and its image. -/
theorem occupy (balanced : status.Balanced history) {handle : Handle} {others : List Handle}
    {algorithms : List Metadata} (sound : status.store.Sound algorithms)
    (next : status.store.free = handle :: others) (algorithm : Instance)
    (image : Option Buffer) :
    Balanced { status with store := status.store.occupy others handle algorithm image }
      (algorithm.loading image ++ history) := by
  have loaded : (status.store.loaded.insert handle algorithm).values =
      algorithm ::ₘ status.store.loaded.values :=
    Table.values_insert_of_absent (sound.free_empty next)
  constructor
  · cases image <;>
      simp [Instance.loading, Event.loaded?, Call.unloaded?, balanced.algorithms,
        Status.algorithms, Store.occupy, loaded]
  · cases image with
    | none =>
        simpa [Instance.loading, Event.allocated?, Call.freed?, Store.occupy,
          Status.buffers] using balanced.buffers
    | some image =>
        have imaged : (status.store.images.insert handle image).values =
            image ::ₘ status.store.images.values :=
          Table.values_insert_of_absent (sound.free_imageless next)
        simp [Instance.loading, Event.allocated?, Call.freed?, Store.occupy, Status.buffers,
          balanced.buffers, imaged]

end Balanced

/-- Every move keeps the balance. -/
theorem Growth.balanced (grown : Growth status history after later)
    (before : status.Balanced history) : after.Balanced later := by
  cases grown with
  | call quiet => exact before.quiet quiet
  | choose | list | refill => exact ⟨before.algorithms, before.buffers⟩
  | reset closed none =>
      refine ⟨before.algorithms, ?_⟩
      simpa [Status.buffers, none] using before.buffers
  | start flags closed none =>
      refine before.allocate .syncFlags _ flags rfl ?_
      simp [Status.buffers, none]
  | drop answer ready held =>
      refine ⟨before.algorithms, ?_⟩
      have total := before.buffers
      simp only [Status.buffers, held, Option.toList_some] at total ⊢
      rw [allocations_cons, frees_cons, total]
      simp only [Event.allocated?, Call.freed?, Option.toList_none, Option.toList_some]
      abel
  | stretch buffer bytes ready none =>
      refine before.allocate .scratch bytes buffer rfl ?_
      simp only [Status.buffers, none, Option.toList_none, Option.toList_some,
        Multiset.coe_singleton, Multiset.coe_nil]
      abel
  | store sound moved =>
      cases moved with
      | call quiet => exact before.quiet quiet
      | undo algorithm reason answer =>
          constructor
          · simpa [Instance.undoing, Event.loaded?, Call.unloaded?] using before.algorithms
          · simpa [Instance.undoing, Event.allocated?, Call.freed?] using before.buffers
      | load algorithm image next => exact before.occupy sound next algorithm image
      | assign algorithm image next entry file fresh =>
          have occupied := before.occupy sound next algorithm image
          exact ⟨occupied.algorithms, occupied.buffers⟩
      | @connect handle algorithm comm fresh loaded =>
          have asked := before.cons ⟨.connect algorithm comm, .ok ()⟩ rfl rfl rfl rfl
          exact ⟨asked.algorithms, asked.buffers⟩

theorem Move.balanced (moved : Move status history after later)
    (before : status.Balanced history) : after.Balanced later := by
  cases moved with
  | growth grown => exact grown.balanced before
  | @launch _ asCaller pending handle algorithm syncFlags answer ready loaded flags =>
      have called := before.cons
        ⟨.launch (status.launchOf asCaller pending handle algorithm syncFlags), answer⟩
        rfl rfl rfl rfl
      cases answer with
      | error => exact called
      | ok => exact ⟨called.algorithms, called.buffers⟩
  | plain call answer => exact before.cons ⟨.plain call, answer⟩ rfl rfl rfl rfl

section Release

variable {loaded : List (Handle × Instance)} {images : List (Handle × Buffer)}

theorem unloaded_stopping (selector : Option Selector) :
    (stopping selector).filterMap Call.unloaded? = [] := by
  unfold stopping
  split <;> rfl

theorem freed_stopping (selector : Option Selector) :
    (stopping selector).filterMap Call.freed? = [] := by
  unfold stopping
  split <;> rfl

/-- A release unloads what the status holds. -/
theorem unloaded_returning (perm : loaded.Perm status.store.loaded.entries) :
    (((Store.returning loaded images ++ status.returning).filterMap Call.unloaded? : List _) :
      Multiset _) = status.algorithms := by
  unfold algorithms
  rw [← Table.values_of_perm perm]
  simp [Store.returning, returning, unloaded_stopping, List.filterMap_map, Function.comp_def,
    Call.unloaded?]

/-- A release frees what the status holds. -/
theorem freed_returning (perm : images.Perm status.store.images.entries) :
    (((Store.returning loaded images ++ status.returning).filterMap Call.freed? : List _) :
      Multiset _) = status.buffers := by
  unfold buffers
  rw [← Table.values_of_perm perm]
  simp [Store.returning, returning, freed_stopping, List.filterMap_map, Function.comp_def,
    Call.freed?]

/-- A release leaves nothing that is held. -/
theorem Released.balanced (released : Released status history after later)
    (before : status.Balanced history) : after.Balanced later := by
  obtain ⟨loaded, images, loadedPerm, imagesPerm, rfl, adds⟩ := released
  have returns := status.returning_returns loaded images
  constructor
  · show loads later = unloads later + 0
    rw [adds.loads_eq returns, adds.unloads_eq, unloaded_returning loadedPerm, before.algorithms]
    abel
  · show allocations later = frees later + 0
    rw [adds.allocations_eq returns, adds.frees_eq, freed_returning imagesPerm, before.buffers]
    abel

end Release

end Status

/-- A call that gives nothing back and executes nothing is always due. -/
theorem Event.Due.idle {event : Event} {past : History} (unloaded : event.call.unloaded? = none)
    (freed : event.call.freed? = none) (executes : event.call.executes = false) :
    event.Due past where
  unloaded algorithm found := by rw [unloaded] at found; cases found
  freed buffer found := by rw [freed] at found; cases found
  launched launch same := by rw [same] at executes; cases executes

theorem Event.Due.quiet {event : Event} {past : History} (quiet : event.quiet = true) :
    event.Due past := by
  obtain ⟨-, -, unloaded, freed, executes, -⟩ := Event.quiet_iff.mp quiet
  exact .idle unloaded freed executes

/-- A call that gives back no more than was taken before it is due. -/
theorem Event.Due.returned {event : Event} {past : History}
    (returns : event.call.returns = true) (unloads_le : unloads (event :: past) ≤ loads past)
    (frees_le : frees (event :: past) ≤ allocations past) : event.Due past where
  unloaded algorithm found := by
    have most := Multiset.count_le_of_le algorithm unloads_le
    simp only [unloads_cons, found, Option.toList_some, Multiset.coe_singleton,
      Multiset.count_add, Multiset.count_singleton_self] at most
    rw [History.algorithms, Multiset.mem_sub]
    omega
  freed buffer found := by
    have most := Multiset.count_le_of_le buffer frees_le
    simp only [frees_cons, found, Option.toList_some, Multiset.coe_singleton,
      Multiset.count_add, Multiset.count_singleton_self] at most
    rw [History.buffers, Multiset.mem_sub]
    omega
  launched launch same := by
    rw [same] at returns
    cases returns

namespace History

theorem Orderly.nil : Orderly [] := by
  intro event past suffix
  cases List.suffix_nil.mp suffix

theorem Orderly.cons {event : Event} {history : History} (orderly : Orderly history)
    (due : event.Due history) : Orderly (event :: history) := by
  intro other past suffix
  rcases List.suffix_cons_iff.mp suffix with same | earlier
  · obtain ⟨rfl, rfl⟩ := List.cons.inj same
    exact due
  · exact orderly other past earlier

theorem Orderly.of_suffix {past history : History} (orderly : Orderly history)
    (suffix : past <:+ history) : Orderly past :=
  fun event before earlier => orderly event before (earlier.trans suffix)

theorem Orderly.loading {history : History} (orderly : Orderly history) (algorithm : Instance)
    (image : Option Buffer) : Orderly (algorithm.loading image ++ history) := by
  have loaded : Orderly (⟨.load algorithm.file algorithm.rank, .ok algorithm.report⟩ ::
      history) := orderly.cons (.idle rfl rfl rfl)
  cases image with
  | none => exact loaded
  | some image => exact loaded.cons (.idle rfl rfl rfl)

/-- Nothing is given back that was not taken before. -/
theorem Orderly.returned_le {history : History} (orderly : Orderly history) :
    unloads history ≤ loads history ∧ frees history ≤ allocations history := by
  induction history with
  | nil => exact ⟨le_rfl, le_rfl⟩
  | cons event past ih =>
      obtain ⟨unloaded, freed⟩ := ih (orderly.of_suffix (List.suffix_cons event past))
      have due := orderly event past List.suffix_rfl
      rw [unloads_cons, loads_cons, frees_cons, allocations_cons]
      constructor
      · refine le_trans ?_ (Multiset.le_add_left (loads past) _)
        cases found : event.call.unloaded? with
        | none => simpa using unloaded
        | some algorithm =>
            have held := Multiset.singleton_le.mpr (due.unloaded algorithm found)
            have sum := add_le_add_left held (unloads past)
            rwa [History.algorithms, Multiset.sub_add_cancel unloaded] at sum
      · refine le_trans ?_ (Multiset.le_add_left (allocations past) _)
        cases found : event.call.freed? with
        | none => simpa using freed
        | some buffer =>
            have held := Multiset.singleton_le.mpr (due.freed buffer found)
            have sum := add_le_add_left held (frees past)
            rwa [History.buffers, Multiset.sub_add_cancel freed] at sum

/-- Giving back no more than was taken is orderly. -/
theorem Orderly.returned {history : History} (orderly : Orderly history) (events : List Event)
    (returns : ∀ event ∈ events, event.call.returns = true)
    (unloads_le : unloads (events ++ history) ≤ loads history)
    (frees_le : frees (events ++ history) ≤ allocations history) :
    Orderly (events ++ history) := by
  induction events with
  | nil => exact orderly
  | cons event others ih =>
      have rest (other : Event) (member : other ∈ others) :=
        returns other (List.mem_cons_of_mem event member)
      have adds : Adds history (others.map Event.call).reverse (others ++ history) :=
        ⟨others, rfl, rfl⟩
      have restReturns : ∀ call ∈ (others.map Event.call).reverse, call.returns = true := by
        intro call member
        obtain ⟨other, isOther, rfl⟩ := List.mem_map.mp (List.mem_reverse.mp member)
        exact rest other isOther
      have fewerUnloads : unloads (others ++ history) ≤ unloads (event :: others ++ history) := by
        rw [List.cons_append, unloads_cons]
        exact Multiset.le_add_left _ _
      have fewerFrees : frees (others ++ history) ≤ frees (event :: others ++ history) := by
        rw [List.cons_append, frees_cons]
        exact Multiset.le_add_left _ _
      refine (ih rest (fewerUnloads.trans unloads_le) (fewerFrees.trans frees_le)).cons ?_
      apply Event.Due.returned (returns event List.mem_cons_self)
      · rw [adds.loads_eq restReturns]
        exact unloads_le
      · rw [adds.allocations_eq restReturns]
        exact frees_le

end History

namespace Status

variable {status after : Status} {history later : History}

/-- A balanced history ends in a call that was due, if that gives something back. -/
theorem Balanced.due {event : Event} {past : History} (balanced : status.Balanced (event :: past))
    (returns : event.call.returns = true) : event.Due past := by
  have loads := balanced.algorithms
  have allocations := balanced.buffers
  rw [loads_cons, Event.loaded?_of_returns returns] at loads
  rw [allocations_cons, Event.allocated?_of_returns returns] at allocations
  apply Event.Due.returned returns
  · simp only [Option.toList_none, Multiset.coe_nil, Multiset.zero_add] at loads
    rw [loads]
    exact Multiset.le_add_right _ _
  · simp only [Option.toList_none, Multiset.coe_nil, Multiset.zero_add] at allocations
    rw [allocations]
    exact Multiset.le_add_right _ _

theorem Growth.orderly (grown : Growth status history after later)
    (before : status.Balanced history) (orderly : Orderly history) : Orderly later := by
  have balanced := grown.balanced before
  cases grown with
  | call quiet => exact orderly.cons (.quiet quiet)
  | choose | list | refill | reset => exact orderly
  | start | stretch => exact orderly.cons (.idle rfl rfl rfl)
  | drop => exact orderly.cons (balanced.due rfl)
  | store sound moved =>
      cases moved with
      | call quiet => exact orderly.cons (.quiet quiet)
      | undo algorithm reason answer =>
          refine Orderly.cons ?_ (balanced.due rfl)
          exact (orderly.loading algorithm none).cons (.idle rfl rfl rfl)
      | load algorithm image | assign algorithm image => exact orderly.loading algorithm image
      | connect comm fresh loaded => exact orderly.cons (.idle rfl rfl rfl)

theorem Move.orderly (moved : Move status history after later)
    (before : status.Balanced history) (orderly : Orderly history) : Orderly later := by
  cases moved with
  | growth grown => exact grown.orderly before orderly
  | @launch _ asCaller pending handle algorithm syncFlags answer ready loaded flags =>
      refine orderly.cons ⟨by simp [Call.unloaded?], by simp [Call.freed?], ?_⟩
      intro launch same
      obtain rfl := Call.launch.inj same
      rw [before.held_algorithms, before.held_buffers]
      refine ⟨Table.mem_values_of_get? loaded, ?_⟩
      intro buffer member
      simp only [Launch.buffers, launchOf, List.mem_append, Option.mem_toList,
        List.mem_singleton] at member
      simp only [buffers, Multiset.mem_add, Multiset.mem_coe, Option.mem_toList]
      rcases member with (image | scratch) | rfl
      · exact .inl (.inl (Table.mem_values_of_get? image))
      · exact .inl (.inr scratch)
      · exact .inr flags
  | plain => exact orderly.cons ⟨by simp [Call.unloaded?], by simp [Call.freed?], by simp⟩

theorem Released.orderly (released : Released status history after later)
    (before : status.Balanced history) (orderly : Orderly history) : Orderly later := by
  have balanced := released.balanced before
  obtain ⟨loaded, images, loadedPerm, imagesPerm, rfl, adds⟩ := released
  have returns := status.returning_returns loaded images
  have unloads_le : unloads later ≤ loads history := by
    rw [← adds.loads_eq returns, balanced.algorithms]
    exact Multiset.le_add_right _ _
  have frees_le : frees later ≤ allocations history := by
    rw [← adds.allocations_eq returns, balanced.buffers]
    exact Multiset.le_add_right _ _
  obtain ⟨events, rfl, given⟩ := adds.exists_events returns
  exact orderly.returned events given unloads_le frees_le

/-- The books are in order. -/
structure Accounted (status : Status) (history : History) : Prop where
  balanced : status.Balanced history
  orderly : Orderly history

theorem Effect.accounted (effect : Effect Move status history after later)
    (before : status.Accounted history) : after.Accounted later := by
  have moving {after : Status} {later : History} (along : Along Move status history after later) :
      after.Accounted later := by
    apply along.keeps Accounted
    · rintro status history after later moved ⟨balanced, orderly⟩
      exact ⟨moved.balanced balanced, moved.orderly balanced orderly⟩
    · exact before
  cases effect with
  | grown grown => exact moving grown.along
  | released along released =>
      obtain ⟨balanced, orderly⟩ := moving along
      exact ⟨released.balanced balanced, released.orderly balanced orderly⟩

end Status

namespace Run

theorem accounted (run : Run) (number : Nat) :
    (run.status number).Accounted (run.history number) := by
  induction number with
  | zero => exact ⟨⟨rfl, rfl⟩, .nil⟩
  | succ number ih =>
      cases taken : run.turns[number]? with
      | none =>
          rw [status_past_end taken, history_past_end taken]
          exact ih
      | some turn => exact (turned taken).effect.accounted ih

/-- At every moment of every run, whatever fails: nothing was given back more often than
it was taken, what was not yet given back is what the status holds, which is nothing
unless launches are possible, and nothing was given back or launched that was not
held. -/
theorem resources_accounted (run : Run) (number : Nat) :
    (∀ past, past <:+ run.history number →
      unloads past ≤ loads past ∧ frees past ≤ allocations past) ∧
    ((loads (run.history number)).Nodup → (unloads (run.history number)).Nodup) ∧
    History.algorithms (run.history number) = (run.status number).algorithms ∧
    History.buffers (run.history number) = (run.status number).buffers ∧
    ((run.status number).ready = false →
      History.algorithms (run.history number) = 0 ∧ History.buffers (run.history number) = 0) ∧
    ∀ event past, event :: past <:+ run.history number → event.Due past := by
  obtain ⟨balanced, orderly⟩ := run.accounted number
  refine ⟨?_, ?_, balanced.held_algorithms, balanced.held_buffers, ?_, orderly⟩
  · intro past suffix
    exact (orderly.of_suffix suffix).returned_le
  · intro distinct
    exact Multiset.nodup_of_le orderly.returned_le.1 distinct
  · intro closed
    have dormant := (run.settled number).2 closed
    rw [balanced.held_algorithms, balanced.held_buffers]
    exact ⟨dormant.algorithms, dormant.buffers⟩

end Run

end Collective
