import Collective.Proofs.Rejoin
import Collective.Proofs.Store.Slots

/-!
# Slots in runs

Whatever was loaded and unloaded before, a period begins with every slot free, and what it
loads goes into the slots in ascending order.  So what a slot holds can be told from the
loads of the period, and so can the slot that the next load gets.
-/

namespace Collective

open Procedure History

namespace Status

variable {status after : Status} {history later : History}

/-- Since a moment the slots were filled with what was loaded, in order, every recorded entry
got a slot of its own, and every connection that was made was recorded. -/
structure Arranged (start : History) (status : Status) (now : History) : Prop where
  contents : ∃ gained, Gains start gained now ∧ status.store.contents = gained.reverse
  distinct : status.store.Distinct
  linked : ∃ events, now = events ++ start ∧ status.store.Linked (connections events)

variable {start : History}

/-- A call that has nothing to do with the slots. -/
theorem Arranged.called (before : Arranged start status history) {event : Event}
    (loaded : event.loaded? = none) (unloaded : event.call.unloaded? = none)
    (connected : event.connection? = none) (same : after.store = status.store) :
    Arranged start after (event :: history) where
  contents := by
    obtain ⟨gained, gains, contents⟩ := before.contents
    rw [same]
    exact ⟨gained, gains.trans (.other loaded unloaded history), contents⟩
  distinct := by
    rw [same]
    exact before.distinct
  linked := by
    obtain ⟨events, rfl, linked⟩ := before.linked
    refine ⟨event :: events, rfl, ?_⟩
    rw [connections, List.filterMap_cons_none connected, same]
    exact linked

theorem Arranged.stored {store : Store} (before : Arranged start status history)
    (sound : status.store.Sound status.catalog.algorithms)
    (grown : Store.Growth status.catalog.algorithms status.store history store later) :
    Arranged start { status with store } later where
  contents := by
    obtain ⟨gained, gains, contents⟩ := before.contents
    obtain ⟨more, gainsMore, grownContents⟩ := grown.gains sound
    refine ⟨more ++ gained, gains.trans gainsMore, ?_⟩
    rw [List.reverse_append, ← contents]
    exact grownContents
  distinct := grown.distinct sound before.distinct
  linked := by
    obtain ⟨events, rfl, linked⟩ := before.linked
    obtain ⟨more, rfl, kept⟩ := grown.linked sound
    refine ⟨more ++ events, by simp, ?_⟩
    rw [connections_append]
    exact kept _ linked

theorem Move.arranged (moved : Move status history after later)
    (before : Arranged start status history) : Arranged start after later := by
  cases moved with
  | growth grown =>
      cases grown with
      | call quiet =>
          obtain ⟨loaded, _, unloaded, _⟩ := Event.quiet_iff.mp quiet
          exact before.called loaded unloaded (Event.connection?_of_quiet quiet) rfl
      | choose | list | reset => exact ⟨before.contents, before.distinct, before.linked⟩
      | refill =>
          obtain ⟨events, added, linked⟩ := before.linked
          exact ⟨before.contents, before.distinct, events, added, linked.recorded, linked.once⟩
      | start | drop | stretch => exact before.called rfl rfl rfl rfl
      | store sound stored => exact before.stored sound stored
  | launch answer => cases answer <;> exact before.called rfl rfl rfl rfl
  | plain => exact before.called rfl rfl rfl rfl

theorem Dormant.arranged (dormant : status.Dormant) (start : History) :
    Arranged start status start where
  contents := by
    refine ⟨[], .none start, ?_⟩
    rw [Store.contents, dormant.store.loaded]
    rfl
  distinct := by
    intro index other rank place handle found
    rw [Store.handle?, dormant.store.assigned] at found
    cases found
  linked := by
    refine ⟨[], rfl, ?_, ?_⟩ <;> rw [dormant.store.connected]
    · exact .nil
    · exact List.nodup_nil

end Status

namespace Run

variable {run : Run} {first number : Nat}

/-- What was gained between two scenes stays of the calls in between. -/
theorem kept_between {gained : List Instance}
    (gains : Gains (run.history first) gained (run.history number)) :
    kept (run.between first number) = gained := by
  obtain ⟨events, added, kept⟩ := gains
  have all := kept []
  rw [between_of_append added]
  simpa [History.kept] using all

/-- A period fills the slots with what it loads, and records its connections. -/
theorem Period.arranged (period : run.Period first number) :
    Status.Arranged (run.history first) (run.status number) (run.history number) :=
  period.moved.keeps (Status.Arranged (run.history first)) Status.Move.arranged
    (period.dormant.arranged (run.history first))

theorem Period.contents (period : run.Period first number) :
    (run.status number).store.contents = (kept (run.between first number)).reverse := by
  obtain ⟨gained, gains, contents⟩ := period.arranged.contents
  rw [contents, kept_between gains]

theorem Period.linked (period : run.Period first number) :
    (run.status number).store.Linked (connections (run.between first number)) := by
  obtain ⟨events, added, linked⟩ := period.arranged.linked
  rwa [between_of_append added]

/-- The store after a command that may be carried out next. -/
def storeAfter (run : Run) (number : Nat) (turn : Turn) : Store :=
  (run.outcome (run.scene number) turn).state.status.store

/-- A load gets the next slot.  Where it fails nothing is loaded, and it fails for want of a
slot exactly if every slot is in use. -/
theorem load_outcome (ready : (run.status number).ready = true) (thread : ThreadId)
    (file : Path) (rank : UInt64) :
    ((run.outcome (run.scene number) ⟨thread, .load file rank⟩).result =
        .error .slotsExhausted ↔ (run.status number).store.loaded.size = Handle.slots) ∧
    (∀ reply, (run.outcome (run.scene number) ⟨thread, .load file rank⟩).result = .ok reply →
      reply = .handle (.ofNat (run.status number).store.loaded.size) ∧
      ∃ algorithm, algorithm.file = file ∧ algorithm.rank = rank ∧
        (run.storeAfter number ⟨thread, .load file rank⟩).loaded.entries =
          (run.status number).store.loaded.entries ++
            [(.ofNat (run.status number).store.loaded.size, algorithm)]) ∧
    ∀ error, (run.outcome (run.scene number) ⟨thread, .load file rank⟩).result = .error error →
      (run.storeAfter number ⟨thread, .load file rank⟩).loaded =
        (run.status number).store.loaded := by
  have sound := (run.settled number).1.sound ready
  have ensured : (Machine.perform run.config thread (.load file rank)).Ensures run.env
      (run.scene number).machine (run.history number)
      (fun reply after _ => (run.status number).store.free ≠ [] ∧
        reply = .handle (.ofNat (run.status number).store.loaded.size) ∧
        ∃ algorithm, algorithm.file = file ∧ algorithm.rank = rank ∧
          after.status.store.loaded.entries = (run.status number).store.loaded.entries ++
            [(.ofNat (run.status number).store.loaded.size, algorithm)])
      (fun error after _ => (error = .slotsExhausted ↔ (run.status number).store.free = []) ∧
        after.status.store.loaded = (run.status number).store.loaded) := by
    have open_ : (run.scene number).machine.status.ready = true := ready
    simp only [Machine.perform, Machine.onStatus, Status.load, Status.onStore, ensures_bind,
      ensures_within, ensures_pure, ensures_get, open_, Bool.not_true, Bool.false_eq_true, if_false]
    apply ((Store.ensures_load (run.status number).catalog.algorithms file rank).and
      (Store.ensures_load_fails file rank)).mono
    · rintro handle _ _ ⟨⟨others, algorithm, image, next, here, same, rfl, -⟩, available⟩
      have place := sound.next_eq next
      subst place
      refine ⟨available, rfl, algorithm, here, same, ?_⟩
      exact Table.entries_insert_of_absent (sound.free_empty next)
    · rintro error _ _ ⟨⟨rfl, -⟩, wanting, -⟩
      exact ⟨wanting, rfl⟩
  rw [← sound.exhausted_iff]
  refine ⟨⟨?_, ?_⟩, ?_, ?_⟩
  · exact fun failed => (ensured.failure failed).1.mp rfl
  · intro exhausted
    cases result : (run.outcome (run.scene number) ⟨thread, .load file rank⟩).result with
    | ok reply => exact absurd exhausted (ensured.result result).1
    | error error => rw [(ensured.failure result).1.mpr exhausted]
  · exact fun reply replied => (ensured.result replied).2
  · exact fun error failed => (ensured.failure failed).2

/-- A communicator that joins while all is up is refused for want of a slot exactly if the
catalog decides, every slot is in use in the end, and the first entry that is not served is
one that has no slot for its rank. -/
theorem join_exhausted (ready : (run.status number).ready = true) (thread : ThreadId)
    (comm : Communicator) :
    (run.outcome (run.scene number) ⟨thread, .join comm⟩).result = .error .slotsExhausted ↔
      Machine.fit run.config comm = true ∧ (run.status number).isExternal = false ∧
      (run.storeAfter number ⟨thread, .join comm⟩).loaded.size = Handle.slots ∧
      ∃ entry, (run.storeAfter number ⟨thread, .join comm⟩).StopsAt comm 0
          (run.status number).catalog.algorithms entry ∧
        (run.storeAfter number ⟨thread, .join comm⟩).handle? entry comm.rank = none := by
  have coherent := (run.settled number).1
  have sound := coherent.sound ready
  have listed := Store.Listed.all (run.status number).catalog.algorithms
  have ensured : (Machine.perform run.config thread (.join comm)).Ensures run.env
      (run.scene number).machine (run.history number)
      (fun _ after _ => Machine.fit run.config comm = true →
        (run.status number).isExternal = false →
        after.status.store.ServesFrom comm 0 (run.status number).catalog.algorithms)
      (fun error after _ => Machine.fit run.config comm = true ∧
        (run.status number).isExternal = false ∧
        after.status.store.Sound (run.status number).catalog.algorithms ∧
        ∃ entry, after.status.store.StopsAt comm 0 (run.status number).catalog.algorithms entry ∧
          (error = .slotsExhausted ↔
            after.status.store.handle? (0 + entry) comm.rank = none ∧
              after.status.store.free = [])) := by
    simp only [Machine.perform, ensures_bind, ensures_pure]
    rw [Machine.ensures_joinUp run.config comm coherent ready]
    dsimp only
    split
    next fits =>
      split
      next foreign =>
        intro _ internal
        exact absurd (foreign.symm.trans internal) (by simp)
      next internal =>
        have decides := Bool.eq_false_iff.mpr internal
        apply ((Store.ensures_prepareFrom comm 0 _ listed sound).and
          (Store.ensures_prepareFrom_fails comm 0 _ listed sound)).mono
        · exact fun _ _ _ prepared _ _ => prepared.1.2
        · exact fun _ _ _ failed =>
            ⟨fits, decides, (Store.growing_sound failed.1 sound).1, failed.2⟩
    next unfit => exact fun fits => absurd fits unfit
  constructor
  · intro failed
    obtain ⟨fits, internal, reached, entry, stops, reason⟩ := ensured.failure failed
    obtain ⟨unrecorded, exhausted⟩ := reason.mp rfl
    rw [Nat.zero_add] at unrecorded
    exact ⟨fits, internal, reached.exhausted_iff.mp exhausted, entry, stops, unrecorded⟩
  · rintro ⟨fits, internal, full, entry, stops, unrecorded⟩
    cases result : (run.outcome (run.scene number) ⟨thread, .join comm⟩).result with
    | ok reply => exact absurd (ensured.result result fits internal) stops.not_serves
    | error error =>
        obtain ⟨_, _, reached, stop, again, reason⟩ := ensured.failure result
        obtain rfl := stops.unique again
        rw [Nat.zero_add] at reason
        rw [reason.mpr ⟨unrecorded, reached.exhausted_iff.mpr full⟩]

/-- While all is up the slots in use are the first ones and the free ones are the others, all
that is recorded is of slots in use, and no slot is shared.  Whatever was released before, in
whatever order, the first slots hold what the period has loaded, in order; the next load, of
whatever thread, gets the next slot, and for want of one it fails exactly if every slot is in
use.  So does a communicator that joins, where it comes to an entry that has to be loaded. -/
theorem slots_in_order (ready : (run.status number).ready = true) :
    (run.status number).store.Tidy (run.status number).catalog.algorithms ∧
    (∃ first, run.Period first number) ∧
    (∀ first, run.Period first number → (run.status number).store.loaded.entries =
      Handle.all.zip (kept (run.between first number)).reverse) ∧
    (∀ thread file rank,
      ((run.outcome (run.scene number) ⟨thread, .load file rank⟩).result =
        .error .slotsExhausted ↔ (run.status number).store.loaded.size = Handle.slots) ∧
      (∀ reply, (run.outcome (run.scene number) ⟨thread, .load file rank⟩).result = .ok reply →
        reply = .handle (.ofNat (run.status number).store.loaded.size) ∧
        ∃ algorithm, algorithm.file = file ∧ algorithm.rank = rank ∧
          (run.storeAfter number ⟨thread, .load file rank⟩).loaded.entries =
            (run.status number).store.loaded.entries ++
              [(.ofNat (run.status number).store.loaded.size, algorithm)]) ∧
      ∀ error, (run.outcome (run.scene number) ⟨thread, .load file rank⟩).result = .error error →
        (run.storeAfter number ⟨thread, .load file rank⟩).loaded =
          (run.status number).store.loaded) ∧
    ∀ thread comm,
      (run.outcome (run.scene number) ⟨thread, .join comm⟩).result = .error .slotsExhausted ↔
        Machine.fit run.config comm = true ∧ (run.status number).isExternal = false ∧
        (run.storeAfter number ⟨thread, .join comm⟩).loaded.size = Handle.slots ∧
        ∃ entry, (run.storeAfter number ⟨thread, .join comm⟩).StopsAt comm 0
            (run.status number).catalog.algorithms entry ∧
          (run.storeAfter number ⟨thread, .join comm⟩).handle? entry comm.rank = none := by
  have sound := (run.settled number).1.sound ready
  have raised := exists_period ready
  have distinct : (run.status number).store.Distinct := by
    obtain ⟨first, period⟩ := raised
    exact period.arranged.distinct
  refine ⟨sound.tidy distinct, raised, ?_, load_outcome ready, join_exhausted ready⟩
  intro first period
  rw [sound.entries_eq, period.contents]

end Run

namespace Sample

/-- A communicator joins, two algorithms are loaded, somebody shuts down, and after another
join one is loaded again. -/
def reloaded : Run := run .allReduce [⟨0, .join (comm 1 0)⟩, ⟨0, .load ⟨[1]⟩ 0⟩,
  ⟨1, .load ⟨[2]⟩ 0⟩, ⟨0, .shutDown⟩, ⟨0, .join (comm 1 0)⟩, ⟨1, .load ⟨[2]⟩ 1⟩]

/-- The slots are handed out from the first one again, though they were given back in
another order. -/
theorem reloaded_in_order :
    (reloaded.status 4).store.free.take 3 = [⟨2⟩, ⟨1⟩, ⟨0⟩] ∧
    (reloaded.status 6).store.loaded.keys = [⟨0⟩, ⟨1⟩] ∧
    (reloaded.status 6).store.loaded.entries =
      Handle.all.zip (kept (reloaded.between 4 6)).reverse := by
  have ready : (reloaded.status 6).ready = true := by decide +kernel
  have steady : reloaded.Steady 5 6 := by
    intro number turn above below taken
    obtain rfl : number = 5 := by omega
    cases taken
    decide
  have period : reloaded.Period 4 6 :=
    ⟨by decide +kernel, by decide +kernel, steady, by decide⟩
  obtain ⟨tidy, _, ordered, _⟩ := Run.slots_in_order ready
  refine ⟨by decide +kernel, ?_, ordered 4 period⟩
  rw [tidy.used]
  decide +kernel

end Sample

end Collective
