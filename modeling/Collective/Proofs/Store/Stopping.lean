import Collective.Proofs.Store.Slots

/-!
# Where a preparation stops

A preparation that fails has served the entries before the one at which it fails and has not
come to those behind it.  The entry itself has no slot, and then all is as it was before it, or
it has one that is not connected.
-/

namespace Collective.Store

open Procedure History

variable {algorithms : List Metadata} {env : Environment} {comm : Communicator}
variable {store middle after : Store} {history past later : History}
variable {index first : Nat}

/-! ## What is untouched -/

/-- From a position on no entry has gained a slot, and the slots of those entries hold what they
held and are connected on what they were. -/
structure Spares (store : Store) (first : Nat) (after : Store) : Prop where
  recorded : ∀ {index rank}, first ≤ index → after.handle? index rank = store.handle? index rank
  loaded : ∀ {index rank handle}, first ≤ index → store.handle? index rank = some handle →
    after.loaded.get? handle = store.loaded.get? handle
  linked : ∀ {index rank handle}, first ≤ index → store.handle? index rank = some handle →
    ∀ id, after.isConnected id handle = store.isConnected id handle

namespace Spares

theorem refl (store : Store) (first : Nat) : store.Spares first store :=
  ⟨fun _ => rfl, fun _ _ => rfl, fun _ _ _ => rfl⟩

theorem trans (before : store.Spares first middle) (behind : middle.Spares first after) :
    store.Spares first after where
  recorded above := (behind.recorded above).trans (before.recorded above)
  loaded above found := by
    have still := (before.recorded above).trans found
    exact (behind.loaded above still).trans (before.loaded above found)
  linked above found id := by
    have still := (before.recorded above).trans found
    exact (behind.linked above still id).trans (before.linked above found id)

theorem mono {other : Nat} (spares : store.Spares first after) (further : first ≤ other) :
    store.Spares other after where
  recorded above := spares.recorded (further.trans above)
  loaded above := spares.loaded (further.trans above)
  linked above := spares.linked (further.trans above)

end Spares

/-- A sound store where every recorded entry has a slot of its own. -/
structure Orderly (algorithms : List Metadata) (store : Store) : Prop where
  sound : store.Sound algorithms
  distinct : store.Distinct

theorem growing_orderly (grown : Along (Growth algorithms) store history after later)
    (orderly : store.Orderly algorithms) : after.Orderly algorithms := by
  apply grown.keeps fun reached _ => reached.Orderly algorithms
  · intro middle past next now moved before
    exact ⟨moved.sound before.sound, moved.distinct before.sound before.distinct⟩
  · exact orderly

theorem ensures_assign_spares (metadata : Metadata) (rank : UInt64)
    (sound : store.Sound algorithms) :
    (assign index metadata rank).Ensures env store history
      (fun _ after _ => store.Spares (index + 1) after) (fun _ _ _ => True) := by
  unfold assign
  rw [ensures_bind, ensures_get]
  cases store.handle? index rank with
  | some handle => exact .refl store (index + 1)
  | none =>
      simp only [ensures_bind, ensures_modify, ensures_pure]
      apply (ensures_load algorithms metadata.file rank).weaken
      rintro handle _ _ ⟨others, algorithm, image, next, -, -, rfl, -⟩
      have extended := sound.occupy_extends next algorithm image
      constructor
      · intro other place above
        have apart : ¬ (other = index ∧ place = rank) := fun same =>
          Nat.not_succ_le_self index (same.1 ▸ above)
        exact handle?_record.trans (if_neg apart)
      · intro other place slot above found
        obtain ⟨_, held, _, loaded, _⟩ := sound.recorded found
        rw [loaded]
        exact extended.loaded loaded
      · exact fun above found id => rfl

theorem ensures_connect_spares {handle : Handle} (orderly : store.Orderly algorithms)
    (recorded : store.handle? index comm.rank = some handle) :
    (connect handle comm).Ensures env store history
      (fun _ after _ => store.Spares (index + 1) after) (fun _ _ _ => True) := by
  unfold connect
  simp only [ensures_bind, ensures_get, ensures_ite, ensures_pure]
  split
  next => exact .refl store (index + 1)
  next =>
    cases store.loaded.get? handle with
    | none => trivial
    | some algorithm =>
        simp only [ensures_bind, ensures_ask, ensures_accepted, ensures_modify]
        cases env.answer history (.connect algorithm comm) with
        | error => trivial
        | ok =>
            refine ⟨fun _ => rfl, fun _ _ => rfl, fun {other place slot} above found id => ?_⟩
            -- The slot that is connected is another entry's.
            have apart : slot ≠ handle := by
              rintro rfl
              have same := (orderly.distinct recorded found).1
              omega
            show ((comm.id, handle) :: store.connected).contains (id, slot) =
              store.connected.contains (id, slot)
            simp [apart]

/-- A preparation does not touch what is behind its entries. -/
theorem ensures_prepareFrom_spares (comm : Communicator) (index : Nat) (entries : List Metadata)
    (listed : Listed algorithms index entries) (orderly : store.Orderly algorithms) :
    (prepareFrom comm index entries).Ensures env store history
      (fun _ after _ => store.Spares (index + entries.length) after) (fun _ _ _ => True) := by
  induction entries generalizing index store history with
  | nil => exact .refl store index
  | cons entry others ih =>
      have length : index + 1 + others.length = index + (entry :: others).length := by
        rw [List.length_cons]
        omega
      have further : index + 1 ≤ index + (entry :: others).length := by
        rw [List.length_cons]
        omega
      unfold prepareFrom
      simp only [ensures_bind, ensures_ite]
      split
      next sized =>
        apply ((ensures_assign comm.rank listed.head).and
          (ensures_assign_spares entry comm.rank orderly.sound)).weaken
        rintro handle reached _ ⟨⟨assigned, recorded⟩, assignSpares⟩
        have assignedOrderly := growing_orderly assigned orderly
        apply ((ensures_connect algorithms handle comm).and
          (ensures_connect_spares assignedOrderly recorded)).weaken
        rintro _ linked _ ⟨⟨connected, -⟩, connectSpares⟩
        apply (ih (index + 1) listed.tail (growing_orderly connected assignedOrderly)).weaken
        intro _ _ _ restSpares
        rw [length] at restSpares
        exact ((assignSpares.trans connectSpares).mono further).trans restSpares
      next =>
        apply (ih (index + 1) listed.tail orderly).weaken
        intro _ _ _ restSpares
        rwa [length] at restSpares

/-! ## Where it fails -/

section Steps

variable {entry : Metadata} {others : List Metadata}

/-- A preparation goes on behind an entry that was assigned and connected. -/
theorem run_prepareFrom_sized {linked : Store} {now : History} {handle : Handle}
    (sized : entry.numRanks = comm.numRanks)
    (assigned : (assign index entry comm.rank).run env store history = ⟨.ok handle, middle, past⟩)
    (connected : (connect handle comm).run env middle past = ⟨.ok (), linked, now⟩) :
    (prepareFrom comm index (entry :: others)).run env store history =
      (prepareFrom comm (index + 1) others).run env linked now := by
  rw [prepareFrom, if_pos sized, run_bind, assigned]
  dsimp only
  rw [run_bind, connected]

theorem run_prepareFrom_unsized (unsized : entry.numRanks ≠ comm.numRanks) :
    (prepareFrom comm index (entry :: others)).run env store history =
      (prepareFrom comm (index + 1) others).run env store history := by
  rw [prepareFrom, if_neg unsized]

end Steps

/-- A preparation has failed at the entry at an offset.  The entries before it were prepared, and
it has no slot, or it has been assigned one that is not connected. -/
inductive Halted (env : Environment) (comm : Communicator) (index : Nat)
    (entries : List Metadata) (store : Store) (history : History) (stop : Nat) : Store → Prop where
  | unloaded {entry : Metadata} {middle : Store} {past : History} :
      entries[stop]? = some entry → entry.numRanks = comm.numRanks →
      (prepareFrom comm index (entries.take stop)).run env store history =
        ⟨.ok (), middle, past⟩ →
      middle.handle? (index + stop) comm.rank = none →
      Halted env comm index entries store history stop middle
  | unlinked {entry : Metadata} {middle after : Store} {past later : History} {handle : Handle} :
      entries[stop]? = some entry → entry.numRanks = comm.numRanks →
      (prepareFrom comm index (entries.take stop)).run env store history =
        ⟨.ok (), middle, past⟩ →
      (assign (index + stop) entry comm.rank).run env middle past = ⟨.ok handle, after, later⟩ →
      after.isConnected comm.id handle = false →
      Halted env comm index entries store history stop after

namespace Halted

variable {entry : Metadata} {others : List Metadata} {stop : Nat}

/-- What fails behind an entry that has been prepared fails one further on. -/
theorem beyond (halted : Halted env comm (index + 1) others middle past stop after)
    (first : ∀ entries, (prepareFrom comm index (entry :: entries)).run env store history =
      (prepareFrom comm (index + 1) entries).run env middle past) :
    Halted env comm index (entry :: others) store history (stop + 1) after := by
  cases halted with
  | unloaded found sized before unrecorded =>
      rw [Nat.add_right_comm] at unrecorded
      exact .unloaded found sized ((first _).trans before) unrecorded
  | unlinked found sized before assigned unconnected =>
      rw [Nat.add_right_comm] at assigned
      exact .unlinked found sized ((first _).trans before) assigned unconnected

end Halted

/-- A preparation that fails does so at one of its entries. -/
theorem ensures_prepareFrom_halts (comm : Communicator) (index : Nat) (entries : List Metadata) :
    (prepareFrom comm index entries).Ensures env store history (fun _ _ _ => True)
      (fun _ after _ => ∃ stop, Halted env comm index entries store history stop after) := by
  induction entries generalizing index store history with
  | nil => trivial
  | cons entry others ih =>
      unfold prepareFrom
      simp only [ensures_bind, ensures_ite]
      split
      next sized =>
        apply ((ensures_run (assign index entry comm.rank)).and
          (ensures_assign_fails index entry comm.rank)).mono
        · rintro handle middle past ⟨assigned, -⟩
          apply ((ensures_run (connect handle comm)).and (ensures_connect_gains handle comm)).mono
          · rintro _ linked now ⟨connected, -⟩
            apply (ih (index + 1)).mono (fun _ _ _ _ => trivial)
            rintro _ after _ ⟨stop, halted⟩
            exact ⟨stop + 1, halted.beyond fun _ => run_prepareFrom_sized sized assigned connected⟩
          · rintro _ after _ ⟨-, rfl, -, unconnected, -⟩
            exact ⟨0, .unlinked rfl sized rfl assigned unconnected⟩
        · rintro _ after _ ⟨-, rfl, unrecorded, -⟩
          exact ⟨0, .unloaded rfl sized rfl unrecorded⟩
      next unsized =>
        apply (ih (index + 1)).mono (fun _ _ _ _ => trivial)
        rintro _ after _ ⟨stop, halted⟩
        exact ⟨stop + 1, halted.beyond fun _ => run_prepareFrom_unsized unsized⟩

/-! ## What it leaves -/

/-- An entry of the catalog has a slot for the rank of a communicator, which holds what was loaded
from its file for that rank and is connected for the communicator. -/
def Provides (store : Store) (comm : Communicator) (index : Nat) (entry : Metadata) : Prop :=
  ∃ handle algorithm, store.handle? index comm.rank = some handle ∧
    store.loaded.get? handle = some algorithm ∧ algorithm.file = entry.file ∧
    algorithm.rank = comm.rank ∧ store.isConnected comm.id handle = true

/-- All that was loaded, with the images, recorded and connected is so still. -/
structure Retains (before after : Store) : Prop extends before.Extends after where
  images : ∀ {handle image}, before.images.get? handle = some image →
    after.images.get? handle = some image

/-- A preparation was interrupted at an entry.  Those before it are provided for and those behind
it are untouched.  The entry has no slot, and then all is as it was when those before it had been
prepared, or it has a slot with what was loaded for it, which is not connected. -/
structure Interrupted (env : Environment) (catalog : Catalog) (comm : Communicator)
    (store : Store) (history : History) (after : Store) (stop : Nat) (entry : Metadata) :
    Prop where
  listed : catalog.get? stop = some entry
  sized : entry.numRanks = comm.numRanks
  retained : store.Retains after
  before : ∀ index other, index < stop → catalog.get? index = some other →
    other.numRanks = comm.numRanks → after.Provides comm index other
  beyond : store.Spares (stop + 1) after
  here : (after.handle? stop comm.rank = none ∧
      ∃ past, (prepareFrom comm 0 (catalog.algorithms.take stop)).run env store history =
        ⟨.ok (), after, past⟩) ∨
    ∃ handle algorithm, after.handle? stop comm.rank = some handle ∧
      after.loaded.get? handle = some algorithm ∧ algorithm.file = entry.file ∧
      algorithm.rank = comm.rank ∧ after.isConnected comm.id handle = false

/-- What a sound store has recorded for an entry it has loaded for it. -/
theorem Sound.loaded_of_recorded {entry : Metadata} {rank : UInt64} {handle : Handle}
    (sound : store.Sound algorithms) (listed : algorithms[index]? = some entry)
    (recorded : store.handle? index rank = some handle) :
    ∃ algorithm, store.loaded.get? handle = some algorithm ∧ algorithm.file = entry.file ∧
      algorithm.rank = rank := by
  obtain ⟨other, algorithm, again, loaded, file, same⟩ := sound.recorded recorded
  rw [listed] at again
  cases again
  exact ⟨algorithm, loaded, file, same⟩

theorem ServesEntry.provides {entry : Metadata} (serves : store.ServesEntry comm index)
    (sound : store.Sound algorithms) (listed : algorithms[index]? = some entry) :
    store.Provides comm index entry := by
  obtain ⟨handle, recorded, linked⟩ := serves
  obtain ⟨algorithm, loaded, file, rank⟩ := sound.loaded_of_recorded listed recorded
  exact ⟨handle, algorithm, recorded, loaded, file, rank, linked⟩

/-- A move keeps every image, since it keeps another one only where there is none. -/
theorem Growth.images_kept (grown : Growth algorithms store history after later)
    (sound : store.Sound algorithms) {handle : Handle} {image : Buffer}
    (held : store.images.get? handle = some image) : after.images.get? handle = some image := by
  cases grown with
  | call | undo | connect => exact held
  | load algorithm allocated next | assign algorithm allocated next =>
      cases allocated with
      | none => exact held
      | some => exact Table.get?_insert_of_some (sound.free_imageless next) held

theorem growing_retains (grown : Along (Growth algorithms) store history after later)
    (sound : store.Sound algorithms) : store.Retains after := by
  have kept : after.Sound algorithms ∧ ∀ {handle image},
      store.images.get? handle = some image → after.images.get? handle = some image := by
    apply grown.keeps fun reached _ => reached.Sound algorithms ∧ ∀ {handle image},
      store.images.get? handle = some image → reached.images.get? handle = some image
    · intro middle past next now moved before
      exact ⟨moved.sound before.1, fun held => moved.images_kept before.1 (before.2 held)⟩
    · exact ⟨sound, id⟩
  exact { (growing_sound grown sound).2 with images := kept.2 }

theorem ServesFrom.mono {entries : List Metadata} (serves : store.ServesFrom comm index entries)
    (extended : store.Extends after) : after.ServesFrom comm index entries := by
  intro offset metadata found sized
  have served : store.ServesEntry comm (index + offset) := serves offset metadata found sized
  exact served.mono extended

/-- The entries that a preparation has come to before it stops are served. -/
theorem ServesFrom.before {stop : Nat} {entry : Metadata}
    (serves : store.ServesFrom comm 0 (algorithms.take stop)) (before : index < stop)
    (listed : algorithms[index]? = some entry) (sized : entry.numRanks = comm.numRanks) :
    store.ServesEntry comm index := by
  have within : (algorithms.take stop)[index]? = some entry := by
    rw [List.getElem?_take, if_pos before]
    exact listed
  have served := serves index entry within sized
  rwa [Nat.zero_add] at served

/-- A preparation of the entries before a position serves them and does not touch those
behind. -/
theorem prepared_before {catalog : Catalog} {stop : Nat}
    (orderly : store.Orderly catalog.algorithms)
    (prepared : (prepareFrom comm 0 (catalog.algorithms.take stop)).run env store history =
      ⟨.ok (), middle, past⟩) :
    middle.Orderly catalog.algorithms ∧ store.Spares stop middle ∧
      middle.ServesFrom comm 0 (catalog.algorithms.take stop) := by
  have listed := (Listed.all catalog.algorithms).take stop
  obtain ⟨grown, serves⟩ := (ensures_prepareFrom comm 0 _ listed orderly.sound).ended prepared
  have spares := (ensures_prepareFrom_spares comm 0 _ listed orderly).ended prepared
  refine ⟨growing_orderly grown orderly, spares.mono ?_, serves⟩
  rw [Nat.zero_add]
  exact List.length_take_le _ _

theorem Halted.interrupted {catalog : Catalog} {stop : Nat}
    (orderly : store.Orderly catalog.algorithms) (retained : store.Retains after)
    (halted : Halted env comm 0 catalog.algorithms store history stop after) :
    ∃ entry, Interrupted env catalog comm store history after stop entry := by
  cases halted with
  | @unloaded entry _ past found sized prepared unrecorded =>
      obtain ⟨reached, spares, serves⟩ := prepared_before orderly prepared
      rw [Nat.zero_add] at unrecorded
      refine ⟨entry, found, sized, retained, ?_, spares.mono (Nat.le_succ stop),
        .inl ⟨unrecorded, past, prepared⟩⟩
      intro index other before listed fits
      exact (serves.before before listed fits).provides reached.sound listed
  | @unlinked entry middle _ past later handle found sized prepared assigned unconnected =>
      obtain ⟨reached, spares, serves⟩ := prepared_before orderly prepared
      rw [Nat.zero_add] at assigned
      obtain ⟨grown, recorded⟩ := (ensures_assign comm.rank found).ended assigned
      have beyond := (ensures_assign_spares entry comm.rank reached.sound).ended assigned
      have orderlyAfter := growing_orderly grown reached
      have extended := (growing_sound grown reached.sound).2
      obtain ⟨algorithm, loaded, file, rank⟩ :=
        orderlyAfter.sound.loaded_of_recorded found recorded
      refine ⟨entry, found, sized, retained, ?_, (spares.mono (Nat.le_succ stop)).trans beyond,
        .inr ⟨handle, algorithm, recorded, loaded, file, rank, unconnected⟩⟩
      intro index other before listed fits
      exact ((serves.mono extended).before before listed fits).provides orderlyAfter.sound listed

/-- A preparation retains what was there.  It provides for every entry with the number of ranks
of the communicator, or it is interrupted at one. -/
theorem ensures_prepare_provides {catalog : Catalog} (comm : Communicator)
    (orderly : store.Orderly catalog.algorithms) :
    (prepare catalog comm).Ensures env store history
      (fun _ after _ => store.Retains after ∧ ∀ index entry, catalog.get? index = some entry →
        entry.numRanks = comm.numRanks → after.Provides comm index entry)
      (fun _ after _ => ∃ stop entry,
        Interrupted env catalog comm store history after stop entry) := by
  apply ((ensures_prepare catalog comm orderly.sound).and
    (ensures_prepareFrom_halts comm 0 catalog.algorithms)).mono
  · rintro _ after _ ⟨⟨grown, serves⟩, -⟩
    have reached := growing_orderly grown orderly
    refine ⟨growing_retains grown orderly.sound, fun index entry listed sized => ?_⟩
    exact ServesEntry.provides (serves index entry listed sized) reached.sound listed
  · rintro _ after _ ⟨grown, stop, halted⟩
    exact ⟨stop, halted.interrupted orderly (growing_retains grown orderly.sound)⟩

end Collective.Store
