import Collective.Proofs.Store.Growth
import Mathlib.Data.List.Forall2

/-!
# How slots are handed out

The slots in use are the first ones, in the order in which what they hold was loaded, and
the free ones are the others.  A load fails for want of a slot exactly if every slot is in
use, and a preparation does so at the first entry that is not served.
-/

namespace Collective

open Procedure History

namespace History

/-- The algorithms that were loaded and not unloaded since, the latest first.  Where some
are equal the latest counts as unloaded. -/
def kept : History → List Instance
  | [] => []
  | ⟨.load file rank, .ok report⟩ :: past => { file, rank, report } :: kept past
  | ⟨.unload algorithm, _⟩ :: past => (kept past).erase algorithm
  | _ :: past => kept past

theorem kept_cons_of_other {event : Event} (past : History) (loaded : event.loaded? = none)
    (unloaded : event.call.unloaded? = none) : kept (event :: past) = kept past := by
  obtain ⟨call, answer⟩ := event
  cases call with
  | load file rank =>
      cases answer with
      | ok report => cases loaded
      | error reason => rfl
  | unload algorithm => cases unloaded
  | _ => rfl

@[simp] theorem kept_loading (algorithm : Instance) (image : Option Buffer) (past : History) :
    kept (algorithm.loading image ++ past) = algorithm :: kept past := by
  cases image <;> rfl

/-- A load whose image is refused leaves nothing. -/
@[simp] theorem kept_undoing (algorithm : Instance) (reason : String)
    (answer : Fallible Unit) (past : History) :
    kept (algorithm.undoing reason answer ++ past) = kept past :=
  List.erase_cons_head algorithm (kept past)

/-- Between two moments these algorithms were loaded and not unloaded again, the latest
first. -/
def Gains (past : History) (gained : List Instance) (now : History) : Prop :=
  ∃ events, now = events ++ past ∧ ∀ earlier, kept (events ++ earlier) = gained ++ kept earlier

namespace Gains

variable {past middle now : History}

theorem none (history : History) : Gains history [] history := ⟨[], rfl, fun _ => rfl⟩

theorem other {event : Event} (loaded : event.loaded? = .none)
    (unloaded : event.call.unloaded? = .none) (history : History) :
    Gains history [] (event :: history) :=
  ⟨[event], rfl, fun earlier => kept_cons_of_other earlier loaded unloaded⟩

theorem quiet {event : Event} (quiet : event.quiet = true) (history : History) :
    Gains history [] (event :: history) := by
  obtain ⟨loaded, _, unloaded, _⟩ := Event.quiet_iff.mp quiet
  exact .other loaded unloaded history

theorem loading (algorithm : Instance) (image : Option Buffer) (history : History) :
    Gains history [algorithm] (algorithm.loading image ++ history) :=
  ⟨algorithm.loading image, rfl, kept_loading algorithm image⟩

theorem undoing (algorithm : Instance) (reason : String) (answer : Fallible Unit)
    (history : History) : Gains history [] (algorithm.undoing reason answer ++ history) :=
  ⟨algorithm.undoing reason answer, rfl, kept_undoing algorithm reason answer⟩

theorem trans {first second : List Instance} (before : Gains past first middle)
    (after : Gains middle second now) : Gains past (second ++ first) now := by
  obtain ⟨earlier, rfl, firsts⟩ := before
  obtain ⟨later, rfl, seconds⟩ := after
  refine ⟨later ++ earlier, by simp, fun oldest => ?_⟩
  rw [List.append_assoc, seconds, firsts, List.append_assoc]

end Gains

end History

/-- The connection that a call has made. -/
def Event.connection? : Event → Option (Instance × Communicator)
  | ⟨.connect algorithm comm, .ok ()⟩ => some (algorithm, comm)
  | _ => none

theorem Event.connection?_of_quiet {event : Event} (quiet : event.quiet = true) :
    event.connection? = none := by
  obtain ⟨call, answer⟩ := event
  cases call with
  | connect => cases answer <;> first | rfl | cases quiet
  | _ => rfl

/-- The connections that were made, the latest first. -/
def History.connections (history : History) : List (Instance × Communicator) :=
  history.filterMap Event.connection?

theorem History.connections_append (later earlier : History) :
    connections (later ++ earlier) = connections later ++ connections earlier :=
  List.filterMap_append

@[simp] theorem History.connections_loading (algorithm : Instance) (image : Option Buffer) :
    connections (algorithm.loading image) = [] := by
  cases image <;> rfl

namespace Store

variable {algorithms : List Metadata} {store after : Store} {history later : History}

/-- No two entries are recorded for one slot. -/
def Distinct (store : Store) : Prop :=
  ∀ {index other rank place handle}, store.handle? index rank = some handle →
    store.handle? other place = some handle → index = other ∧ rank = place

/-- The slots in use are the first ones and the free ones are the others; images, recorded
entries and connections are of slots in use, every recorded entry has a slot of its own, and
the slot holds that entry's file for the rank. -/
structure Tidy (algorithms : List Metadata) (store : Store) : Prop where
  used : store.loaded.keys = Handle.all.take store.loaded.size
  free : store.free = Handle.all.drop store.loaded.size
  imaged : ∀ {handle image}, store.images.get? handle = some image → handle ∈ store.loaded.keys
  linked : ∀ {comm handle}, store.isConnected comm handle = true → handle ∈ store.loaded.keys
  recorded : ∀ {index rank handle}, store.handle? index rank = some handle →
    ∃ metadata algorithm, algorithms[index]? = some metadata ∧
      store.loaded.get? handle = some algorithm ∧
      algorithm.file = metadata.file ∧ algorithm.rank = rank
  distinct : store.Distinct

/-- What the slots in use hold, in ascending order. -/
def contents (store : Store) : List Instance := store.loaded.entries.map Prod.snd

/-- The recorded connections are those that were made, each recorded once and of a slot that
holds what was connected. -/
structure Linked (store : Store) (made : List (Instance × Communicator)) : Prop where
  recorded : List.Forall₂ (fun connection place => connection.2.id = place.1 ∧
    store.loaded.get? place.2 = some connection.1) made store.connected
  once : store.connected.Nodup

/-- Connections stay recorded where the slots keep what they hold. -/
theorem Linked.mono {made : List (Instance × Communicator)} (linked : store.Linked made)
    (extended : store.Extends after) (same : after.connected = store.connected) :
    after.Linked made where
  recorded := by
    rw [same]
    exact linked.recorded.imp fun _ _ matched => ⟨matched.1, extended.loaded matched.2⟩
  once := same ▸ linked.once

theorem length_keys (store : Store) : store.loaded.keys.length = store.loaded.size :=
  List.length_map Prod.fst

namespace Sound

theorem tidy (sound : store.Sound algorithms) (distinct : store.Distinct) :
    store.Tidy algorithms where
  used := by rw [← sound.slots, ← store.length_keys, List.take_left]
  free := by rw [← sound.slots, ← store.length_keys, List.drop_left]
  imaged held := by
    obtain ⟨algorithm, loaded⟩ := sound.imaged held
    exact Table.mem_keys_of_get? loaded
  linked connected := by
    obtain ⟨algorithm, loaded⟩ := sound.linked connected
    exact Table.mem_keys_of_get? loaded
  recorded := sound.recorded
  distinct := distinct

/-- No slot is free exactly if every slot is in use. -/
theorem exhausted_iff (sound : store.Sound algorithms) :
    store.free = [] ↔ store.loaded.size = Handle.slots := by
  have total := congrArg List.length sound.slots
  rw [List.length_append, length_keys] at total
  have all : Handle.all.length = Handle.slots := by simp [Handle.all]
  rw [← List.length_eq_zero_iff]
  omega

/-- The next free slot is the one whose number is the number of slots in use. -/
theorem next_eq {handle : Handle} {others : List Handle} (sound : store.Sound algorithms)
    (next : store.free = handle :: others) : handle = .ofNat store.loaded.size := by
  have place : Handle.all[store.loaded.size]? = some handle := by
    rw [← sound.slots, next, ← store.length_keys]
    simp
  obtain ⟨found, same⟩ := List.getElem?_eq_some_iff.mp place
  rw [← same]
  simp [Handle.all]

/-- The slots in use with what they hold. -/
theorem entries_eq (sound : store.Sound algorithms) :
    store.loaded.entries = Handle.all.zip store.contents := by
  have parts : store.loaded.keys.zip store.contents = store.loaded.entries := by
    rw [Table.keys, contents, List.zip_map']
    simp
  have lengths : store.loaded.keys.length = store.contents.length := by
    rw [contents, List.length_map, length_keys, Table.size]
  calc
    store.loaded.entries = store.loaded.keys.zip store.contents := parts.symm
    _ = (store.loaded.keys ++ store.free).zip (store.contents ++ []) := by
      rw [List.zip_append lengths, List.zip_nil_right, List.append_nil]
    _ = Handle.all.zip store.contents := by rw [sound.slots, List.append_nil]

/-- What is loaded comes after what was. -/
theorem contents_occupy {handle : Handle} {others : List Handle} (sound : store.Sound algorithms)
    (next : store.free = handle :: others) (algorithm : Instance) (image : Option Buffer) :
    (store.occupy others handle algorithm image).contents = store.contents ++ [algorithm] := by
  show ((store.loaded.insert handle algorithm).entries.map Prod.snd) = _
  rw [Table.entries_insert_of_absent (sound.free_empty next), List.map_append]
  rfl

end Sound

namespace Growth

/-- A move records every entry at a slot of its own. -/
theorem distinct (grown : Growth algorithms store history after later)
    (sound : store.Sound algorithms) (before : store.Distinct) : after.Distinct := by
  cases grown with
  | call | undo | load | connect => exact before
  | @assign handle others index metadata algorithm image next entry file fresh =>
      -- The next free slot is recorded for no entry yet.
      have unrecorded {other : Nat} {place : UInt64} :
          store.handle? other place ≠ some handle := by
        intro recorded
        obtain ⟨_, _, _, loaded, _⟩ := sound.recorded recorded
        rw [sound.free_empty next] at loaded
        cases loaded
      intro first second rank place slot found again
      rw [handle?_record] at found again
      split at found <;> split at again
      next here there => exact ⟨here.1.trans there.1.symm, here.2.trans there.2.symm⟩
      next =>
        cases found
        exact absurd again unrecorded
      next =>
        cases again
        exact absurd found unrecorded
      next => exact before found again

/-- A move puts what it loads after what is loaded. -/
theorem gains (grown : Growth algorithms store history after later)
    (sound : store.Sound algorithms) :
    ∃ gained, Gains history gained later ∧ after.contents = store.contents ++ gained.reverse := by
  cases grown with
  | call quiet => exact ⟨[], .quiet quiet history, (List.append_nil _).symm⟩
  | undo => exact ⟨[], .undoing _ _ _ history, (List.append_nil _).symm⟩
  | load algorithm image next | assign algorithm image next =>
      exact ⟨[algorithm], .loading algorithm image history,
        sound.contents_occupy next algorithm image⟩
  | connect => exact ⟨[], .other rfl rfl history, (List.append_nil _).symm⟩

/-- A move records the connections that it makes. -/
theorem linked (grown : Growth algorithms store history after later)
    (sound : store.Sound algorithms) :
    ∃ events, later = events ++ history ∧
      ∀ made, store.Linked made → after.Linked (connections events ++ made) := by
  have extended := grown.extends_of_sound sound
  cases grown with
  | @call event quiet =>
      refine ⟨[event], rfl, fun made before => ?_⟩
      rw [connections, List.filterMap_cons_none (Event.connection?_of_quiet quiet)]
      exact before
  | undo algorithm reason answer =>
      exact ⟨algorithm.undoing reason answer, rfl, fun made before => before⟩
  | load algorithm image | assign algorithm image =>
      refine ⟨algorithm.loading image, rfl, fun made before => ?_⟩
      rw [connections_loading]
      exact before.mono extended rfl
  | @connect handle algorithm comm fresh loaded =>
      refine ⟨[⟨.connect algorithm comm, .ok ()⟩], rfl, fun made before => ?_⟩
      refine ⟨.cons ⟨rfl, loaded⟩ before.recorded, List.nodup_cons.mpr ⟨?_, before.once⟩⟩
      intro member
      rw [isConnected, List.contains_iff_mem.mpr member] at fresh
      cases fresh

end Growth

section Failures

variable {env : Environment}

/-- A load fails for want of a slot exactly if none is free.  Where it fails nothing is
gained. -/
theorem ensures_load_fails (file : Path) (rank : UInt64) :
    (load file rank).Ensures env store history (fun _ _ _ => store.free ≠ [])
      (fun error _ later => (error = .slotsExhausted ↔ store.free = []) ∧
        Gains history [] later) := by
  unfold load takeSlot provideImage
  simp only [ensures_bind, ensures_get]
  cases next : store.free with
  | nil => exact ⟨by simp, .none history⟩
  | cons handle others =>
      simp only [ensures_bind, ensures_modify, ensures_pure, ensures_ask]
      cases env.answer history (.load file rank) with
      | error reason => exact ⟨by simp, .other rfl rfl history⟩
      | ok report =>
          simp only [ensures_bind, ensures_ite, ensures_ask, ensures_pure]
          split
          next => simp
          next =>
            cases env.answer _ (.allocate .image report.deviceBytes) with
            | ok image => simp
            | error reason => exact ⟨by simp, .undoing ⟨file, rank, report⟩ reason _ history⟩

/-- An assignment that fails changes nothing and leaves its entry without a slot. -/
theorem ensures_assign_fails (index : Nat) (metadata : Metadata) (rank : UInt64) :
    (assign index metadata rank).Ensures env store history (fun _ _ _ => True)
      (fun error after _ => after = store ∧ after.handle? index rank = none ∧
        (error = .slotsExhausted ↔ after.free = [])) := by
  unfold assign
  rw [ensures_bind, ensures_get]
  cases recorded : store.handle? index rank with
  | some handle => trivial
  | none =>
      rw [ensures_bind]
      apply ((ensures_load [] metadata.file rank).and (ensures_load_fails metadata.file rank)).mono
      · exact fun _ _ _ _ => trivial
      · rintro error _ _ ⟨⟨rfl, _⟩, wanting, _⟩
        exact ⟨rfl, recorded, wanting⟩

/-- A connection loads nothing, and where it fails it does so for another reason than want of
a slot. -/
theorem ensures_connect_gains (handle : Handle) (comm : Communicator) :
    (connect handle comm).Ensures env store history
      (fun _ after later => after.loaded = store.loaded ∧ after.assigned = store.assigned ∧
        Gains history [] later)
      (fun error after later => after = store ∧ Gains history [] later ∧
        store.isConnected comm.id handle = false ∧ error ≠ .slotsExhausted) := by
  unfold connect
  simp only [ensures_bind, ensures_get, ensures_ite, ensures_pure]
  split
  next => exact ⟨trivial, trivial, .none history⟩
  next fresh =>
    have unlinked : store.isConnected comm.id handle = false := by simpa using fresh
    cases store.loaded.get? handle with
    | none => exact ⟨rfl, .none history, unlinked, by simp⟩
    | some algorithm =>
        simp only [ensures_bind, ensures_ask, ensures_accepted, ensures_modify]
        cases env.answer history (.connect algorithm comm) with
        | ok => exact ⟨trivial, trivial, .other rfl rfl history⟩
        | error reason => exact ⟨trivial, .other rfl rfl history, unlinked, by simp⟩

end Failures

/-- A catalog entry has a slot for the rank of a communicator, connected for it. -/
def ServesEntry (store : Store) (comm : Communicator) (index : Nat) : Prop :=
  ∃ handle, store.handle? index comm.rank = some handle ∧
    store.isConnected comm.id handle = true

theorem ServesEntry.mono {comm : Communicator} {index : Nat}
    (serves : store.ServesEntry comm index) (extended : store.Extends after) :
    after.ServesEntry comm index := by
  obtain ⟨handle, recorded, linked⟩ := serves
  exact ⟨handle, extended.recorded recorded, extended.linked linked⟩

/-- Of the entries from position `index` on that have the number of ranks of a communicator,
the one at offset `stop` is the first that is not served. -/
structure StopsAt (store : Store) (comm : Communicator) (index : Nat) (entries : List Metadata)
    (stop : Nat) : Prop where
  sized : ∃ metadata, entries[stop]? = some metadata ∧ metadata.numRanks = comm.numRanks
  served : ∀ earlier metadata, earlier < stop → entries[earlier]? = some metadata →
    metadata.numRanks = comm.numRanks → store.ServesEntry comm (index + earlier)
  unserved : ¬ store.ServesEntry comm (index + stop)

namespace StopsAt

variable {comm : Communicator} {index stop : Nat} {entry : Metadata}
variable {entries : List Metadata}

theorem unique {other : Nat} (stops : store.StopsAt comm index entries stop)
    (again : store.StopsAt comm index entries other) : stop = other := by
  obtain ⟨metadata, found, same⟩ := stops.sized
  obtain ⟨metadata', found', same'⟩ := again.sized
  rcases Nat.lt_trichotomy stop other with before | equal | behind
  · exact absurd (again.served stop metadata before found same) stops.unserved
  · exact equal
  · exact absurd (stops.served other metadata' behind found' same') again.unserved

theorem not_serves (stops : store.StopsAt comm index entries stop) :
    ¬ store.ServesFrom comm index entries := by
  intro serves
  obtain ⟨metadata, found, same⟩ := stops.sized
  exact stops.unserved (serves stop metadata found same)

theorem here (sized : entry.numRanks = comm.numRanks)
    (unserved : ¬ store.ServesEntry comm index) :
    store.StopsAt comm index (entry :: entries) 0 :=
  ⟨⟨entry, rfl, sized⟩, fun _ _ before => absurd before (Nat.not_lt_zero _), unserved⟩

theorem beyond (first : entry.numRanks = comm.numRanks → store.ServesEntry comm index)
    (stops : store.StopsAt comm (index + 1) entries stop) :
    store.StopsAt comm index (entry :: entries) (stop + 1) where
  sized := stops.sized
  served earlier metadata before found same := by
    cases earlier with
    | zero =>
        obtain rfl : entry = metadata := Option.some.inj found
        exact first same
    | succ earlier =>
        have served := stops.served earlier metadata (Nat.lt_of_succ_lt_succ before) found same
        rwa [Nat.add_right_comm] at served
  unserved := by
    have unserved := stops.unserved
    rwa [Nat.add_right_comm] at unserved

end StopsAt

/-- A preparation that fails stops at the first entry that is not served, for want of a slot
exactly if no slot is free and the entry has none. -/
theorem ensures_prepareFrom_fails {env : Environment} (comm : Communicator) (index : Nat)
    (entries : List Metadata) (listed : Listed algorithms index entries)
    (sound : store.Sound algorithms) :
    (prepareFrom comm index entries).Ensures env store history (fun _ _ _ => True)
      (fun error after _ => ∃ stop, after.StopsAt comm index entries stop ∧
        (error = .slotsExhausted ↔
          after.handle? (index + stop) comm.rank = none ∧ after.free = [])) := by
  induction entries generalizing index store history with
  | nil => trivial
  | cons entry others ih =>
      have beyond {after : Store} {error : Error} (served : entry.numRanks = comm.numRanks →
            after.ServesEntry comm index)
          (failed : ∃ stop, after.StopsAt comm (index + 1) others stop ∧
            (error = .slotsExhausted ↔
              after.handle? (index + 1 + stop) comm.rank = none ∧ after.free = [])) :
          ∃ stop, after.StopsAt comm index (entry :: others) stop ∧
            (error = .slotsExhausted ↔
              after.handle? (index + stop) comm.rank = none ∧ after.free = []) := by
        obtain ⟨stop, stops, reason⟩ := failed
        rw [Nat.add_right_comm] at reason
        exact ⟨stop + 1, stops.beyond served, reason⟩
      unfold prepareFrom
      simp only [ensures_bind, ensures_ite]
      split
      next sized =>
        apply ((ensures_assign comm.rank listed.head).and
          (ensures_assign_fails index entry comm.rank)).mono
        · rintro handle middle past ⟨⟨assigned, recorded⟩, -⟩
          have middleSound := (growing_sound assigned sound).1
          apply ((ensures_connect algorithms handle comm).and
            (ensures_connect_gains handle comm)).mono
          · rintro _ reached _ ⟨⟨connected, linked⟩, -⟩
            obtain ⟨reachedSound, kept⟩ := growing_sound connected middleSound
            have serves : reached.ServesEntry comm index :=
              ⟨handle, kept.recorded recorded, linked⟩
            apply ((ensures_prepareFrom comm (index + 1) others listed.tail reachedSound).and
              (ih (index + 1) listed.tail reachedSound)).mono
            · exact fun _ _ _ _ => trivial
            · rintro error after _ ⟨grown, failed⟩
              exact beyond (fun _ => serves.mono (growing_sound grown reachedSound).2) failed
          · rintro error _ _ ⟨-, rfl, -, unlinked, other⟩
            refine ⟨0, .here sized ?_, ?_⟩
            · rintro ⟨slot, found, linked⟩
              rw [recorded] at found
              cases found
              rw [unlinked] at linked
              cases linked
            · simp [other, recorded]
        · rintro error after _ ⟨-, -, unrecorded, reason⟩
          refine ⟨0, .here sized ?_, ?_⟩
          · rintro ⟨slot, found, -⟩
            rw [unrecorded] at found
            cases found
          · rw [reason]
            exact ⟨fun wanting => ⟨unrecorded, wanting⟩, fun both => both.2⟩
      next unsized =>
        apply ((ensures_prepareFrom comm (index + 1) others listed.tail sound).and
          (ih (index + 1) listed.tail sound)).mono
        · exact fun _ _ _ _ => trivial
        · rintro error after _ ⟨-, failed⟩
          exact beyond (fun same => absurd same unsized) failed

end Store

end Collective
