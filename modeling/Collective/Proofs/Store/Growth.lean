import Collective.Proofs.History
import Collective.Proofs.Procedure
import Collective.Proofs.Table
import Collective.Store

/-!
# How the store grows

Until everything is released the store only grows: an algorithm is loaded into the
next free slot, perhaps for a catalog entry, or a slot is connected.  `Store.Growth`
lists these moves with the calls they make, and every procedure on the store is a
chain of them.  `Store.Sound` is what they keep.
-/

namespace Collective

/-- The calls of a load that succeeds, the latest first. -/
def Instance.loading (algorithm : Instance) : Option Buffer → History
  | none => [⟨.load algorithm.file algorithm.rank, .ok algorithm.report⟩]
  | some image =>
      [⟨.allocate .image algorithm.report.deviceBytes, .ok image⟩,
        ⟨.load algorithm.file algorithm.rank, .ok algorithm.report⟩]

theorem Instance.loads_loading (algorithm : Instance) (image : Option Buffer)
    (history : History) :
    History.loads (algorithm.loading image ++ history) = algorithm ::ₘ history.loads := by
  cases image <;> simp [loading, Event.loaded?]

/-- The calls of a load whose image cannot be allocated, the latest first. -/
def Instance.undoing (algorithm : Instance) (reason : String) (answer : Fallible Unit) :
    History :=
  [⟨.unload algorithm, answer⟩,
    ⟨.allocate .image algorithm.report.deviceBytes, .error reason⟩,
    ⟨.load algorithm.file algorithm.rank, .ok algorithm.report⟩]

namespace Store

open Procedure

/-- The store with an algorithm, and its image if it has one, in the first free
slot. -/
def occupy (store : Store) (others : List Handle) (handle : Handle) (algorithm : Instance)
    (image : Option Buffer) : Store :=
  { store with
    free := others
    loaded := store.loaded.insert handle algorithm
    images :=
      match image with
      | some image => store.images.insert handle image
      | none => store.images
    needsProxy := store.needsProxy || algorithm.report.needsProxy
    needsFence := store.needsFence || algorithm.report.needsFence }

/-- The store with a slot recorded for a catalog entry and a rank. -/
def record (store : Store) (index : Nat) (rank : UInt64) (handle : Handle) : Store :=
  { store with assigned := store.assigned.insert (index, rank) handle }

/-- The store with a slot connected on a communicator. -/
def link (store : Store) (comm : UInt32) (handle : Handle) : Store :=
  { store with connected := (comm, handle) :: store.connected }

/-- One move of the store, over a list of catalog entries. -/
inductive Growth (algorithms : List Metadata) : Store → History → Store → History → Prop where
  | call {store : Store} {history : History} {event : Event} :
      event.quiet = true → Growth algorithms store history store (event :: history)
  | undo {store : Store} {history : History} (algorithm : Instance) (reason : String)
      (answer : Fallible Unit) :
      Growth algorithms store history store (algorithm.undoing reason answer ++ history)
  | load {store : Store} {history : History} {handle : Handle} {others : List Handle}
      (algorithm : Instance) (image : Option Buffer) :
      store.free = handle :: others →
      Growth algorithms store history (store.occupy others handle algorithm image)
        (algorithm.loading image ++ history)
  | assign {store : Store} {history : History} {handle : Handle} {others : List Handle}
      {index : Nat} {metadata : Metadata} (algorithm : Instance) (image : Option Buffer) :
      store.free = handle :: others → algorithms[index]? = some metadata →
      algorithm.file = metadata.file → store.handle? index algorithm.rank = none →
      Growth algorithms store history
        ((store.occupy others handle algorithm image).record index algorithm.rank handle)
        (algorithm.loading image ++ history)
  | connect {store : Store} {history : History} {handle : Handle} {algorithm : Instance}
      (comm : Communicator) :
      store.isConnected comm.id handle = false →
      store.loaded.get? handle = some algorithm →
      Growth algorithms store history (store.link comm.id handle)
        (⟨.connect algorithm comm, .ok ()⟩ :: history)

/-- Nothing is loaded, recorded or connected. -/
structure Vacant (store : Store) : Prop where
  loaded : store.loaded = ∅
  images : store.images = ∅
  assigned : store.assigned = ∅
  connected : store.connected = []

/-- The slots in use and the free ones are all slots in order, and everything recorded
is of a slot in use; a slot recorded for a catalog entry holds that entry's file. -/
structure Sound (algorithms : List Metadata) (store : Store) : Prop where
  slots : store.loaded.keys ++ store.free = Handle.all
  imaged : ∀ {handle image}, store.images.get? handle = some image →
    ∃ algorithm, store.loaded.get? handle = some algorithm
  linked : ∀ {comm handle}, store.isConnected comm handle = true →
    ∃ algorithm, store.loaded.get? handle = some algorithm
  recorded : ∀ {index rank handle}, store.handle? index rank = some handle →
    ∃ metadata algorithm, algorithms[index]? = some metadata ∧
      store.loaded.get? handle = some algorithm ∧
      algorithm.file = metadata.file ∧ algorithm.rank = rank

/-- What is loaded, recorded and connected stays so. -/
structure Extends (before after : Store) : Prop where
  loaded : ∀ {handle algorithm}, before.loaded.get? handle = some algorithm →
    after.loaded.get? handle = some algorithm
  recorded : ∀ {index rank handle}, before.handle? index rank = some handle →
    after.handle? index rank = some handle
  linked : ∀ {comm handle}, before.isConnected comm handle = true →
    after.isConnected comm handle = true

namespace Extends

theorem refl (store : Store) : Extends store store := ⟨id, id, id⟩

theorem trans {first second third : Store} (before : Extends first second)
    (after : Extends second third) : Extends first third where
  loaded found := after.loaded (before.loaded found)
  recorded found := after.recorded (before.recorded found)
  linked found := after.linked (before.linked found)

end Extends

theorem isConnected_link {store : Store} {comm other : UInt32} {handle slot : Handle} :
    (store.link comm handle).isConnected other slot = true ↔
      (other = comm ∧ slot = handle) ∨ store.isConnected other slot = true := by
  simp [isConnected, link]

theorem handle?_record {store : Store} {index other : Nat} {rank place : UInt64}
    {handle : Handle} :
    (store.record index rank handle).handle? other place =
      if other = index ∧ place = rank then some handle else store.handle? other place := by
  simp [handle?, record, Table.get?_insert]

theorem all_slots_nodup : Handle.all.Nodup := by decide

variable {algorithms : List Metadata} {store after : Store} {history later : History}

/-- A refilled store with nothing in it is sound. -/
theorem Vacant.refill_sound (vacant : store.Vacant) (algorithms : List Metadata) :
    store.refill.Sound algorithms where
  slots := by
    show store.loaded.keys ++ Handle.all = Handle.all
    rw [vacant.loaded]
    rfl
  imaged held := by
    have held : store.images.get? _ = some _ := held
    rw [vacant.images] at held
    cases held
  linked connected := by
    have connected : store.isConnected _ _ = true := connected
    simp [isConnected, vacant.connected] at connected
  recorded found := by
    have found : store.assigned.get? _ = some _ := found
    rw [vacant.assigned] at found
    cases found

namespace Sound

/-- The first free slot holds nothing. -/
theorem free_empty {handle : Handle} {others : List Handle}
    (sound : store.Sound algorithms) (next : store.free = handle :: others) :
    store.loaded.get? handle = none := by
  have distinct : (store.loaded.keys ++ handle :: others).Nodup := by
    rw [← next, sound.slots]
    exact all_slots_nodup
  apply Table.get?_eq_none_iff.mpr
  intro member
  exact (List.nodup_append.mp distinct).2.2 handle member handle List.mem_cons_self rfl

/-- The first free slot has no image. -/
theorem free_imageless {handle : Handle} {others : List Handle}
    (sound : store.Sound algorithms) (next : store.free = handle :: others) :
    store.images.get? handle = none := by
  cases found : store.images.get? handle with
  | none => rfl
  | some image =>
      obtain ⟨algorithm, loaded⟩ := sound.imaged found
      rw [sound.free_empty next] at loaded
      cases loaded

/-- Loading into the first free slot keeps all that is loaded. -/
theorem occupy_extends {handle : Handle} {others : List Handle}
    (sound : store.Sound algorithms) (next : store.free = handle :: others)
    (algorithm : Instance) (image : Option Buffer) :
    store.Extends (store.occupy others handle algorithm image) where
  loaded found := Table.get?_insert_of_some (sound.free_empty next) found
  recorded found := found
  linked found := found

theorem occupy {handle : Handle} {others : List Handle}
    (sound : store.Sound algorithms) (next : store.free = handle :: others)
    (algorithm : Instance) (image : Option Buffer) :
    (store.occupy others handle algorithm image).Sound algorithms where
  slots := by
    show (store.loaded.insert handle algorithm).keys ++ others = Handle.all
    rw [Table.keys_insert_of_absent (sound.free_empty next), ← sound.slots, next,
      List.append_assoc, List.singleton_append]
  imaged := by
    intro slot found held
    by_cases same : slot = handle
    · exact ⟨algorithm, by rw [same]; exact Table.get?_insert_self _ _ _⟩
    · have kept : store.images.get? slot = some found := by
        cases image with
        | none => exact held
        | some image =>
            rw [← held]
            exact ((Table.get?_insert _ _ _ _).trans (if_neg same)).symm
      obtain ⟨other, loaded⟩ := sound.imaged kept
      exact ⟨other, (sound.occupy_extends next algorithm image).loaded loaded⟩
  linked connected := by
    obtain ⟨other, loaded⟩ := sound.linked connected
    exact ⟨other, (sound.occupy_extends next algorithm image).loaded loaded⟩
  recorded found := by
    obtain ⟨metadata, other, entry, loaded, rest⟩ := sound.recorded found
    exact ⟨metadata, other, entry,
      (sound.occupy_extends next algorithm image).loaded loaded, rest⟩

end Sound

namespace Growth

/-- Every move keeps the store sound. -/
theorem sound (grown : Growth algorithms store history after later)
    (before : store.Sound algorithms) : after.Sound algorithms := by
  cases grown with
  | call => exact before
  | undo => exact before
  | load algorithm image next => exact before.occupy next algorithm image
  | @assign handle others index metadata algorithm image next entry file fresh =>
      have occupied := before.occupy next algorithm image
      refine ⟨occupied.slots, occupied.imaged, occupied.linked, ?_⟩
      intro other rank slot found
      rw [handle?_record] at found
      split at found
      next same =>
        obtain ⟨rfl, rfl⟩ := same
        cases found
        exact ⟨metadata, algorithm, entry, Table.get?_insert_self _ _ _, file, rfl⟩
      next => exact occupied.recorded found
  | @connect handle algorithm comm fresh loaded =>
      refine ⟨before.slots, before.imaged, ?_, before.recorded⟩
      intro other slot connected
      rcases isConnected_link.mp connected with ⟨rfl, rfl⟩ | earlier
      · exact ⟨algorithm, loaded⟩
      · exact before.linked earlier

/-- Every move keeps what is loaded, recorded and connected. -/
theorem extends_of_sound (grown : Growth algorithms store history after later)
    (before : store.Sound algorithms) : store.Extends after := by
  cases grown with
  | call => exact .refl store
  | undo => exact .refl store
  | load algorithm image next => exact before.occupy_extends next algorithm image
  | assign algorithm image next entry file fresh =>
      have occupied := before.occupy_extends next algorithm image
      refine ⟨occupied.loaded, ?_, occupied.linked⟩
      intro other rank slot found
      rw [handle?_record, if_neg]
      · exact found
      · rintro ⟨rfl, rfl⟩
        rw [fresh] at found
        cases found
  | connect comm fresh loaded =>
      exact ⟨id, id, fun connected => isConnected_link.mpr (.inr connected)⟩

end Growth

/-! ## Procedures on the store -/

section Procedures

variable {env : Environment}

/-- A chain of moves keeps a sound store sound, and it keeps all that was in it. -/
theorem growing_sound (grown : Along (Growth algorithms) store history after later)
    (before : store.Sound algorithms) : after.Sound algorithms ∧ store.Extends after := by
  apply grown.keeps fun reached _ => reached.Sound algorithms ∧ store.Extends reached
  · rintro middle past next now moved ⟨sound, extended⟩
    exact ⟨moved.sound sound, extended.trans (moved.extends_of_sound sound)⟩
  · exact ⟨before, .refl store⟩

theorem giveBack_of_free {handle : Handle} {others : List Handle}
    (next : store.free = handle :: others) :
    ({ store with free := others } : Store).giveBack handle = store := by
  obtain ⟨free⟩ := store
  exact congrArg (fun free => Store.mk free _ _ _ _ _ _) next.symm

/-- A load fills the first free slot, or leaves the store as it was. -/
theorem ensures_load (algorithms : List Metadata) (file : Path) (rank : UInt64) :
    (load file rank).Ensures env store history
      (fun handle after later => ∃ others algorithm image,
        store.free = handle :: others ∧ algorithm.file = file ∧ algorithm.rank = rank ∧
          after = store.occupy others handle algorithm image ∧
          later = algorithm.loading image ++ history)
      (fun _ after later => after = store ∧
        Along (Growth algorithms) store history store later) := by
  unfold load takeSlot provideImage
  simp only [ensures_bind, ensures_get]
  cases next : store.free with
  | nil => exact ⟨rfl, .refl⟩
  | cons handle others =>
      simp only [ensures_bind, ensures_modify, ensures_pure, ensures_ask]
      cases loaded : env.answer history (.load file rank) with
      | error reason => exact ⟨giveBack_of_free next, .single (.call rfl)⟩
      | ok report =>
          simp only [ensures_bind, ensures_ite, ensures_ask, ensures_pure]
          split
          next => exact ⟨others, ⟨file, rank, report⟩, none, rfl, rfl, rfl, rfl, rfl⟩
          next =>
            cases allocated : env.answer _ (.allocate .image report.deviceBytes) with
            | ok image =>
                exact ⟨others, ⟨file, rank, report⟩, some image, rfl, rfl, rfl, rfl, rfl⟩
            | error reason =>
                exact ⟨giveBack_of_free next, .single (.undo ⟨file, rank, report⟩ reason _)⟩

/-- A slot is connected afterwards, or the store is as it was. -/
theorem ensures_connect (algorithms : List Metadata) (handle : Handle) (comm : Communicator) :
    (connect handle comm).Ensures env store history
      (fun _ after later => Along (Growth algorithms) store history after later ∧
        after.isConnected comm.id handle = true)
      (fun _ after later => after = store ∧
        Along (Growth algorithms) store history store later) := by
  unfold connect
  simp only [ensures_bind, ensures_get, ensures_ite, ensures_pure]
  split
  next connected => exact ⟨.refl, connected⟩
  next fresh =>
    cases loaded : store.loaded.get? handle with
    | none => exact ⟨rfl, .refl⟩
    | some algorithm =>
        simp only [ensures_bind, ensures_ask, ensures_accepted, ensures_modify]
        cases connected : env.answer history (.connect algorithm comm) with
        | error reason => exact ⟨trivial, .single (.call rfl)⟩
        | ok =>
            refine ⟨.single (.connect comm (by simpa using fresh) loaded), ?_⟩
            simp [isConnected]

/-- A catalog entry has a slot for the rank afterwards. -/
theorem ensures_assign {index : Nat} {metadata : Metadata} (rank : UInt64)
    (entry : algorithms[index]? = some metadata) :
    (assign index metadata rank).Ensures env store history
      (fun handle after later => Along (Growth algorithms) store history after later ∧
        after.handle? index rank = some handle)
      (fun _ after later => Along (Growth algorithms) store history after later) := by
  unfold assign
  simp only [ensures_bind, ensures_get]
  cases recorded : store.handle? index rank with
  | some handle => exact ⟨.refl, recorded⟩
  | none =>
      simp only [ensures_bind, ensures_modify, ensures_pure]
      refine (ensures_load algorithms metadata.file rank).mono ?_ ?_
      · rintro handle _ _ ⟨others, algorithm, image, next, file, rfl, rfl, rfl⟩
        refine ⟨.single (.assign algorithm image next entry file recorded), ?_⟩
        exact Table.get?_insert_self _ _ _
      · rintro _ _ _ ⟨rfl, grown⟩
        exact grown

/-- These entries stand in a list from a position on. -/
def Listed (algorithms : List Metadata) (index : Nat) (entries : List Metadata) : Prop :=
  ∀ offset metadata, entries[offset]? = some metadata →
    algorithms[index + offset]? = some metadata

namespace Listed

variable {index : Nat} {entry : Metadata} {entries : List Metadata}

theorem all (algorithms : List Metadata) : Listed algorithms 0 algorithms := by
  intro offset metadata found
  rwa [Nat.zero_add]

theorem head (listed : Listed algorithms index (entry :: entries)) :
    algorithms[index]? = some entry := listed 0 entry rfl

theorem tail (listed : Listed algorithms index (entry :: entries)) :
    Listed algorithms (index + 1) entries := by
  intro offset metadata found
  rw [Nat.add_right_comm]
  exact listed (offset + 1) metadata found

theorem take (listed : Listed algorithms index entries) (count : Nat) :
    Listed algorithms index (entries.take count) := by
  intro offset metadata found
  rw [List.getElem?_take] at found
  split at found
  next => exact listed offset metadata found
  next => cases found

end Listed

/-- From a position on, every entry with the number of ranks of a communicator has a slot
for its rank, connected for it. -/
def ServesFrom (store : Store) (comm : Communicator) (index : Nat)
    (entries : List Metadata) : Prop :=
  ∀ offset metadata, entries[offset]? = some metadata → metadata.numRanks = comm.numRanks →
    ∃ handle, store.handle? (index + offset) comm.rank = some handle ∧
      store.isConnected comm.id handle = true

theorem ServesFrom.cons {comm : Communicator} {index : Nat} {entry : Metadata}
    {others : List Metadata}
    (first : entry.numRanks = comm.numRanks → ∃ handle,
      store.handle? index comm.rank = some handle ∧ store.isConnected comm.id handle = true)
    (rest : store.ServesFrom comm (index + 1) others) :
    store.ServesFrom comm index (entry :: others) := by
  intro offset metadata found same
  cases offset with
  | zero =>
      obtain rfl : entry = metadata := Option.some.inj found
      exact first same
  | succ offset =>
      have later := rest offset metadata found same
      rwa [Nat.add_right_comm] at later

theorem ServesFrom.tail {comm : Communicator} {index : Nat} {entry : Metadata}
    {others : List Metadata} (serves : store.ServesFrom comm index (entry :: others)) :
    store.ServesFrom comm (index + 1) others := by
  intro offset metadata found same
  rw [Nat.add_right_comm]
  exact serves (offset + 1) metadata found same

/-- Every entry with the number of ranks of the communicator has a connected slot
afterwards. -/
theorem ensures_prepareFrom (comm : Communicator) (index : Nat) (entries : List Metadata)
    (listed : Listed algorithms index entries) (sound : store.Sound algorithms) :
    (prepareFrom comm index entries).Ensures env store history
      (fun _ after later => Along (Growth algorithms) store history after later ∧
        after.ServesFrom comm index entries)
      (fun _ after later => Along (Growth algorithms) store history after later) := by
  induction entries generalizing index store history with
  | nil => exact ⟨.refl, by simp [ServesFrom]⟩
  | cons entry others ih =>
      unfold prepareFrom
      simp only [ensures_bind, ensures_ite]
      split
      next sized =>
        refine (ensures_assign comm.rank listed.head).mono ?_ (fun _ _ _ grown => grown)
        rintro handle _ _ ⟨assigned, recorded⟩
        refine (ensures_connect algorithms handle comm).mono ?_ ?_
        · rintro _ _ _ ⟨connected, linked⟩
          have reached := assigned.trans connected
          have ready := (growing_sound reached sound).1
          have kept := (growing_sound connected (growing_sound assigned sound).1).2
          refine (ih (index + 1) listed.tail ready).mono ?_ (fun _ _ _ grown => reached.trans grown)
          rintro _ _ _ ⟨grown, prepared⟩
          have later := (growing_sound grown ready).2
          refine ⟨reached.trans grown, prepared.cons fun _ => ?_⟩
          exact ⟨handle, later.recorded (kept.recorded recorded), later.linked linked⟩
        · rintro _ _ _ ⟨rfl, grown⟩
          exact assigned.trans grown
      next unsized =>
        refine (ih (index + 1) listed.tail sound).mono ?_ (fun _ _ _ grown => grown)
        rintro _ _ _ ⟨grown, prepared⟩
        exact ⟨grown, prepared.cons fun same => absurd same unsized⟩

theorem ensures_prepare (catalog : Catalog) (comm : Communicator)
    (sound : store.Sound catalog.algorithms) :
    (prepare catalog comm).Ensures env store history
      (fun _ after later => Along (Growth catalog.algorithms) store history after later ∧
        ∀ index metadata, catalog.get? index = some metadata →
          metadata.numRanks = comm.numRanks →
          ∃ handle, after.handle? index comm.rank = some handle ∧
            after.isConnected comm.id handle = true)
      (fun _ after later => Along (Growth catalog.algorithms) store history after later) := by
  refine (ensures_prepareFrom comm 0 _ (.all catalog.algorithms) sound).mono ?_
    (fun _ _ _ grown => grown)
  rintro _ _ _ ⟨grown, prepared⟩
  refine ⟨grown, ?_⟩
  intro index metadata found same
  have served := prepared index metadata found same
  rwa [Nat.zero_add] at served

end Procedures

end Store

end Collective
