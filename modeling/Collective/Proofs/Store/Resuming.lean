import Collective.Proofs.Run
import Collective.Proofs.Store.Stopping

/-!
# Trying again

A preparation that fails keeps what it has achieved, and the next one goes on from there.  So
after any number of failures the store is in the end what a single preparation makes of it where
nothing is refused, but for the addresses of device buffers.  `Store.Completes` says what a
preparation does where it succeeds: it is the same for the store in which a failed one started
and for the one that this has left.
-/

namespace Collective

open Procedure History

/-- Since a moment some call was refused. -/
def History.Refuses (past now : History) : Prop :=
  ∃ events, now = events ++ past ∧ ∃ event ∈ events, event.refused = true

namespace History.Refuses

variable {past middle now : History}

theorem cons {event : Event} (refused : event.refused = true) (suffix : past <:+ middle) :
    Refuses past (event :: middle) := by
  obtain ⟨events, rfl⟩ := suffix
  exact ⟨event :: events, rfl, event, List.mem_cons_self, refused⟩

theorem since (suffix : past <:+ middle) (refuses : Refuses middle now) : Refuses past now := by
  obtain ⟨earlier, rfl⟩ := suffix
  obtain ⟨events, rfl, event, member, refused⟩ := refuses
  exact ⟨events ++ earlier, (List.append_assoc _ _ _).symm, event,
    List.mem_append_left _ member, refused⟩

theorem extended (refuses : Refuses past middle) (suffix : middle <:+ now) :
    Refuses past now := by
  obtain ⟨events, rfl, event, member, refused⟩ := refuses
  obtain ⟨later, rfl⟩ := suffix
  exact ⟨later ++ events, (List.append_assoc _ _ _).symm, event,
    List.mem_append_right _ member, refused⟩

end History.Refuses

/-! ## Worlds that agree -/

/-- A kind of environment. -/
abbrev Worlds := Environment → Prop

namespace Worlds

/-- In some of these worlds a load of a file for a rank can report this. -/
def Loads (worlds : Worlds) (file : Path) (rank : UInt64) (report : LoadReport) : Prop :=
  ∃ env past, worlds env ∧ env.answer past (.load file rank) = .ok report

/-- In some of these worlds this can be the image that is allocated for a number of bytes. -/
def Allocates (worlds : Worlds) (bytes : UInt64) (image : Buffer) : Prop :=
  ∃ env past, worlds env ∧ env.answer past (.allocate .image bytes) = .ok image

/-- The image of an algorithm, if its report asks for one. -/
def Images (worlds : Worlds) (report : LoadReport) : Option Buffer → Prop
  | none => report.deviceBytes = 0
  | some image => report.deviceBytes ≠ 0 ∧ worlds.Allocates report.deviceBytes image

/-- Successful loads of one file for one rank report the same, and images of one size are the same
as far as `same` can tell. -/
structure Agree (worlds : Worlds) (same : Buffer → Buffer → Prop) : Prop where
  loads : ∀ {file rank report other}, worlds.Loads file rank report →
    worlds.Loads file rank other → report = other
  images : ∀ {bytes image other}, worlds.Allocates bytes image →
    worlds.Allocates bytes other → same image other
  refl : ∀ image, same image image

end Worlds

namespace Store

variable {worlds : Worlds} {same : Buffer → Buffer → Prop} {env : Environment}
variable {store other middle after single : Store} {history past later : History}
variable {comm : Communicator} {index : Nat} {entry : Metadata} {entries : List Metadata}
variable {handle : Handle}

/-! ## What a preparation does -/

/-- An entry is assigned its slot, into which it is loaded unless there is one already. -/
inductive Assigns (worlds : Worlds) (index : Nat) (entry : Metadata) (rank : UInt64)
    (store : Store) : Handle → Store → Prop where
  | recorded {handle : Handle} : store.handle? index rank = some handle →
      Assigns worlds index entry rank store handle store
  | loaded {handle : Handle} {others : List Handle} {report : LoadReport}
      {image : Option Buffer} :
      store.handle? index rank = none → store.free = handle :: others →
      worlds.Loads entry.file rank report → worlds.Images report image →
      Assigns worlds index entry rank store handle
        ((store.occupy others handle ⟨entry.file, rank, report⟩ image).record index rank handle)

/-- A slot is connected, unless it is. -/
inductive Connects (comm : Communicator) (handle : Handle) (store : Store) : Store → Prop where
  | linked : store.isConnected comm.id handle = true → Connects comm handle store store
  | link {algorithm : Instance} : store.isConnected comm.id handle = false →
      store.loaded.get? handle = some algorithm →
      Connects comm handle store (store.link comm.id handle)

/-- From a position on, every entry with the number of ranks of a communicator is assigned and
connected. -/
inductive Completes (worlds : Worlds) (comm : Communicator) :
    Nat → List Metadata → Store → Store → Prop where
  | nil {index : Nat} {store : Store} : Completes worlds comm index [] store store
  | unsized {index : Nat} {entry : Metadata} {entries : List Metadata} {store after : Store} :
      entry.numRanks ≠ comm.numRanks → Completes worlds comm (index + 1) entries store after →
      Completes worlds comm index (entry :: entries) store after
  | sized {index : Nat} {entry : Metadata} {entries : List Metadata}
      {store assigned connected after : Store} {handle : Handle} :
      entry.numRanks = comm.numRanks →
      Assigns worlds index entry comm.rank store handle assigned →
      Connects comm handle assigned connected →
      Completes worlds comm (index + 1) entries connected after →
      Completes worlds comm index (entry :: entries) store after

theorem ensures_load_answers (member : worlds env) (file : Path) (rank : UInt64) :
    (load file rank).Ensures env store history
      (fun handle after later => ∃ others report image, store.free = handle :: others ∧
        worlds.Loads file rank report ∧ worlds.Images report image ∧
        after = store.occupy others handle ⟨file, rank, report⟩ image ∧ history <:+ later)
      (fun _ _ later => store.free = [] ∨ Refuses history later) := by
  unfold load takeSlot provideImage
  simp only [ensures_bind, ensures_get]
  cases next : store.free with
  | nil => exact .inl rfl
  | cons handle others =>
      simp only [ensures_bind, ensures_modify, ensures_pure, ensures_ask]
      cases loaded : env.answer history (.load file rank) with
      | error reason =>
          right
          apply Refuses.cons ?_ List.suffix_rfl
          rfl
      | ok report =>
          have loads : worlds.Loads file rank report := ⟨env, history, member, loaded⟩
          simp only [ensures_bind, ensures_ite, ensures_ask, ensures_pure]
          split
          next imageless =>
            exact ⟨others, report, none, rfl, loads, imageless, rfl, List.suffix_cons _ _⟩
          next imaged =>
            cases allocated : env.answer _ (.allocate .image report.deviceBytes) with
            | ok image =>
                have images : worlds.Images report (some image) :=
                  ⟨imaged, env, _, member, allocated⟩
                refine ⟨others, report, some image, rfl, loads, images, rfl, ?_⟩
                exact List.suffix_append [_, _] history
            | error reason =>
                right
                apply Refuses.extended (.cons ?_ (List.suffix_cons _ history))
                  (List.suffix_cons _ _)
                rfl

theorem ensures_assigns (member : worlds env) (index : Nat) (entry : Metadata) (rank : UInt64) :
    (assign index entry rank).Ensures env store history
      (fun handle after _ => Assigns worlds index entry rank store handle after)
      (fun _ _ _ => True) := by
  unfold assign
  rw [ensures_bind, ensures_get]
  cases recorded : store.handle? index rank with
  | some handle => exact .recorded recorded
  | none =>
      simp only [ensures_bind, ensures_modify, ensures_pure]
      apply (ensures_load_answers member entry.file rank).weaken
      rintro handle _ _ ⟨others, report, image, next, loads, images, rfl, -⟩
      exact .loaded recorded next loads images

theorem ensures_connects (handle : Handle) (comm : Communicator) :
    (connect handle comm).Ensures env store history
      (fun _ after _ => Connects comm handle store after) (fun _ _ _ => True) := by
  unfold connect
  simp only [ensures_bind, ensures_get, ensures_ite, ensures_pure]
  split
  next linked => exact .linked linked
  next fresh =>
    cases loaded : store.loaded.get? handle with
    | none => trivial
    | some algorithm =>
        simp only [ensures_bind, ensures_ask, ensures_accepted, ensures_modify]
        cases env.answer history (.connect algorithm comm) with
        | error => trivial
        | ok => exact .link (by simpa using fresh) loaded

theorem ensures_completes (member : worlds env) (comm : Communicator) (index : Nat)
    (entries : List Metadata) :
    (prepareFrom comm index entries).Ensures env store history
      (fun _ after _ => Completes worlds comm index entries store after)
      (fun _ _ _ => True) := by
  induction entries generalizing index store history with
  | nil => exact .nil
  | cons entry others ih =>
      unfold prepareFrom
      simp only [ensures_bind, ensures_ite]
      split
      next sized =>
        apply (ensures_assigns member index entry comm.rank).weaken
        intro handle assigned _ assigns
        apply (ensures_connects handle comm).weaken
        intro _ connected _ connects
        exact (ih (index + 1)).weaken fun _ _ _ completes =>
          .sized sized assigns connects completes
      next unsized =>
        exact (ih (index + 1)).weaken fun _ _ _ completes => .unsized unsized completes

theorem Assigns.eq_of_recorded {rank : UInt64} {slot : Handle}
    (assigns : Assigns worlds index entry rank store slot after)
    (recorded : store.handle? index rank = some handle) : slot = handle ∧ after = store := by
  cases assigns with
  | recorded found =>
      rw [recorded] at found
      cases found
      exact ⟨rfl, rfl⟩
  | loaded unrecorded =>
      rw [recorded] at unrecorded
      cases unrecorded

theorem Connects.eq_of_linked (connects : Connects comm handle store after)
    (linked : store.isConnected comm.id handle = true) : after = store := by
  cases connects with
  | linked => rfl
  | link unlinked =>
      rw [linked] at unlinked
      cases unlinked

namespace Completes

theorem append {first second : List Metadata}
    (before : Completes worlds comm index first store middle)
    (behind : Completes worlds comm (index + first.length) second middle after) :
    Completes worlds comm index (first ++ second) store after := by
  induction before with
  | nil => exact behind
  | unsized unsized _ ih =>
      rw [List.length_cons, Nat.add_comm _ 1, ← Nat.add_assoc] at behind
      exact .unsized unsized (ih behind)
  | sized sized assigns connects _ ih =>
      rw [List.length_cons, Nat.add_comm _ 1, ← Nat.add_assoc] at behind
      exact .sized sized assigns connects (ih behind)

/-- Entries that are served already are passed over. -/
theorem behind {first second : List Metadata} (serves : store.ServesFrom comm index first)
    (completes : Completes worlds comm index (first ++ second) store after) :
    Completes worlds comm (index + first.length) second store after := by
  induction first generalizing index with
  | nil => exact completes
  | cons entry others ih =>
      rw [List.length_cons, Nat.add_comm _ 1, ← Nat.add_assoc]
      cases completes with
      | unsized _ rest => exact ih serves.tail rest
      | sized sized assigns connects rest =>
          obtain ⟨handle, recorded, linked⟩ := serves 0 entry rfl sized
          obtain ⟨rfl, rfl⟩ := assigns.eq_of_recorded recorded
          obtain rfl := connects.eq_of_linked linked
          exact ih serves.tail rest

/-- An entry that was assigned before is as good as one that is assigned now. -/
theorem of_assigned (sized : entry.numRanks = comm.numRanks)
    (assigns : Assigns worlds index entry comm.rank store handle middle)
    (recorded : middle.handle? index comm.rank = some handle)
    (completes : Completes worlds comm index (entry :: entries) middle after) :
    Completes worlds comm index (entry :: entries) store after := by
  cases completes with
  | unsized unsized => exact absurd sized unsized
  | sized _ again connects rest =>
      obtain ⟨rfl, rfl⟩ := again.eq_of_recorded recorded
      exact .sized sized assigns connects rest

section Halves

variable {stop : Nat} (found : entries[stop]? = some entry)

include found

theorem halves : entries = entries.take stop ++ entry :: entries.drop (stop + 1) ∧
    0 + (entries.take stop).length = stop := by
  obtain ⟨within, rfl⟩ := List.getElem?_eq_some_iff.mp found
  constructor
  · rw [← List.drop_eq_getElem_cons within, List.take_append_drop]
  · rw [Nat.zero_add, List.length_take_of_le (Nat.le_of_lt within)]

theorem of_halves (before : Completes worlds comm 0 (entries.take stop) store middle)
    (rest : Completes worlds comm stop (entry :: entries.drop (stop + 1)) middle after) :
    Completes worlds comm 0 entries store after := by
  obtain ⟨whole, length⟩ := halves found
  rw [whole]
  apply before.append
  rwa [length]

theorem from_served (serves : store.ServesFrom comm 0 (entries.take stop))
    (completes : Completes worlds comm 0 entries store after) :
    Completes worlds comm stop (entry :: entries.drop (stop + 1)) store after := by
  obtain ⟨whole, length⟩ := halves found
  rw [whole] at completes
  have rest := completes.behind serves
  rwa [length] at rest

end Halves

/-- What completes the store that a failed preparation has left completes the one in which it
started. -/
theorem of_halted {catalog : Catalog} {stop : Nat} (member : worlds env)
    (orderly : store.Orderly catalog.algorithms)
    (halted : Halted env comm 0 catalog.algorithms store history stop middle)
    (completes : Completes worlds comm 0 catalog.algorithms middle after) :
    Completes worlds comm 0 catalog.algorithms store after := by
  cases halted with
  | unloaded found sized prepared unrecorded =>
      obtain ⟨-, -, serves⟩ := prepared_before orderly prepared
      have before := (ensures_completes member comm 0 _).ended prepared
      exact before.of_halves found (from_served found serves completes)
  | unlinked found sized prepared assigned unconnected =>
      -- The slot that the entry has been assigned is the one that the next attempt finds.
      obtain ⟨reached, -, serves⟩ := prepared_before orderly prepared
      have before := (ensures_completes member comm 0 _).ended prepared
      rw [Nat.zero_add] at assigned
      have assigns := (ensures_assigns member _ _ _).ended assigned
      obtain ⟨grown, recorded⟩ := (ensures_assign comm.rank found).ended assigned
      have extended := (growing_sound grown reached.sound).2
      have rest := from_served found (serves.mono extended) completes
      exact before.of_halves found (rest.of_assigned sized assigns recorded)

end Completes

/-! ## Stores that are alike -/

/-- Two stores differ in nothing but their images, which sit in the same slots and are the same as
far as `same` can tell. -/
structure Resembles (same : Buffer → Buffer → Prop) (store other : Store) : Prop where
  free : other.free = store.free
  assigned : other.assigned = store.assigned
  loaded : other.loaded = store.loaded
  connected : other.connected = store.connected
  needsProxy : other.needsProxy = store.needsProxy
  needsFence : other.needsFence = store.needsFence
  images : List.Forall₂ (fun entry place => entry.1 = place.1 ∧ same entry.2 place.2)
    store.images.entries other.images.entries

namespace Resembles

theorem refl (agree : worlds.Agree same) (store : Store) : store.Resembles same store where
  free := rfl
  assigned := rfl
  loaded := rfl
  connected := rfl
  needsProxy := rfl
  needsFence := rfl
  images := List.forall₂_same.mpr fun entry _ => ⟨rfl, agree.refl entry.2⟩

theorem handle?_eq (like : store.Resembles same other) (index : Nat) (rank : UInt64) :
    other.handle? index rank = store.handle? index rank := by
  unfold handle?
  rw [like.assigned]

theorem isConnected_eq (like : store.Resembles same other) (id : UInt32) (handle : Handle) :
    other.isConnected id handle = store.isConnected id handle := by
  unfold isConnected
  rw [like.connected]

theorem record (like : store.Resembles same other) (index : Nat) (rank : UInt64)
    (handle : Handle) :
    (store.record index rank handle).Resembles same (other.record index rank handle) where
  free := like.free
  assigned := congrArg (·.insert (index, rank) handle) like.assigned
  loaded := like.loaded
  connected := like.connected
  needsProxy := like.needsProxy
  needsFence := like.needsFence
  images := like.images

theorem link (like : store.Resembles same other) (id : UInt32) (handle : Handle) :
    (store.link id handle).Resembles same (other.link id handle) where
  free := like.free
  assigned := like.assigned
  loaded := like.loaded
  connected := congrArg ((id, handle) :: ·) like.connected
  needsProxy := like.needsProxy
  needsFence := like.needsFence
  images := like.images

/-- An algorithm that is put into the same slot of both, with its image in each. -/
theorem occupy (like : store.Resembles same other) (agree : worlds.Agree same)
    (others : List Handle) (handle : Handle) {algorithm : Instance} {image picture : Option Buffer}
    (images : worlds.Images algorithm.report image)
    (pictures : worlds.Images algorithm.report picture) :
    (store.occupy others handle algorithm image).Resembles same
      (other.occupy others handle algorithm picture) where
  free := rfl
  assigned := like.assigned
  loaded := congrArg (·.insert handle algorithm) like.loaded
  connected := like.connected
  needsProxy := congrArg (· || algorithm.report.needsProxy) like.needsProxy
  needsFence := congrArg (· || algorithm.report.needsFence) like.needsFence
  images := by
    cases image with
    | none =>
        cases picture with
        | none => exact like.images
        | some => exact absurd images pictures.1
    | some image =>
        cases picture with
        | none => exact absurd pictures images.1
        | some picture =>
            apply List.rel_append
            · apply List.rel_filter _ like.images
              rintro entry place ⟨key, -⟩
              simp [key]
            · exact .cons ⟨rfl, agree.images images.2 pictures.2⟩ .nil

end Resembles

/-! ## Where nothing is refused -/

section Unrefused

variable (agree : worlds.Agree same) (member : worlds env)

include agree member

theorem Resembles.ensures_load (like : store.Resembles same other) {others : List Handle}
    {file : Path} {rank : UInt64} {report : LoadReport} {image : Option Buffer}
    (next : store.free = handle :: others) (loads : worlds.Loads file rank report)
    (images : worlds.Images report image) :
    (load file rank).Ensures env other past
      (fun slot single later => slot = handle ∧
        (store.occupy others handle ⟨file, rank, report⟩ image).Resembles same single ∧
        past <:+ later)
      (fun _ _ later => Refuses past later) := by
  have free : other.free = handle :: others := like.free.trans next
  apply (ensures_load_answers member file rank).mono
  · rintro slot _ later ⟨rest, found, picture, again, loadsToo, pictures, rfl, suffix⟩
    rw [free] at again
    cases again
    cases agree.loads loads loadsToo
    exact ⟨rfl, like.occupy agree others handle images pictures, suffix⟩
  · rintro _ _ _ (full | refuses)
    · rw [free] at full
      cases full
    · exact refuses

theorem Assigns.ensures {rank : UInt64}
    (assigns : Assigns worlds index entry rank store handle after)
    (like : store.Resembles same other) :
    (assign index entry rank).Ensures env other past
      (fun slot single later => slot = handle ∧ after.Resembles same single ∧ past <:+ later)
      (fun _ _ later => Refuses past later) := by
  unfold assign
  rw [ensures_bind, ensures_get, like.handle?_eq]
  cases assigns with
  | recorded recorded =>
      rw [recorded]
      exact ⟨rfl, like, List.suffix_rfl⟩
  | loaded unrecorded next loads images =>
      rw [unrecorded]
      simp only [ensures_bind, ensures_modify, ensures_pure]
      apply (like.ensures_load agree member next loads images).mono
      · rintro _ single later ⟨rfl, reached, suffix⟩
        exact ⟨rfl, reached.record index rank _, suffix⟩
      · exact fun _ _ _ refuses => refuses

omit agree member in
theorem Connects.ensures (connects : Connects comm handle store after)
    (like : store.Resembles same other) :
    (connect handle comm).Ensures env other past
      (fun _ single later => after.Resembles same single ∧ past <:+ later)
      (fun _ _ later => Refuses past later) := by
  unfold connect
  simp only [ensures_bind, ensures_get, ensures_ite, ensures_pure, like.isConnected_eq]
  cases connects with
  | linked linked =>
      rw [if_pos linked]
      exact ⟨like, List.suffix_rfl⟩
  | @link algorithm unlinked loaded =>
      rw [unlinked, like.loaded, loaded]
      simp only [Bool.false_eq_true, if_false, ensures_bind, ensures_ask, ensures_accepted,
        ensures_modify]
      cases env.answer past (.connect algorithm comm) with
      | ok => exact ⟨like.link comm.id handle, List.suffix_cons _ past⟩
      | error reason =>
          apply Refuses.cons ?_ List.suffix_rfl
          rfl

/-- A preparation does what completes a store to every store that is alike, unless a call is
refused. -/
theorem Completes.ensures (completes : Completes worlds comm index entries store after)
    (like : store.Resembles same other) :
    (prepareFrom comm index entries).Ensures env other past
      (fun _ single later => after.Resembles same single ∧ past <:+ later)
      (fun _ _ later => Refuses past later) := by
  induction completes generalizing other past with
  | nil => exact ⟨like, List.suffix_rfl⟩
  | unsized unsized _ ih =>
      rw [prepareFrom, if_neg unsized]
      exact ih like
  | sized sized assigns connects _ ih =>
      rw [prepareFrom, if_pos sized]
      simp only [ensures_bind]
      apply (assigns.ensures agree member like).mono
      · rintro _ assigned middle ⟨rfl, likeAssigned, suffix⟩
        apply (connects.ensures likeAssigned).mono
        · rintro _ connected now ⟨likeConnected, further⟩
          have reached := suffix.trans further
          apply (ih likeConnected).mono
          · rintro _ single later ⟨likeSingle, last⟩
            exact ⟨likeSingle, reached.trans last⟩
          · exact fun _ _ _ refuses => refuses.since reached
        · exact fun _ _ _ refuses => refuses.since suffix
      · exact fun _ _ _ refuses => refuses

end Unrefused

/-! ## Stores that are reached, and attempts in a row -/

/-- The stores that calls over a catalog make of an empty one whose slots are free, whether they
succeed or fail. -/
inductive Reached (catalog : Catalog) : Store → Prop where
  | fresh : Reached catalog ({} : Store).refill
  | load {store : Store} (env : Environment) (history : History) (file : Path) (rank : UInt64) :
      Reached catalog store → Reached catalog ((load file rank).run env store history).state
  | connect {store : Store} (env : Environment) (history : History) (handle : Handle)
      (comm : Communicator) :
      Reached catalog store → Reached catalog ((connect handle comm).run env store history).state
  | prepare {store : Store} (env : Environment) (history : History) (comm : Communicator) :
      Reached catalog store → Reached catalog ((prepare catalog comm).run env store history).state

/-- Attempts in a row to prepare a communicator, of which only the last one succeeds. -/
inductive Retries (worlds : Worlds) (catalog : Catalog) (comm : Communicator) :
    Store → Store → Prop where
  | succeeds {env : Environment} {store after : Store} {history later : History} :
      worlds env → (prepare catalog comm).run env store history = ⟨.ok (), after, later⟩ →
      Retries worlds catalog comm store after
  | fails {env : Environment} {error : Error} {store middle after : Store}
      {history later : History} :
      worlds env → (prepare catalog comm).run env store history = ⟨.error error, middle, later⟩ →
      Retries worlds catalog comm middle after → Retries worlds catalog comm store after

variable {catalog : Catalog}

theorem keeps_orderly_load (algorithms : List Metadata) (file : Path) (rank : UInt64) :
    (load file rank).Keeps fun store _ => store.Orderly algorithms := by
  intro env store history before
  apply (ensures_load algorithms file rank).mono
  · rintro handle _ _ ⟨others, algorithm, image, next, -, -, rfl, rfl⟩
    have moved : Growth algorithms store history (store.occupy others handle algorithm image)
      (algorithm.loading image ++ history) := .load algorithm image next
    exact growing_orderly (.single moved) before
  · rintro _ _ _ ⟨rfl, -⟩
    exact before

theorem keeps_orderly_connect (algorithms : List Metadata) (handle : Handle)
    (comm : Communicator) :
    (connect handle comm).Keeps fun store _ => store.Orderly algorithms := by
  intro env store history before
  apply (ensures_connect algorithms handle comm).mono
  · exact fun _ _ _ connected => growing_orderly connected.1 before
  · rintro _ _ _ ⟨rfl, -⟩
    exact before

theorem keeps_orderly_prepare (catalog : Catalog) (comm : Communicator) :
    (prepare catalog comm).Keeps fun store _ => store.Orderly catalog.algorithms := by
  intro env store history before
  apply (ensures_prepare catalog comm before.sound).mono
  · exact fun _ _ _ prepared => growing_orderly prepared.1 before
  · exact fun _ _ _ grown => growing_orderly grown before

theorem Reached.orderly (reached : store.Reached catalog) :
    store.Orderly catalog.algorithms := by
  induction reached with
  | fresh =>
      have vacant : ({} : Store).Vacant := ⟨rfl, rfl, rfl, rfl⟩
      have distinct : ({} : Store).refill.Distinct := by
        intro index other rank place handle found
        cases found
      exact ⟨vacant.refill_sound catalog.algorithms, distinct⟩
  | load env history file rank _ ih =>
      exact (keeps_orderly_load _ file rank env _ history ih).outcome
  | connect env history handle comm _ ih =>
      exact (keeps_orderly_connect _ handle comm env _ history ih).outcome
  | prepare env history comm _ ih =>
      exact (keeps_orderly_prepare catalog comm env _ history ih).outcome

/-- Attempts in a row complete the store in which the first one started. -/
theorem Retries.completes (retries : Retries worlds catalog comm store after)
    (orderly : store.Orderly catalog.algorithms) :
    Completes worlds comm 0 catalog.algorithms store after := by
  -- From the last attempt to the first; that a store is orderly goes the other way.
  induction retries with
  | succeeds member ended => exact (ensures_completes member comm 0 _).ended ended
  | @fails env _ store middle _ history _ member failed _ ih =>
      have orderlyMiddle : middle.Orderly catalog.algorithms :=
        (keeps_orderly_prepare catalog comm env store history orderly).broken failed
      obtain ⟨stop, halted⟩ := (ensures_prepareFrom_halts comm 0 catalog.algorithms).broken failed
      exact .of_halted member orderly halted (ih orderlyMiddle)

/-- A preparation retains what was there and provides for every entry of its size, or it is
interrupted at one of these.  Attempts in a row, of which the last one succeeds, leave what a
single one leaves where nothing is refused.

Device buffers are compared by `same`, since another attempt can be given another address. -/
theorem preparation_resumable (reached : store.Reached catalog) (comm : Communicator) :
    (∀ env history, (prepare catalog comm).Ensures env store history
      (fun _ after _ => store.Retains after ∧ ∀ index entry, catalog.get? index = some entry →
        entry.numRanks = comm.numRanks → after.Provides comm index entry)
      (fun _ after _ => ∃ stop entry,
        Interrupted env catalog comm store history after stop entry)) ∧
    ∀ worlds same after, worlds.Agree same → Retries worlds catalog comm store after →
      ∀ env past, worlds env → (prepare catalog comm).Ensures env store past
        (fun _ single _ => after.Resembles same single) (fun _ _ later => Refuses past later) := by
  have orderly := reached.orderly
  constructor
  · exact fun env history => ensures_prepare_provides comm orderly
  · intro worlds same after agree retries env past member
    have completes := retries.completes orderly
    apply (completes.ensures agree member (.refl agree store)).mono
    · exact fun _ _ _ like => like.1
    · exact fun _ _ _ refuses => refuses

end Store

namespace Sample

/-- Two algorithms for two ranks. -/
def pair : Catalog := { algorithms := [algorithm .allReduce, algorithm .allGather] }

/-- A world where images are wherever there is room, and which is busy at first. -/
def busy : Environment :=
  .inOrder fun history call =>
    match call with
    | .load _ _ => .ok { deviceBytes := 64 }
    | .connect _ _ => if history.length < 3 then .error "busy" else .ok ()
    | call => (Environment.obliging (algorithm .allReduce)).answer history call

/-- An attempt to prepare both algorithms. -/
def attempt (store : Store) (history : History) : Outcome Store Unit :=
  (Store.prepare pair (comm 1 0)).run busy store history

/-- An attempt in an empty store, and another one in the store that it leaves. -/
def interrupted : Outcome Store Unit := attempt ({} : Store).refill []

def resumed : Outcome Store Unit := attempt interrupted.state interrupted.history

theorem busy_agrees : Worlds.Agree (Eq busy) fun image other => image.size = other.size where
  loads := by
    rintro file rank report other ⟨_, past, rfl, loaded⟩ ⟨_, _, rfl, again⟩
    cases loaded
    cases again
    rfl
  images := by
    rintro bytes image other ⟨_, past, rfl, allocated⟩ ⟨_, _, rfl, again⟩
    cases allocated
    cases again
    rfl
  refl _ := rfl

/-- The first attempt is refused a connection and the second one succeeds.  It leaves what a
single one would, which is not refused anything, but for the places of the images. -/
theorem resumed_alike :
    (∃ stop entry, Store.Interrupted busy pair (comm 1 0) ({} : Store).refill []
      interrupted.state stop entry) ∧
    resumed.state.Resembles (fun image other => image.size = other.size)
      (attempt ({} : Store).refill interrupted.history).state ∧
    resumed.state.images.entries ≠
      (attempt ({} : Store).refill interrupted.history).state.images.entries := by
  have refused : interrupted.result = .error (.collaborator "busy") := by decide +kernel
  have ended : resumed.result = .ok () := by decide +kernel
  have single : (attempt ({} : Store).refill interrupted.history).result = .ok () := by
    decide +kernel
  have first : attempt ({} : Store).refill [] =
      ⟨.error (.collaborator "busy"), interrupted.state, interrupted.history⟩ :=
    congrArg (Outcome.mk · interrupted.state interrupted.history) refused
  have second : attempt interrupted.state interrupted.history =
      ⟨.ok (), resumed.state, resumed.history⟩ :=
    congrArg (Outcome.mk · resumed.state resumed.history) ended
  have retries : Store.Retries (Eq busy) pair (comm 1 0) ({} : Store).refill resumed.state :=
    .fails rfl first (.succeeds rfl second)
  have empty : Store.Reached pair ({} : Store).refill := .fresh
  obtain ⟨prepares, resumes⟩ := Store.preparation_resumable empty (comm 1 0)
  refine ⟨(prepares busy []).failure refused, ?_, by decide +kernel⟩
  exact (resumes (Eq busy) _ _ busy_agrees retries busy interrupted.history rfl).result single

end Sample

end Collective
