import Collective.Proofs.Status.Prepare

/-!
# What calls do to the status

Every call is a chain of moves, ended by a release where a first attempt fails or
everything is shut down.  `Status.Effect` says so, and a settled status is settled
again after every call.
-/

namespace Collective.Status

open Procedure History

variable {env : Environment} {status after : Status} {history later : History}

/-- A chain of moves that leaves the status up or empty. -/
structure Grown (move : Status → History → Status → History → Prop) (status : Status)
    (history : History) (after : Status) (later : History) : Prop where
  along : Along move status history after later
  settled : after.ready = false → after.Dormant

/-- What a call does to the status: it grows, or it is released in the end. -/
inductive Effect (move : Status → History → Status → History → Prop) (status : Status)
    (history : History) (after : Status) (later : History) : Prop where
  | grown : Grown move status history after later → Effect move status history after later
  | released {middle : Status} {past : History} : Along move status history middle past →
      Released middle past after later → Effect move status history after later

/-- A status that is up in the end has not become empty. -/
theorem Grown.ofUp {move : Status → History → Status → History → Prop}
    (along : Along move status history after later) (up : after.ready = true) :
    Grown move status history after later := by
  refine ⟨along, fun closed => ?_⟩
  rw [up] at closed
  cases closed

/-- Nothing was done but to ask. -/
theorem Settled.asked (settled : status.Settled) (asked : Asked status history after later) :
    Grown Growth status history after later := by
  obtain ⟨rfl, quiet⟩ := asked
  exact ⟨quiet_grows _ quiet, settled.2⟩

/-! ## Release -/

theorem ensures_freeHeld (use : BufferUse) (held : Option Buffer) :
    (freeHeld use held).Ensures env status history
      (fun result after later => after = status ∧
        Gives env history (held.toList.map (.free use)) result later)
      (fun _ _ _ => False) := by
  unfold freeHeld
  cases held with
  | none => exact ⟨rfl, .nil history⟩
  | some buffer =>
      simp only [ensures_bind, ensures_ask, ensures_pure]
      refine ⟨trivial, ?_⟩
      rw [← verdict_free use buffer]
      exact .single _ history

/-- The selector was dismissed, and with it the catalog unless an external scheduler decided. -/
def Dismisses (status : Status) (env : Environment) (history : History)
    (result : Except Error Unit) (after : Status) (later : History) : Prop :=
  after = { status with
    selector := none
    catalog := if status.isExternal then status.catalog else {} } ∧
  Gives env history (stopping status.selector) result later

theorem ensures_dismiss {selector : Option Selector} (same : status.selector = selector) :
    (dismiss selector).Ensures env status history
      (fun _ => status.Dismisses env history (.ok ()))
      (fun error => status.Dismisses env history (.error error)) := by
  unfold dismiss Dismisses isExternal
  rw [same]
  cases selector with
  | none => exact ⟨rfl, .nil history⟩
  | some selector =>
      cases selector with
      | internal => exact ⟨rfl, .nil history⟩
      | external scheduler =>
          have given : Gives env history [.stopExternal scheduler] _ _ := .single _ history
          rw [verdict_stop] at given
          unfold External.stop External.checked
          simp only [ensures_bind, ensures_modify, ensures_ask, ensures_ite, ensures_pure,
            ensures_throw]
          split
          next accepted =>
            rw [if_pos accepted] at given
            exact ⟨rfl, given⟩
          next refused =>
            rw [if_neg refused] at given
            exact ⟨rfl, given⟩

theorem ensures_releaseStore :
    (onStore Store.releaseAll).attempt.Ensures env status history
      (fun result after later => ∃ store, status.store.GivesBack env history result store later ∧
        after = { status with store })
      (fun _ _ _ => False) := by
  unfold onStore
  rw [ensures_attempt, ensures_within]
  apply Store.ensures_releaseAll.mono
  · exact fun _ store _ gone => ⟨store, gone, rfl⟩
  · exact fun _ store _ gone => ⟨store, gone, rfl⟩

/-- Everything was given back, each thing once, and the first fault makes the result. -/
def GivesBack (status : Status) (env : Environment) (history : History)
    (result : Except Error Unit) (after : Status) (later : History) : Prop :=
  ∃ loaded images, loaded.Perm status.store.loaded.entries ∧
    images.Perm status.store.images.entries ∧
    after = status.emptied ((loaded.map Prod.fst).reverse ++ status.store.free) ∧
    Gives env history (Store.returning loaded images ++ status.returning) result later

theorem GivesBack.released {result : Except Error Unit}
    (gone : status.GivesBack env history result after later) :
    Released status history after later := by
  obtain ⟨loaded, images, loadedPerm, imagesPerm, emptied, given⟩ := gone
  exact ⟨loaded, images, loadedPerm, imagesPerm, emptied, given.adds⟩

/-- However a release ends, it has given everything back, once it is marked as such. -/
theorem ensures_attemptRelease :
    release.attempt.Ensures env status history
      (fun result after later =>
        status.GivesBack env history result { after with ready := false } later ∧
          after.ready = status.ready)
      (fun _ _ _ => False) := by
  unfold release
  rw [ensures_attempt, ensures_bind]
  refine ensures_releaseStore.mono ?_ (fun _ _ _ never => never.elim)
  rintro stored _ past ⟨_, ⟨loaded, images, loadedPerm, imagesPerm, rfl, returned⟩, rfl⟩
  simp only [ensures_bind, ensures_get, ensures_modify]
  refine (ensures_freeHeld .scratch _).mono ?_ (fun _ _ _ never => never.elim)
  rintro scratch _ past ⟨rfl, scratchFreed⟩
  refine (ensures_freeHeld .syncFlags _).mono ?_ (fun _ _ _ never => never.elim)
  rintro flags _ past ⟨rfl, flagsFreed⟩
  refine (Ensures.attempted (ensures_dismiss ?_)).mono ?_ (fun _ _ _ failed => failed)
  · rfl
  rintro dismissed _ later ⟨rfl, stopped⟩
  have given : Gives env history (Store.returning loaded images ++ status.returning)
      (Store.earlier stored (Store.earlier scratch (Store.earlier flags dismissed))) later := by
    have parts := returned.trans (scratchFreed.trans (flagsFreed.trans stopped))
    simpa [Status.returning] using parts
  generalize Store.earlier stored (Store.earlier scratch (Store.earlier flags dismissed)) =
    result at given ⊢
  cases result with
  | ok => exact ⟨⟨loaded, images, loadedPerm, imagesPerm, rfl, given⟩, rfl⟩
  | error error => exact ⟨⟨loaded, images, loadedPerm, imagesPerm, rfl, given⟩, rfl⟩

theorem ensures_release :
    let gone := fun (after : Status) later =>
      Released status history { after with ready := false } later ∧ after.ready = status.ready
    release.Ensures env status history (fun _ => gone) (fun _ => gone) := by
  intro gone
  have released := (ensures_attempt release).mp (@ensures_attemptRelease env status history)
  exact released.mono (fun _ _ _ ended => ⟨ended.1.released, ended.2⟩)
    (fun _ _ _ ended => ⟨ended.1.released, ended.2⟩)

/-- To dismiss the scheduler of a dormant status is to release all it holds. -/
theorem Dormant.released (dormant : status.Dormant)
    (stopped : Adds history (stopping status.selector) later) :
    Released status history
      { status with
        selector := none
        catalog := if status.isExternal then status.catalog else {} } later := by
  obtain ⟨selector, catalog, store, scratch, syncFlags, workIndex, lastStream, ready⟩ := status
  obtain ⟨free, assigned, loaded, images, connected, needsProxy, needsFence⟩ := store
  obtain ⟨closed, ⟨noneLoaded, noImages, noneAssigned, noneConnected⟩, noScratch, noFlags,
    noStream, -, -⟩ := dormant
  dsimp only at *
  subst closed noneLoaded noImages noneAssigned noneConnected noScratch noFlags noStream
  refine ⟨[], [], .nil, .nil, rfl, ?_⟩
  simpa [Store.returning, Status.returning] using stopped

/-! ## Calls -/

/-- A first attempt that fails is undone. -/
theorem ensures_bringUp (config : Config) (comm : Communicator) (settled : status.Settled) :
    (bringUp config comm).Ensures env status history
      (fun needed after later => Grown Growth status history after later ∧
        after.ready = true ∧ (after.selector = some .internal → after.Hosts comm needed))
      (fun _ after later => Effect Growth status history after later ∧
        after.ready = status.ready) := by
  unfold bringUp
  simp only [ensures_bind, ensures_get, ensures_ite, ensures_tryCatch, ensures_throw]
  split
  next ready =>
    refine (ensures_prepare config comm settled).mono ?_ ?_
    · rintro _ _ _ ⟨grown, up, hosts⟩
      exact ⟨.ofUp grown up, up, hosts⟩
    · rintro _ _ _ ⟨grown, same⟩
      exact ⟨.grown (.ofUp grown (same.trans ready)), same⟩
  next closed =>
    have down : status.ready = false := by simpa using closed
    refine (ensures_prepare config comm settled).mono ?_ ?_
    · rintro _ _ _ ⟨grown, up, hosts⟩
      exact ⟨.ofUp grown up, up, hosts⟩
    · rintro _ middle _ ⟨grown, same⟩
      refine (Ensures.attempt ensures_release).mono ?_ (fun _ _ _ failed => failed)
      rintro _ after _ ⟨released, sameReady⟩
      have still : after.ready = false := sameReady.trans (same.trans down)
      have marked : { after with ready := false } = after := by rw [← still]
      rw [marked] at released
      exact ⟨.released grown released, still.trans down.symm⟩

theorem ensures_shutDown (settled : status.Settled) :
    let shut := fun after later =>
      Effect Growth status history after later ∧ after.ready = false
    shutDown.Ensures env status history (fun _ => shut) (fun _ => shut) := by
  intro shut
  unfold shutDown
  simp only [ensures_bind, ensures_get, ensures_ite, ensures_pure]
  split
  next ready =>
    refine (Ensures.attempt ensures_release).mono ?_ (fun _ _ _ failed => failed)
    rintro result after _ ⟨released, _⟩
    rw [ensures_modify]
    exact ensures_ofExcept_of result ⟨.released .refl released, rfl⟩
  next closed =>
    have dormant := settled.2 (by simpa using closed)
    split
    next chosen =>
      refine (ensures_dismiss rfl).mono ?_ ?_
      · rintro _ _ _ ⟨rfl, stopped⟩
        exact ⟨.released .refl (dormant.released stopped.adds), dormant.closed⟩
      · rintro _ _ _ ⟨rfl, stopped⟩
        exact ⟨.released .refl (dormant.released stopped.adds), dormant.closed⟩
    next => exact ⟨.grown ⟨.refl, settled.2⟩, dormant.closed⟩

/-- The status grows, and launches stay as possible as they were. -/
def GrownAlike (status : Status) (history : History) (after : Status) (later : History) : Prop :=
  Grown Growth status history after later ∧ after.ready = status.ready

theorem Settled.askedAlike (settled : status.Settled)
    (asked : Asked status history after later) : GrownAlike status history after later :=
  ⟨settled.asked asked, by rw [asked.1]⟩

theorem ensures_install (key : Nat) (settled : status.Settled) :
    (install (.installed key)).Ensures env status history
      (fun _ => GrownAlike status history) (fun _ => GrownAlike status history) := by
  unfold install
  simp only [ensures_bind, ensures_get, ensures_ite, ensures_throw, ensures_modify]
  split
  next => exact settled.askedAlike (.done status history)
  next unchosen =>
    have none : status.selector = none := by simpa using unchosen
    refine (External.ensures_start (.installed key)).mono ?_ (fun _ _ _ => settled.askedAlike)
    rintro _ _ later ⟨rfl, quiet⟩
    refine ⟨⟨.step (quiet_grows _ quiet) (.choose _ none), fun closed => ?_⟩, rfl⟩
    have dormant := settled.2 closed
    exact { dormant with selector := .inr ⟨key, rfl⟩ }

theorem ensures_loadFile (file : Path) (rank : UInt64) (settled : status.Settled) :
    (load file rank).Ensures env status history
      (fun _ => GrownAlike status history) (fun _ => GrownAlike status history) := by
  unfold load onStore
  simp only [ensures_bind, ensures_get, ensures_ite, ensures_throw, ensures_within]
  split
  next => exact settled.askedAlike (.done status history)
  next opened =>
    have up : status.ready = true := by simpa using opened
    have sound := settled.1.sound up
    refine (Store.ensures_load status.catalog.algorithms file rank).mono ?_ ?_
    · rintro handle _ later ⟨others, algorithm, image, next, -, -, rfl, rfl⟩
      exact ⟨.ofUp (store_grows sound (.single (.load algorithm image next))) up, rfl⟩
    · rintro _ _ later ⟨rfl, grown⟩
      exact ⟨.ofUp (store_grows sound grown) up, rfl⟩

theorem ensures_connectSlot (handle : Handle) (comm : Communicator)
    (settled : status.Settled) :
    (onStore (Store.connect handle comm)).Ensures env status history
      (fun _ => GrownAlike status history) (fun _ => GrownAlike status history) := by
  unfold onStore
  rw [ensures_within]
  by_cases ready : status.ready = true
  · have sound := settled.1.sound ready
    refine (Store.ensures_connect status.catalog.algorithms handle comm).mono ?_ ?_
    · rintro _ _ _ ⟨grown, _⟩
      exact ⟨.ofUp (store_grows sound grown) ready, rfl⟩
    · rintro _ _ _ ⟨rfl, grown⟩
      exact ⟨.ofUp (store_grows sound grown) ready, rfl⟩
  · -- An empty store has nothing to connect, so nothing is called.
    have vacant := (settled.2 (by simpa using ready)).store
    unfold Store.connect
    simp only [ensures_bind, ensures_get, Store.isConnected, vacant.connected, vacant.loaded,
      Table.get?_empty]
    exact ⟨⟨.refl, settled.2⟩, rfl⟩

/-- The catalog's choice is a slot of its first entry that accepts the request. -/
theorem ensures_selectSlot {asCaller : Bool} (request : Request) :
    (select asCaller request).Ensures env status history
      (fun chosen after later => Asked status history after later ∧
        ∀ handle, chosen = some handle → status.isExternal = false →
          ∃ index, status.catalog.firstMatch? request = some index ∧
            status.store.handle? index request.rank = some handle)
      (fun _ after later => Asked status history after later ∧ status.isExternal = true) := by
  unfold select
  simp only [ensures_bind, ensures_get]
  cases chosen : status.selector with
  | none => exact ⟨.done _ _, by simp⟩
  | some selector =>
      cases selector with
      | internal =>
          cases found : status.catalog.firstMatch? request with
          | none => exact ⟨.done _ _, by simp⟩
          | some index =>
              refine ⟨.done _ _, fun handle recorded _ => ⟨index, rfl, recorded⟩⟩
      | external scheduler =>
          have foreign : status.isExternal = true := by simp [isExternal, chosen]
          refine (External.ensures_select scheduler request).mono ?_ ?_
          · intro _ _ _ asked
            refine ⟨asked, fun handle _ internal => ?_⟩
            rw [foreign] at internal
            cases internal
          · exact fun _ _ _ asked => ⟨asked, foreign⟩

end Collective.Status
