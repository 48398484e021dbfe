import Collective.Proofs.Status.Growth

/-!
# How the status is prepared

Questions change nothing and are quiet.  What prepares the status for a communicator is
a chain of moves: a selector is chosen, the catalog is filled, the store serves the
communicator, and launches become possible.
-/

namespace Collective

open Procedure History

/-- The state is as it was, and the calls in between were quiet. -/
def Asked {S : Type} (state : S) (history : History) (after : S) (later : History) : Prop :=
  after = state ∧ Quiet history later

namespace Asked

variable {S : Type} {state after : S} {history later : History}

theorem done (state : S) (history : History) : Asked state history state history :=
  ⟨rfl, .refl history⟩

theorem ask (event : Event) (quiet : event.quiet = true) (state : S) (history : History) :
    Asked state history state (event :: history) :=
  ⟨rfl, .cons quiet history⟩

theorem trans {middle : S} {past : History} (before : Asked state history middle past)
    (rest : Asked middle past after later) : Asked state history after later := by
  obtain ⟨rfl, first⟩ := before
  obtain ⟨rfl, second⟩ := rest
  exact ⟨rfl, first.trans second⟩

end Asked

section Questions

variable {S : Type} {env : Environment} {state : S} {history : History}

theorem External.ensures_start (scheduler : External) :
    (scheduler.start : Procedure S Unit).Ensures env state history
      (fun _ => Asked state history) (fun _ => Asked state history) := by
  unfold External.start External.checked
  simp only [ensures_bind, ensures_ask, ensures_ite, ensures_pure, ensures_throw]
  split
  · exact .ask _ rfl state history
  · exact .ask _ rfl state history

theorem External.ensures_select (scheduler : External) {asCaller : Bool} (request : Request) :
    (scheduler.select asCaller request : Procedure S (Option Handle)).Ensures env state history
      (fun _ => Asked state history) (fun _ => Asked state history) := by
  unfold External.select External.checked
  simp only [ensures_bind, ensures_ofExcept]
  cases request.block with
  | error fault => exact .done state history
  | ok block =>
      simp only [ensures_ask, ensures_ite, ensures_pure, ensures_throw]
      split
      · exact .ask _ rfl state history
      · exact .ask _ rfl state history

theorem Selector.ensures_discover (config : Config) :
    (Selector.discover config : Procedure S Selector).Ensures env state history
      (fun _ => Asked state history) (fun _ => Asked state history) := by
  unfold Selector.discover
  simp only [ensures_bind, ensures_ask, ensures_ite, ensures_pure]
  split
  · have opened (opens : Bool) := Asked.ask ⟨.openLibrary config.schedulerPath, opens⟩
      rfl state history
    refine (External.ensures_start _).mono ?_ ?_
    · exact fun _ _ _ started => (opened _).trans started
    · exact fun _ _ _ failed => (opened _).trans failed
  · exact .ask _ rfl state history

theorem Catalog.ensures_firstOpen (directories : List Path) :
    (Catalog.firstOpen directories : Procedure S _).Ensures env state history
      (fun _ => Asked state history) (fun _ => Asked state history) := by
  induction directories generalizing history with
  | nil => exact .done state history
  | cons directory others ih =>
      unfold Catalog.firstOpen
      simp only [ensures_bind, ensures_ask, ensures_ite, ensures_pure]
      have asked (opens : Bool) := Asked.ask ⟨.openDirectory directory, opens⟩ rfl state history
      split
      · exact asked _
      · refine ih.mono ?_ ?_
        · exact fun _ _ _ found => (asked _).trans found
        · exact fun _ _ _ failed => (asked _).trans failed

theorem Catalog.ensures_filesIn (directory : Path) :
    (Catalog.filesIn directory : Procedure S _).Ensures env state history
      (fun _ => Asked state history) (fun _ => Asked state history) := by
  unfold Catalog.filesIn
  simp only [ensures_bind, ensures_ask]
  cases env.answer history (.listDirectory directory) with
  | ok entries => exact .ask _ rfl state history
  | error reason => exact .ask _ rfl state history

theorem Catalog.ensures_parseAll (files : List Path) :
    (Catalog.parseAll files : Procedure S _).Ensures env state history
      (fun _ => Asked state history) (fun _ => Asked state history) := by
  induction files generalizing history with
  | nil => exact .done state history
  | cons file others ih =>
      unfold Catalog.parseAll
      simp only [ensures_bind, ensures_ask]
      cases parsed : env.answer history (.parse file) with
      | error reason => exact .ask _ rfl state history
      | ok algorithm =>
          simp only [ensures_bind, ensures_pure]
          refine ih.mono ?_ ?_
          · exact fun _ _ _ rest => (Asked.ask _ rfl state history).trans rest
          · exact fun _ _ _ failed => (Asked.ask _ rfl state history).trans failed

end Questions

/-- A catalog is filled once and then stays. -/
theorem Catalog.ensures_discover {env : Environment} {catalog : Catalog} {history : History}
    (config : Config) :
    (Catalog.discover config).Ensures env catalog history
      (fun _ after later => Quiet history later ∧ after.loaded = true ∧
        (after = catalog ∨ catalog.loaded = false))
      (fun _ => Asked catalog history) := by
  unfold Catalog.discover
  simp only [ensures_bind, ensures_get, ensures_ite, ensures_pure, ensures_executableDirectory]
  split
  next loaded => exact ⟨.refl history, loaded, .inl trivial⟩
  next unlisted =>
    refine (Catalog.ensures_firstOpen _).mono ?_ (fun _ _ _ failed => failed)
    intro found _ past searched
    cases found with
    | none => exact searched
    | some directory =>
        simp only [ensures_bind, ensures_set]
        refine (Catalog.ensures_filesIn directory).mono ?_ (fun _ _ _ => searched.trans)
        intro files _ middle listed
        have found := searched.trans listed
        refine (Catalog.ensures_parseAll _).mono ?_ (fun _ _ _ failed => found.trans failed)
        intro algorithms _ later parsed
        exact ⟨(found.trans parsed).2, trivial, .inr (by simpa using unlisted)⟩

namespace Status

variable {env : Environment} {status after : Status} {history later : History}

theorem quiet_grows (status : Status) (quiet : Quiet history later) :
    Along Growth status history status later := by
  obtain ⟨events, rfl, silent⟩ := quiet
  induction events with
  | nil => exact .refl
  | cons event others ih =>
      have rest := ih fun other member => silent other (List.mem_cons_of_mem event member)
      exact .step rest (.call (silent event List.mem_cons_self))

/-- The store grows as a part of the status. -/
theorem store_grows {store : Store} (sound : status.store.Sound status.catalog.algorithms)
    (grown : Along (Store.Growth status.catalog.algorithms) status.store history store later) :
    Along Growth status history { status with store } later := by
  induction grown with
  | refl => exact .refl
  | @step middle _ past _ before moved ih =>
      have reached := (Store.growing_sound before sound).1
      exact .step ih (.store reached moved)

/-- Somebody selects afterwards, and only that may be new. -/
theorem ensures_ensureSelector (config : Config) :
    (ensureSelector config).Ensures env status history
      (fun selector after later => Along Growth status history after later ∧
        after.selector = some selector ∧ after.store = status.store ∧
        after.ready = status.ready)
      (fun _ => Asked status history) := by
  unfold ensureSelector
  simp only [ensures_bind, ensures_get]
  cases chosen : status.selector with
  | some selector => exact ⟨.refl, chosen, rfl, rfl⟩
  | none =>
      simp only [ensures_bind, ensures_modify, ensures_pure]
      refine (Selector.ensures_discover config).mono ?_ (fun _ _ _ failed => failed)
      rintro selector _ later ⟨rfl, quiet⟩
      exact ⟨.step (quiet_grows _ quiet) (.choose selector chosen), trivial, rfl, rfl⟩

/-- The catalog is filled afterwards if it decides, and only that may be new; it says how
many channels are needed. -/
theorem ensures_channels (config : Config) (comm : Communicator) (selector : Selector)
    (chosen : status.selector = some selector) :
    (channels config comm selector).Ensures env status history
      (fun needed after later => Along Growth status history after later ∧
        (selector = .internal → after.catalog.loaded = true) ∧
        (selector = .internal → after.catalog.channelsFor comm.numRanks = needed) ∧
        after.selector = some selector ∧ after.store = status.store ∧
        after.ready = status.ready)
      (fun _ => Asked status history) := by
  unfold channels onCatalog
  cases selector with
  | external scheduler => exact ⟨.refl, by simp, by simp, chosen, rfl, rfl⟩
  | internal =>
      simp only [ensures_bind, ensures_within, ensures_get, ensures_pure]
      refine (Catalog.ensures_discover config).mono ?_ ?_
      · rintro _ catalog later ⟨quiet, listed, rfl | unlisted⟩
        · exact ⟨quiet_grows status quiet, fun _ => listed, fun _ => trivial, chosen, trivial,
            trivial⟩
        · obtain ⟨algorithms, loaded⟩ := catalog
          subst listed
          have grown := Along.step (quiet_grows status quiet) (.list algorithms chosen unlisted)
          exact ⟨grown, fun _ => rfl, fun _ => trivial, chosen, trivial, trivial⟩
      · rintro _ _ later ⟨rfl, quiet⟩
        exact ⟨rfl, quiet⟩

/-- While nothing is up the store is refilled once it is known who selects, and only then it is
filled for a communicator and launches are started. -/
theorem ensures_prepareDown {config : Config} {comm : Communicator}
    {good : UInt32 → Status → History → Prop} {bad : Error → Status → History → Prop}
    (down : status.ready = false)
    (unknown : ∀ error (after : Status) later, after.store = status.store → bad error after later)
    (next : ∀ (selector : Selector) (needed : UInt32) (middle : Status) (past : History),
      middle.store = status.store → middle.ready = false →
      Ensures (do
          if selector = .internal then
            onStore (Store.prepare (← get).catalog comm)
          startLaunches
          return needed) env { middle with store := middle.store.refill } past good bad) :
    (prepare config comm).Ensures env status history good bad := by
  unfold prepare
  rw [ensures_bind]
  apply (ensures_ensureSelector config).mono
  · rintro selector first past ⟨-, chosen, firstStore, firstReady⟩
    rw [ensures_bind]
    apply (ensures_channels config comm selector chosen).mono
    · rintro needed second later ⟨-, -, -, -, secondStore, secondReady⟩
      have closed : second.ready = false := secondReady.trans (firstReady.trans down)
      simp only [ensures_bind, ensures_get, closed, Bool.not_false, if_true, ensures_modify]
      have ended := next selector needed second later (secondStore.trans firstStore) closed
      simpa only [ensures_bind, ensures_get, ensures_ite, closed] using ended
    · intro error after later asked
      rw [asked.1]
      exact unknown error first later firstStore
  · intro error after later asked
    rw [asked.1]
    exact unknown error status later rfl

/-- Every catalog entry with the number of ranks of a communicator has a slot for its
rank, connected for it. -/
def Serves (status : Status) (comm : Communicator) : Prop :=
  ∀ {index metadata}, status.catalog.get? index = some metadata →
    metadata.numRanks = comm.numRanks →
      ∃ handle, status.store.handle? index comm.rank = some handle ∧
        status.store.isConnected comm.id handle = true

/-- A communicator is served, and the catalog says that it needs this many channels. -/
structure Hosts (status : Status) (comm : Communicator) (needed : UInt32) : Prop where
  serves : status.Serves comm
  channels : status.catalog.channelsFor comm.numRanks = needed

/-- The status is as it was before its store was prepared for a communicator, apart from
the store. -/
structure Prepared (selector : Selector) (comm : Communicator) (before after : Status) :
    Prop where
  serves : selector = .internal → after.Serves comm
  catalog : after.catalog = before.catalog
  chosen : after.selector = before.selector
  ready : after.ready = before.ready
  sound : after.store.Sound after.catalog.algorithms

/-- Where the catalog decides the store is prepared for the communicator, before the
rest. -/
theorem ensures_serve {α : Type} {rest : Procedure Status α} {selector : Selector}
    {comm : Communicator} {good : α → Status → History → Prop}
    {bad : Error → Status → History → Prop}
    (sound : status.store.Sound status.catalog.algorithms)
    (next : ∀ after later, Along Growth status history after later →
      Prepared selector comm status after → rest.Ensures env after later good bad)
    (failed : ∀ error after later, Along Growth status history after later →
      after.ready = status.ready → bad error after later) :
    Ensures (do
        if selector = .internal then
          onStore (Store.prepare (← get).catalog comm)
        rest) env status history good bad := by
  unfold onStore
  simp only [ensures_ite, ensures_bind, ensures_get, ensures_within]
  split
  next internal =>
    refine (Store.ensures_prepare status.catalog comm sound).mono ?_ ?_
    · rintro _ store later ⟨grown, prepared⟩
      exact next _ later (store_grows sound grown)
        ⟨fun _ => @fun index metadata => prepared index metadata, rfl, rfl, rfl,
          (Store.growing_sound grown sound).1⟩
    · exact fun error store later grown => failed error _ later (store_grows sound grown) rfl
  next foreign =>
    exact next status history .refl
      ⟨fun internal => absurd internal foreign, rfl, rfl, rfl, sound⟩

/-- Launches are started with the flags that are granted, and are not where they are refused. -/
theorem ensures_startLaunches_iff {good : PUnit → Status → History → Prop}
    {bad : Error → Status → History → Prop} :
    startLaunches.Ensures env status history good bad ↔
      let reset := { status with scratch := none, workIndex := 1, lastStream := none }
      let call := Call.allocate .syncFlags syncFlagBytes
      match env.answer history call with
      | .ok flags =>
          good ⟨⟩ { reset with syncFlags := some flags, ready := true }
            (⟨call, .ok flags⟩ :: history)
      | .error reason => bad (.collaborator reason) reset (⟨call, .error reason⟩ :: history) := by
  unfold startLaunches
  simp only [ensures_bind, ensures_modify, ensures_ask, ensures_accepted]
  generalize env.answer history (.allocate .syncFlags syncFlagBytes) = answer
  cases answer <;> rfl

/-- Launches are possible afterwards, or are as impossible as before. -/
theorem ensures_startLaunches (coherent : status.Coherent) (closed : status.ready = false)
    (chosen : status.selector.isSome = true)
    (listed : status.selector = some .internal → status.catalog.loaded = true)
    (sound : status.store.Sound status.catalog.algorithms) :
    startLaunches.Ensures env status history
      (fun _ after later => Along Growth status history after later ∧ after.ready = true ∧
        after.catalog = status.catalog ∧ after.store = status.store ∧
        after.selector = status.selector)
      (fun _ after later => Along Growth status history after later ∧
        after.ready = false) := by
  rw [ensures_startLaunches_iff]
  dsimp only
  have reset : Along Growth status history
      { status with scratch := none, workIndex := 1, lastStream := none } history :=
    .single (.reset closed (coherent.scratch closed))
  have unallocated := coherent.flagless closed
  cases env.answer history (.allocate .syncFlags syncFlagBytes) with
  | error reason => exact ⟨.step reset (.call rfl), closed⟩
  | ok flags =>
      have started := Along.step reset (.start flags closed unallocated chosen listed sound)
      exact ⟨started, rfl, rfl, rfl, rfl⟩

theorem growing_coherent (grown : Along Growth status history after later)
    (before : status.Coherent) : after.Coherent :=
  grown.keeps (fun reached _ => reached.Coherent) Growth.coherent before

/-- A prepared status hosts a communicator, if the selector is the catalog. -/
theorem Prepared.hosts {selector : Selector} {comm : Communicator} {needed : UInt32}
    (prepared : Prepared selector comm status after) (chosen : status.selector = some selector)
    (sized : selector = .internal → status.catalog.channelsFor comm.numRanks = needed)
    (internal : after.selector = some .internal) : after.Hosts comm needed := by
  rw [prepared.chosen, chosen] at internal
  have decides := Option.some.inj internal
  refine ⟨prepared.serves decides, ?_⟩
  rw [prepared.catalog]
  exact sized decides

/-- The first preparation makes all slots free, serves the communicator and makes launches
possible. -/
theorem ensures_prepareFirst {selector : Selector} {comm : Communicator} (needed : UInt32)
    (coherent : status.Coherent) (closed : status.ready = false)
    (vacant : status.store.Vacant) (chosen : status.selector = some selector)
    (listed : selector = .internal → status.catalog.loaded = true)
    (sized : selector = .internal → status.catalog.channelsFor comm.numRanks = needed) :
    Ensures (do
        modify fun status => { status with store := status.store.refill }
        if selector = .internal then
          onStore (Store.prepare (← get).catalog comm)
        startLaunches
        return needed) env status history
      (fun needed after later => Along Growth status history after later ∧
        after.ready = true ∧ (after.selector = some .internal → after.Hosts comm needed))
      (fun _ after later => Along Growth status history after later ∧ after.ready = false) := by
  have refilled : Along Growth status history { status with store := status.store.refill }
      history := .single (.refill closed vacant)
  rw [ensures_bind, ensures_modify]
  apply ensures_serve (vacant.refill_sound status.catalog.algorithms)
  · intro served past toServed prepared
    have grown := refilled.trans toServed
    have servedChosen : served.selector = some selector := prepared.chosen.trans chosen
    rw [ensures_bind]
    refine (ensures_startLaunches (growing_coherent grown coherent) (prepared.ready.trans closed)
      ?_ ?_ prepared.sound).mono ?_ ?_
    · rw [servedChosen]
      rfl
    · intro internal
      rw [servedChosen] at internal
      rw [prepared.catalog]
      exact listed (Option.some.inj internal)
    · rintro _ started _ ⟨toStarted, up, sameCatalog, sameStore, sameSelector⟩
      refine ⟨grown.trans toStarted, up, ?_⟩
      intro internal
      rw [sameSelector] at internal
      obtain ⟨serves, channels⟩ := prepared.hosts chosen sized internal
      refine ⟨?_, by rw [sameCatalog, channels]⟩
      unfold Serves
      rw [sameCatalog, sameStore]
      exact serves
    · rintro _ _ _ ⟨toStarted, down⟩
      exact ⟨grown.trans toStarted, down⟩
  · intro _ after _ toAfter same
    exact ⟨refilled.trans toAfter, same.trans closed⟩

/-- A settled status is prepared for a communicator by moves alone.  Where that fails
launches are as possible as before. -/
theorem ensures_prepare (config : Config) (comm : Communicator) (settled : status.Settled) :
    (prepare config comm).Ensures env status history
      (fun needed after later => Along Growth status history after later ∧
        after.ready = true ∧ (after.selector = some .internal → after.Hosts comm needed))
      (fun _ after later => Along Growth status history after later ∧
        after.ready = status.ready) := by
  unfold prepare
  simp only [ensures_bind, ensures_get]
  refine (ensures_ensureSelector config).mono ?_ ?_
  · rintro selector first _ ⟨toFirst, firstChosen, firstStore, firstReady⟩
    refine (ensures_channels config comm selector firstChosen).mono ?_ ?_
    · rintro needed second past ⟨toSecond, listed, sized, chosen, secondStore, secondReady⟩
      have reached := toFirst.trans toSecond
      have coherent := growing_coherent reached settled.1
      have isReady : second.ready = status.ready := secondReady.trans firstReady
      cases ready : second.ready with
      | true =>
          simp only [Bool.not_true, Bool.false_eq_true, if_false]
          refine ensures_serve (coherent.sound ready) ?_ ?_
          · intro third _ toThird prepared
            exact ⟨reached.trans toThird, prepared.ready.trans ready,
              prepared.hosts chosen sized⟩
          · intro _ third _ toThird stillReady
            exact ⟨reached.trans toThird, stillReady.trans isReady⟩
      | false =>
          have closed : status.ready = false := isReady ▸ ready
          have vacant : second.store.Vacant := by
            rw [secondStore, firstStore]
            exact (settled.2 closed).store
          simp only [Bool.not_false, if_true]
          refine (ensures_prepareFirst needed coherent ready vacant chosen listed sized).mono
            ?_ ?_
          · rintro _ _ _ ⟨grown, up, hosts⟩
            exact ⟨reached.trans grown, up, hosts⟩
          · rintro _ _ _ ⟨grown, down⟩
            exact ⟨reached.trans grown, down.trans closed.symm⟩
    · rintro _ _ _ ⟨rfl, quiet⟩
      exact ⟨toFirst.trans (quiet_grows _ quiet), firstReady⟩
  · rintro _ _ _ ⟨rfl, quiet⟩
    exact ⟨quiet_grows _ quiet, rfl⟩

end Status

end Collective
