import Collective.Proofs.Likeness
import Collective.Proofs.Run

/-!
# After a shutdown

A shutdown leaves a status like a new one, except for the count of launches, the order of the
free slots and what was said to be needed.  No call looks at these while launches are closed, and
the preparation that opens them sets all three anew.
-/

namespace Collective

open Procedure

namespace External

variable {S : Type} {alike : S → S → Prop}

theorem agrees_checked (step : ExternalStep) (code : Int32) :
    (checked step code : Procedure S Unit).Agrees alike alike alike := by
  unfold checked
  split
  · exact .pure _
  · exact .throw _

theorem agrees_start (scheduler : External) :
    (scheduler.start : Procedure S Unit).Agrees alike alike alike :=
  .bind .ask fun code => agrees_checked .start code

theorem agrees_select (scheduler : External) {asCaller : Bool} (request : Request) :
    (scheduler.select asCaller request : Procedure S _).Agrees alike alike alike := by
  refine .bind (.ofExcept _) fun block => .bind .ask fun verdict => ?_
  exact .bind (agrees_checked .select _) fun _ => .pure _

theorem agrees_stop (scheduler : External) :
    (scheduler.stop : Procedure S Unit).Agrees alike alike alike :=
  .bind .ask fun code => agrees_checked .shutdown code

end External

theorem Selector.agrees_discover {S : Type} {alike : S → S → Prop} (config : Config) :
    (Selector.discover config : Procedure S Selector).Agrees alike alike alike := by
  refine .bind .ask fun opens => ?_
  split
  · exact .bind (External.agrees_start _) fun _ => .pure _
  · exact .pure _

namespace Store

/-- Two stores differ at most in the free slots and in what is said to be needed. -/
def Alike (first second : Store) : Prop :=
  ∃ free needsProxy needsFence, second = { first with free, needsProxy, needsFence }

theorem agrees_unloadEach (entries : List (Handle × Instance)) :
    (unloadEach entries).Agrees Alike Alike Alike := by
  induction entries with
  | nil => exact .pure _
  | cons entry others ih =>
      refine .bind .ask fun answer => .bind (.modify ?_) fun _ => .bind ih fun _ => .pure _
      rintro first _ ⟨free, needsProxy, needsFence, rfl⟩
      exact ⟨entry.1 :: free, needsProxy, needsFence, rfl⟩

theorem agrees_freeEach (entries : List (Handle × Buffer)) :
    (freeEach entries).Agrees Alike Alike Alike := by
  induction entries with
  | nil => exact .pure _
  | cons entry others ih => exact .bind .ask fun answer => .bind ih fun _ => .pure _

theorem agrees_releaseAll : releaseAll.Agrees Alike Alike Alike := by
  refine .get ?_ fun store _ _ => ?_
  · rintro first _ ⟨_, _, _, rfl⟩
    rfl
  refine .bind (.inUnloadOrder _) fun loaded => .bind (agrees_unloadEach loaded) fun unloaded => ?_
  refine .get ?_ fun store _ _ => ?_
  · rintro first _ ⟨_, _, _, rfl⟩
    rfl
  refine .bind (.inFreeOrder _) fun images => .bind (agrees_freeEach images) fun freed => ?_
  refine .bind (.modify ?_) fun _ => .ofExcept _
  rintro first _ ⟨free, needsProxy, needsFence, rfl⟩
  exact ⟨free, needsProxy, needsFence, rfl⟩

theorem agrees_connect (handle : Handle) (comm : Communicator) :
    (connect handle comm).Agrees Alike Alike Alike := by
  refine .get ?_ fun store _ _ => ?_
  · rintro first _ ⟨_, _, _, rfl⟩
    rfl
  split
  · exact .pure _
  · split
    · exact .throw _
    · refine .bind .ask fun answer => .bind (.accepted answer) fun _ => .modify ?_
      rintro first _ ⟨free, needsProxy, needsFence, rfl⟩
      exact ⟨free, needsProxy, needsFence, rfl⟩

end Store

namespace Status

variable {α : Type}

/-- Two statuses are closed for launches and differ at most in what the next start sets anew. -/
def ClosedAlike (first second : Status) : Prop :=
  first.ready = false ∧
    ∃ workIndex store, first.store.Alike store ∧ second = { first with workIndex, store }

/-- Two statuses are closed for launches and differ at most in the count of launches. -/
def Refilled (first second : Status) : Prop :=
  first.ready = false ∧ ∃ workIndex, second = { first with workIndex }

theorem agrees_onStore {procedure : Procedure Store α}
    (agrees : procedure.Agrees Store.Alike Store.Alike Store.Alike) :
    (onStore procedure).Agrees ClosedAlike ClosedAlike ClosedAlike := by
  have kept (first second : Status) (inner inner' : Store) :
      ClosedAlike first second → inner.Alike inner' →
      ClosedAlike { first with store := inner } { second with store := inner' } := by
    rintro ⟨closed, workIndex, store, -, rfl⟩ alike
    exact ⟨closed, workIndex, inner', alike, rfl⟩
  refine agrees.within ?_ kept kept
  rintro first _ ⟨_, _, store, alike, rfl⟩
  exact alike

theorem agrees_install (scheduler : External) :
    (install scheduler).Agrees ClosedAlike ClosedAlike ClosedAlike := by
  refine .get ?_ fun status _ _ => ?_
  · rintro first _ ⟨_, _, _, _, rfl⟩
    rfl
  split
  · exact .throw _
  · refine .bind (External.agrees_start scheduler) fun _ => .modify ?_
    rintro first _ ⟨closed, workIndex, store, alike, rfl⟩
    exact ⟨closed, workIndex, store, alike, rfl⟩

theorem agrees_select {asCaller : Bool} (request : Request) :
    (select asCaller request).Agrees ClosedAlike ClosedAlike ClosedAlike := by
  refine .get ?_ fun status _ _ => ?_
  · rintro first _ ⟨_, _, _, ⟨_, _, _, rfl⟩, rfl⟩
    rfl
  split
  · exact .pure _
  · split
    · exact .pure _
    · exact .pure _
  · exact External.agrees_select _ request

theorem agrees_ensureSelector (config : Config) :
    (ensureSelector config).Agrees ClosedAlike ClosedAlike ClosedAlike := by
  refine .get ?_ fun status _ _ => ?_
  · rintro first _ ⟨_, _, _, _, rfl⟩
    rfl
  split
  · exact .pure _
  · refine .bind (Selector.agrees_discover config) fun selector => ?_
    refine .bind (.modify ?_) fun _ => .pure _
    rintro first _ ⟨closed, workIndex, store, alike, rfl⟩
    exact ⟨closed, workIndex, store, alike, rfl⟩

theorem agrees_channels (config : Config) (comm : Communicator) (selector : Selector) :
    (channels config comm selector).Agrees ClosedAlike ClosedAlike ClosedAlike := by
  cases selector with
  | external scheduler => exact .pure _
  | internal =>
      have kept (first second : Status) (inner inner' : Catalog) :
          ClosedAlike first second → inner = inner' →
          ClosedAlike { first with catalog := inner } { second with catalog := inner' } := by
        rintro ⟨closed, workIndex, store, alike, rfl⟩ rfl
        exact ⟨closed, workIndex, store, alike, rfl⟩
      refine .bind ((Agrees.of_eq (Catalog.discover config)).within ?_ kept kept) fun _ => ?_
      · rintro first _ ⟨_, _, _, _, rfl⟩
        rfl
      refine .get ?_ fun status _ _ => .pure _
      rintro first _ ⟨_, _, _, _, rfl⟩
      rfl

/-- What is allocated at the start leaves one status. -/
theorem agrees_startLaunches : startLaunches.Agrees Refilled Eq ClosedAlike := by
  have down (answer : Fallible Buffer) : (accepted answer : Procedure Status Buffer).Agrees
      (fun first second => first.ready = false ∧ first = second)
      (fun first second => first.ready = false ∧ first = second) ClosedAlike := by
    refine (Agrees.accepted answer).mono (fun _ _ same => same) (fun _ _ same => same) ?_
    rintro first _ ⟨closed, rfl⟩
    exact ⟨closed, first.workIndex, first.store, ⟨_, _, _, rfl⟩, rfl⟩
  refine .bind (.modify ?_) fun _ => .bind .ask fun answer => .bind (down answer) fun flags => ?_
  · rintro first _ ⟨closed, workIndex, rfl⟩
    exact ⟨closed, rfl⟩
  · refine .modify ?_
    rintro first _ ⟨_, rfl⟩
    rfl

/-- The first preparation that succeeds leaves one status. -/
theorem agrees_prepare (config : Config) (comm : Communicator) :
    (prepare config comm).Agrees ClosedAlike Eq ClosedAlike := by
  have refill : Agrees ClosedAlike Refilled ClosedAlike
      (modify fun status => { status with store := status.store.refill }) := by
    refine .modify ?_
    rintro first _ ⟨closed, workIndex, _, ⟨_, _, _, rfl⟩, rfl⟩
    exact ⟨closed, workIndex, rfl⟩
  have started (needed : UInt32) : Agrees Refilled Eq ClosedAlike (do
      startLaunches
      return needed : Procedure Status UInt32) :=
    .bind agrees_startLaunches fun _ => .pure _
  have kept (first second : Status) (inner inner' : Store) :
      Refilled first second → inner = inner' →
      Refilled { first with store := inner } { second with store := inner' } := by
    rintro ⟨closed, workIndex, rfl⟩ rfl
    exact ⟨closed, workIndex, rfl⟩
  refine .bind (agrees_ensureSelector config) fun selector => ?_
  refine .bind (agrees_channels config comm selector) fun needed => ?_
  refine .get ?_ fun status _ related => ?_
  · rintro first _ ⟨_, _, _, _, rfl⟩
    rfl
  simp only [related.1, Bool.not_false, if_true]
  refine .bind refill fun _ => ?_
  split
  · refine .get ?_ fun status _ _ => .bind ?_ fun _ => started needed
    · rintro first _ ⟨_, _, rfl⟩
      rfl
    · refine (Agrees.of_eq (Store.prepare status.catalog comm)).within ?_ kept ?_
      · rintro first _ ⟨_, _, rfl⟩
        rfl
      · rintro first second inner inner' related same
        obtain ⟨closed, workIndex, same⟩ := kept first second inner inner' related same
        exact ⟨closed, workIndex, inner, ⟨_, _, _, rfl⟩, same⟩
  · exact started needed

theorem agrees_freeHeld (use : BufferUse) (held : Option Buffer) :
    (freeHeld use held).Agrees ClosedAlike ClosedAlike ClosedAlike := by
  cases held with
  | none => exact .pure _
  | some buffer => exact .bind .ask fun answer => .pure _

theorem agrees_dismiss (selector : Option Selector) :
    (dismiss selector).Agrees ClosedAlike ClosedAlike ClosedAlike := by
  unfold dismiss
  split
  · refine .bind (.modify ?_) fun _ => External.agrees_stop _
    rintro first _ ⟨closed, workIndex, store, alike, rfl⟩
    exact ⟨closed, workIndex, store, alike, rfl⟩
  · refine .modify ?_
    rintro first _ ⟨closed, workIndex, store, alike, rfl⟩
    exact ⟨closed, workIndex, store, alike, rfl⟩

theorem agrees_release : release.Agrees ClosedAlike ClosedAlike ClosedAlike := by
  have forget : Agrees ClosedAlike ClosedAlike ClosedAlike (modify fun status =>
      { status with scratch := none, syncFlags := none, lastStream := none }) := by
    refine .modify ?_
    rintro first _ ⟨closed, workIndex, store, alike, rfl⟩
    exact ⟨closed, workIndex, store, alike, rfl⟩
  refine .bind (.attempt (agrees_onStore Store.agrees_releaseAll)) fun stored => ?_
  refine .get ?_ fun status _ _ => .bind forget fun _ => ?_
  · rintro first _ ⟨_, _, _, _, rfl⟩
    rfl
  refine .bind (agrees_freeHeld _ _) fun scratch => .bind (agrees_freeHeld _ _) fun flags => ?_
  exact .bind (.attempt (agrees_dismiss _)) fun dismissed => .ofExcept _

theorem agrees_bringUp (config : Config) (comm : Communicator) :
    (bringUp config comm).Agrees ClosedAlike Eq ClosedAlike := by
  refine .get ?_ fun status _ related => ?_
  · rintro first _ ⟨_, _, _, _, rfl⟩
    rfl
  simp only [related.1, Bool.false_eq_true, if_false]
  refine .tryCatch (agrees_prepare config comm) fun error => ?_
  exact .bind (.attempt agrees_release) fun _ => .throw error

theorem agrees_shutDown : shutDown.Agrees ClosedAlike ClosedAlike ClosedAlike := by
  refine .get ?_ fun status _ related => ?_
  · rintro first _ ⟨_, _, _, _, rfl⟩
    rfl
  simp only [related.1, Bool.false_eq_true, if_false]
  split
  · exact agrees_dismiss _
  · exact .pure _

theorem agrees_load (file : Path) (rank : UInt64) :
    (load file rank).Agrees ClosedAlike ClosedAlike ClosedAlike := by
  refine .get ?_ fun status _ related => ?_
  · rintro first _ ⟨closed, _, _, _, rfl⟩
    simp only [closed, Bool.not_false, if_true]
  simp only [related.1, Bool.not_false, if_true]
  exact .throw _

theorem agrees_launch {asCaller : Bool} (pending : Pending) (handle : Handle) :
    (launch asCaller pending handle).Agrees ClosedAlike ClosedAlike ClosedAlike := by
  refine .get ?_ fun status _ related => ?_
  · rintro first _ ⟨closed, _, _, _, rfl⟩
    simp only [closed, Bool.not_false, if_true]
    -- Nothing follows the refusal.
    rfl
  simp only [related.1, Bool.not_false, if_true]
  exact .throw _

theorem agrees_launchEach {asCaller : Bool} (operations : List SavedOperation) :
    (launchEach asCaller operations).Agrees ClosedAlike ClosedAlike ClosedAlike := by
  induction operations with
  | nil => exact .pure _
  | cons operation others ih =>
      unfold launchEach
      split
      · exact .throw _
      · exact .bind (agrees_launch _ _) fun _ => ih

end Status

namespace Machine

variable {α : Type} {config : Config} {thread : ThreadId}

/-- Two machines differ only in what is shared, where both are closed and alike. -/
def ClosedAlike (first second : Machine) : Prop :=
  ∃ status, first.status.ClosedAlike status ∧ second = { first with status }

/-- Two machines are one, or both are closed and alike. -/
def Resembles (first second : Machine) : Prop := first = second ∨ first.ClosedAlike second

theorem agrees_onStatus {procedure : Procedure Status α}
    (agrees : procedure.Agrees Status.ClosedAlike Status.ClosedAlike Status.ClosedAlike) :
    (onStatus procedure).Agrees ClosedAlike ClosedAlike ClosedAlike := by
  have kept (first second : Machine) (inner inner' : Status) :
      ClosedAlike first second → inner.ClosedAlike inner' →
      ClosedAlike { first with status := inner } { second with status := inner' } := by
    rintro ⟨status, -, rfl⟩ alike
    exact ⟨inner', alike, rfl⟩
  refine agrees.within ?_ kept kept
  rintro first _ ⟨status, alike, rfl⟩
  exact alike

theorem agrees_onBehalf {procedure : Bool → Procedure Status α}
    (agrees : ∀ asCaller, (procedure asCaller).Agrees Status.ClosedAlike Status.ClosedAlike
      Status.ClosedAlike) :
    (onBehalf thread procedure).Agrees ClosedAlike ClosedAlike ClosedAlike := by
  refine .get ?_ fun _ _ _ => agrees_onStatus (agrees _)
  rintro first _ ⟨status, _, rfl⟩
  rfl

theorem agrees_onThread (procedure : Procedure Thread α) :
    (onThread thread procedure).Agrees ClosedAlike ClosedAlike ClosedAlike := by
  have kept (first second : Machine) (inner inner' : Thread) :
      ClosedAlike first second → inner = inner' →
      ClosedAlike (first.setThread thread inner) (second.setThread thread inner') := by
    rintro ⟨status, alike, rfl⟩ rfl
    exact ⟨status, alike, rfl⟩
  refine (Agrees.of_eq procedure).within ?_ kept kept
  rintro first _ ⟨status, alike, rfl⟩
  rfl

theorem agrees_join (comm : Communicator) :
    (join config comm).Agrees ClosedAlike Resembles Resembles := by
  have marked : Agrees ClosedAlike ClosedAlike Resembles
      (modify fun machine : Machine => machine.mark comm (fit config comm)) := by
    refine .modify ?_
    rintro first _ ⟨status, alike, rfl⟩
    exact ⟨status, alike, rfl⟩
  have raised : (onStatus (Status.bringUp config comm)).Agrees ClosedAlike Eq Resembles := by
    refine (Status.agrees_bringUp config comm).within ?_ ?_ ?_
    · rintro first _ ⟨status, alike, rfl⟩
      exact alike
    · rintro first _ inner _ ⟨status, alike, rfl⟩ rfl
      rfl
    · rintro first _ inner inner' ⟨status, alike, rfl⟩ still
      exact .inr ⟨inner', still, rfl⟩
  refine .bind marked fun _ => ?_
  split
  · exact (Agrees.pure 0).mono (fun _ _ alike => alike) (fun _ _ alike => .inr alike)
      fun _ _ alike => alike
  · refine .get ?_ fun machine _ related => .bind raised fun channels => ?_
    · rintro first _ ⟨_, ⟨closed, _, _, _, rfl⟩, rfl⟩
      rfl
    · exact (Agrees.of_eq _).mono (fun _ _ same => same) (fun _ _ same => .inl same)
        fun _ _ same => .inl same

theorem agrees_choose (pending : Pending) :
    (choose config thread pending).Agrees ClosedAlike ClosedAlike ClosedAlike := by
  have unavailable {machine : Machine} (closed : machine.status.ready = false) :
      machine.available config = false := by
    unfold available
    rw [closed, Bool.and_false]
  refine .get ?_ fun machine _ related => ?_
  · rintro first _ ⟨_, ⟨closed, _, _, _, rfl⟩, rfl⟩
    rfl
  obtain ⟨_, ⟨closed, _⟩, _⟩ := related
  simp only [unavailable closed, Bool.and_false, Bool.false_eq_true, if_false]
  exact .pure _

theorem agrees_submit (operation : Operation) (comm : Communicator) (stream : Stream) :
    (submit config thread operation comm stream).Agrees ClosedAlike ClosedAlike ClosedAlike := by
  refine .bind (.ofExcept _) fun _ => .get ?_ fun machine _ _ => ?_
  · rintro first _ ⟨_, _, rfl⟩
    rfl
  split
  · refine .bind (agrees_choose _) fun choice => ?_
    cases choice with
    | some handle => exact agrees_onBehalf fun _ => Status.agrees_launch _ handle
    | none => exact agrees_onThread _
  · refine .bind (agrees_choose _) fun choice => ?_
    cases choice with
    | some handle => exact agrees_onThread _
    | none => exact .bind (agrees_onThread _) fun _ => agrees_onThread _
  · exact agrees_onThread _

theorem agrees_closeGroup : (closeGroup thread).Agrees ClosedAlike ClosedAlike ClosedAlike := by
  refine .bind (agrees_onThread _) fun saved => ?_
  split
  · exact .pure _
  · exact agrees_onBehalf fun _ => Status.agrees_launchEach _

/-- Commands do alike on machines that are closed and alike, and on one machine. -/
theorem agrees_perform (command : Command) :
    (perform config thread command).Agrees Resembles Resembles Resembles := by
  have closed : (perform config thread command).Agrees ClosedAlike Resembles Resembles := by
    have still {procedure : Procedure Machine Reply}
        (agrees : procedure.Agrees ClosedAlike ClosedAlike ClosedAlike) :
        procedure.Agrees ClosedAlike Resembles Resembles :=
      agrees.mono (fun _ _ alike => alike) (fun _ _ alike => .inr alike) fun _ _ alike => .inr alike
    cases command with
    | join comm => exact .bind (agrees_join comm) fun _ => .pure _
    | install key =>
        exact still (.bind (agrees_onStatus (Status.agrees_install _)) fun _ => .pure _)
    | shutDown =>
        refine still (.bind (.bind (agrees_onThread _) fun _ => ?_) fun _ => .pure _)
        exact agrees_onStatus Status.agrees_shutDown
    | closeGroup => exact still (.bind agrees_closeGroup fun _ => .pure _)
    | submit operation comm stream =>
        exact still (.bind (agrees_submit operation comm stream) fun _ => .pure _)
    | select request =>
        exact still (.bind (agrees_onBehalf fun _ => Status.agrees_select request) fun _ => .pure _)
    | load file rank =>
        exact still (.bind (agrees_onStatus (Status.agrees_load file rank)) fun _ => .pure _)
    | connect handle comm =>
        have connected := Status.agrees_onStore (Store.agrees_connect handle comm)
        exact still (.bind (agrees_onStatus connected) fun _ => .pure _)
    | openGroup | setCaller | clearCaller | pushGuard | popGuard =>
        exact still (.bind (agrees_onThread _) fun _ => .pure _)
  rintro env first second history (same | alike)
  · apply (Agrees.of_eq _).mono _ _ _ env first second history same
    · exact fun _ _ equal => equal
    · exact fun _ _ equal => .inl equal
    · exact fun _ _ equal => .inl equal
  · exact closed env first second history alike

end Machine

namespace Status

variable {env : Environment} {status : Status} {history : History}

/-- After a shutdown nobody selects. -/
theorem ensures_shutDown_selector :
    shutDown.Ensures env status history (fun _ after _ => after.selector = none)
      (fun _ after _ => after.selector = none) := by
  unfold shutDown
  simp only [ensures_bind, ensures_get, ensures_ite, ensures_pure]
  split
  next =>
    apply (Ensures.attempt ensures_release).mono
    · rintro result (after : Status) _ ⟨⟨_, _, _, _, emptied, _⟩, _⟩
      have unchosen : after.selector = none := congrArg Status.selector emptied
      rw [ensures_modify]
      exact ensures_ofExcept_of result unchosen
    · exact fun _ _ _ failed => failed
  next =>
    split
    next =>
      apply (ensures_dismiss rfl).mono
      · rintro _ _ _ ⟨rfl, _⟩
        rfl
      · rintro _ _ _ ⟨rfl, _⟩
        rfl
    next unchosen => simpa using unchosen

/-- A status with nothing up and nobody selecting is like a new one. -/
theorem Dormant.closedAlike (dormant : status.Dormant) (unchosen : status.selector = none) :
    status.ClosedAlike {} := by
  obtain ⟨selector, catalog, store, scratch, syncFlags, workIndex, lastStream, ready⟩ := status
  obtain ⟨free, assigned, loaded, images, connected, needsProxy, needsFence⟩ := store
  obtain ⟨closed, ⟨noneLoaded, noImages, noneAssigned, noneConnected⟩, noScratch, noFlags,
    noStream, unlisted, -⟩ := dormant
  dsimp only at *
  subst closed noneLoaded noImages noneAssigned noneConnected noScratch noFlags noStream unlisted
    unchosen
  exact ⟨rfl, 0, {}, ⟨[], false, false, rfl⟩, rfl⟩

end Status

/-! ## Runs that go on -/

namespace Scene

/-- The scene with a new scheduler: the threads, the marks of the communicators and the outside
world are as they were. -/
def rebuilt (scene : Scene) : Scene :=
  { scene with machine := { scene.machine with status := {} } }

/-- The same calls were made, and the machines are one, or both closed and alike. -/
def Resembles (first second : Scene) : Prop :=
  first.history = second.history ∧ first.machine.Resembles second.machine

theorem Resembles.eq_of_ready {first second : Scene} (resembles : first.Resembles second)
    (ready : first.machine.status.ready = true) : first = second := by
  obtain ⟨machine, history⟩ := first
  obtain ⟨rfl, rfl | ⟨_, ⟨closed, _⟩, _⟩⟩ := resembles
  · rfl
  · exact absurd (closed.symm.trans ready) Bool.false_ne_true

end Scene

namespace Run

variable {run : Run} {number : Nat}

/-- The scene after a turn that is taken in a scene. -/
def advance (run : Run) (scene : Scene) (turn : Turn) : Scene :=
  { machine := (run.outcome scene turn).state, history := (run.outcome scene turn).history }

/-- The scene after turns that are taken from a scene on. -/
def reach (run : Run) (scene : Scene) (turns : List Turn) : Scene :=
  turns.foldl run.advance scene

/-- How turns end that are taken from a scene on. -/
def results (run : Run) : Scene → List Turn → List (Except Error Reply)
  | _, [] => []
  | scene, turn :: others =>
      (run.outcome scene turn).result :: run.results (run.advance scene turn) others

/-- A turn ends alike in two scenes that resemble one another, and they still do. -/
theorem resembles_advance {first second : Scene} (resembles : first.Resembles second)
    (turn : Turn) :
    (run.outcome first turn).result = (run.outcome second turn).result ∧
      (run.advance first turn).Resembles (run.advance second turn) := by
  obtain ⟨past, alike⟩ := resembles
  have agree := @Machine.agrees_perform run.config turn.thread turn.command run.env
    first.machine second.machine first.history alike
  unfold advance outcome
  rw [← past]
  generalize (Machine.perform run.config turn.thread turn.command).run run.env first.machine
    first.history = left at agree ⊢
  generalize (Machine.perform run.config turn.thread turn.command).run run.env second.machine
    first.history = right at agree ⊢
  cases agree with
  | ok reply past ended => exact ⟨rfl, rfl, ended⟩
  | error error past ended => exact ⟨rfl, rfl, ended⟩

theorem resembles_reach {first second : Scene} (resembles : first.Resembles second)
    (turns : List Turn) :
    run.results first turns = run.results second turns ∧
      (run.reach first turns).Resembles (run.reach second turns) := by
  induction turns generalizing first second with
  | nil => exact ⟨rfl, resembles⟩
  | cons turn others ih =>
      obtain ⟨result, after⟩ := run.resembles_advance resembles turn
      obtain ⟨results, reached⟩ := ih after
      exact ⟨congrArg₂ List.cons result results, reached⟩

/-- A shutdown, however it ends, leaves a scene that resembles one with a new scheduler. -/
theorem resembles_rebuilt {thread : ThreadId}
    (taken : run.turns[number]? = some ⟨thread, .shutDown⟩) :
    (run.scene (number + 1)).Resembles (run.scene (number + 1)).rebuilt := by
  have ensured : (Machine.perform run.config thread .shutDown).Ensures run.env
      (run.scene number).machine (run.history number)
      (fun _ machine _ => machine.status.selector = none)
      (fun _ machine _ => machine.status.selector = none) := by
    simp only [Machine.perform, Machine.shutDown, Machine.onThread, Machine.onStatus,
      ensures_bind, ensures_within, ensures_modify, ensures_pure]
    exact Status.ensures_shutDown_selector
  have unchosen : (run.status (number + 1)).selector = none := after_turn ensured taken
  have dormant := (run.settled (number + 1)).2 ((turned taken).down rfl)
  exact ⟨rfl, .inr ⟨{}, dormant.closedAlike unchosen, rfl⟩⟩

/-- After a shutdown in any scene of any run, however it ended, whatever is done next ends with
the same results and after the same calls as with a new scheduler.  Until the status is next made
ready the two schedulers may differ in the count of launches, in the order of the free slots and
in what was said to be needed, and in nothing else; from then on they do not differ at all. -/
theorem fresh_after_shutDown {thread : ThreadId}
    (taken : run.turns[number]? = some ⟨thread, .shutDown⟩) (turns : List Turn) :
    run.results (run.scene (number + 1)) turns =
      run.results (run.scene (number + 1)).rebuilt turns ∧
    (run.reach (run.scene (number + 1)) turns).Resembles
      (run.reach (run.scene (number + 1)).rebuilt turns) ∧
    ∀ earlier others, turns = earlier ++ others →
      (run.reach (run.scene (number + 1)) earlier).machine.status.ready = true →
      run.reach (run.scene (number + 1)) turns =
        run.reach (run.scene (number + 1)).rebuilt turns := by
  have alike := run.resembles_rebuilt taken
  obtain ⟨results, reached⟩ := run.resembles_reach alike turns
  refine ⟨results, reached, ?_⟩
  rintro earlier others rfl ready
  have same := (run.resembles_reach alike earlier).2.eq_of_ready ready
  unfold reach at same ⊢
  rw [List.foldl_append, List.foldl_append, same]

end Run

namespace Sample

/-- Two ranks that share a process. -/
def crowded : Communicator := { comm 3 0 with peers := [⟨0, 0⟩, ⟨0, 0⟩] }

/-- A communicator joins, an operation is launched, and somebody shuts down, where no algorithm
can be unloaded. -/
def reluctant : Run where
  config := (run .allReduce []).config
  env := .inOrder fun
    | _, .unload _ => .error "busy"
    | history, call => (Environment.obliging (algorithm .allReduce)).answer history call
  turns := [⟨0, .join (comm 1 0)⟩, ⟨0, .submit allReduce (comm 1 0) ⟨7⟩⟩, ⟨0, .shutDown⟩]

/-- The turns of a new start. -/
def restart : List Turn :=
  [⟨0, .join crowded⟩, ⟨1, .join (comm 1 0)⟩, ⟨1, .submit allReduce (comm 1 0) ⟨7⟩⟩]

/-- A shutdown that fails is followed by a new start nevertheless. -/
theorem restarted_nevertheless :
    reluctant.turns[2]? = some ⟨0, .shutDown⟩ ∧
    (reluctant.outcome (reluctant.scene 2) ⟨0, .shutDown⟩).result =
      .error (.collaborator "busy") ∧
    reluctant.results (reluctant.scene 3) restart =
      [.ok (.channels 0), .ok (.channels 1), .ok .done] ∧
    reluctant.results (reluctant.scene 3) restart =
      reluctant.results (reluctant.scene 3).rebuilt restart ∧
    reluctant.reach (reluctant.scene 3) restart =
      reluctant.reach (reluctant.scene 3).rebuilt restart := by
  have taken : reluctant.turns[2]? = some ⟨0, .shutDown⟩ := rfl
  obtain ⟨results, _, same⟩ := Run.fresh_after_shutDown taken restart
  refine ⟨taken, by decide +kernel, by decide +kernel, results, ?_⟩
  exact same restart [] rfl (by decide +kernel)

/-- A communicator that is unfit joins with success and makes nothing ready, so that the count of
launches is still the old one. -/
theorem not_fresh_at_once :
    ¬ ∀ (run : Run) (number : Nat) (thread other : ThreadId) (comm : Communicator)
      (channels : UInt32), run.turns[number]? = some ⟨thread, .shutDown⟩ →
      (run.outcome (run.scene (number + 1)) ⟨other, .join comm⟩).result =
        .ok (.channels channels) →
      (run.reach (run.scene (number + 1)) [⟨other, .join comm⟩]).machine.status.workIndex =
        (run.reach (run.scene (number + 1)).rebuilt
          [⟨other, .join comm⟩]).machine.status.workIndex := by
  intro fresh
  have same := fresh reluctant 2 0 0 crowded 0 rfl (by decide +kernel)
  revert same
  decide +kernel

end Sample

end Collective
