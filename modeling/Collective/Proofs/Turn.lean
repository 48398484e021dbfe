import Collective.Machine
import Collective.Proofs.Execution

/-!
# What one command does

A command has an effect on what the threads share, and it moves its own thread along
one of a few courses; no other thread is touched.  `Course` lists these courses with
the calls that executed operations, and every command follows one of them.
-/

namespace Collective

open Procedure History

/-- The operation that a command submits. -/
def Command.submission? : Command → Option Pending
  | .submit operation comm stream => some { request := comm.request operation, comm, stream }
  | _ => none

/-- A command that neither opens nor closes a group, nor runs or forgets operations. -/
def Command.groupless : Command → Bool
  | .openGroup | .closeGroup | .submit _ _ _ | .shutDown => false
  | _ => true

/-- Whether the parameters of an operation are in order. -/
def Pending.Valid (pending : Pending) : Prop := pending.request.validate = .ok ()

instance (pending : Pending) : Decidable pending.Valid :=
  inferInstanceAs (Decidable (pending.request.validate = .ok ()))

/-- A slot that the selector chooses for a request while launches are possible.  Where
the catalog decides it is the slot of the first entry that accepts the request. -/
structure Status.Chooses (status : Status) (request : Request) (handle : Handle) : Prop where
  ready : status.ready = true
  first : status.isExternal = false → ∃ index, status.catalog.firstMatch? request = some index ∧
    status.store.handle? index request.rank = some handle

/-- The courses of a thread during one of its commands. -/
inductive Course (status : Status) (thread : Thread) (later : History) :
    Command → Thread → List Event → Prop where
  | opened : Course status thread later .openGroup thread.openGroup []
  | forgot : Course status thread later .shutDown { thread with saved := [] } []
  | inner : 1 < thread.depth →
      Course status thread later .closeGroup { thread with depth := thread.depth - 1 } []
  | ended : thread.depth = 1 → thread.phase ≠ .scheduling →
      Course status thread later .closeGroup { thread with depth := 0, phase := .noGroup } []
  | flushed {events : List Event} : thread.depth = 1 → thread.phase = .scheduling →
      Served status.Launches thread.saved events →
      (Smooth later → status.ready = true → (∀ saved ∈ thread.saved, status.Holds saved) →
        events.length = thread.saved.length) →
      Course status thread later .closeGroup
        { thread with depth := 0, phase := .noGroup, saved := [] } events
  | launched {command : Command} {pending : Pending} {handle : Handle} {events : List Event} :
      command.submission? = some pending → pending.Valid → thread.phase = .noGroup →
      status.Chooses pending.request handle →
      Served status.Launches [{ pending with handle := some handle }] events →
      (Smooth later → status.Holds { pending with handle := some handle } →
        events.length = 1) →
      Course status thread later command thread events
  | saved {command : Command} {pending : Pending} {handle : Handle} :
      command.submission? = some pending → pending.Valid → thread.phase = .scheduling →
      status.Chooses pending.request handle →
      Course status thread later command
        (thread.save { pending with handle := some handle }) []
  | turned {command : Command} {pending : Pending} {events : List Event} :
      command.submission? = some pending → pending.Valid → thread.phase = .scheduling →
      Served (Pending.FellBack true) (thread.saved.map (·.toPending) ++ [pending]) events →
      (Smooth later → events.length =
        ((thread.saved.map (·.toPending) ++ [pending]).takeWhile Pending.hasPlain).length) →
      Course status thread later command
        { thread with phase := .fallingBack, saved := [] } events
  | fellBack {command : Command} {pending : Pending} {events : List Event} :
      command.submission? = some pending → pending.Valid → thread.phase ≠ .scheduling →
      Served (Pending.FellBack true) (thread.saved.map (·.toPending) ++ [pending]) events →
      (Smooth later → events.length =
        ((thread.saved.map (·.toPending) ++ [pending]).takeWhile Pending.hasPlain).length) →
      Course status thread later command { thread with saved := [] } events
  | idle {command : Command} {after : Thread} :
      command ≠ .openGroup → command ≠ .shutDown →
      (command = .closeGroup → thread.depth = 0) →
      (∀ pending, command.submission? = some pending → pending.Valid →
        status.isExternal = true) →
      after.depth = thread.depth → after.phase = thread.phase → after.saved = thread.saved →
      Course status thread later command after []

theorem Course.ofGroupless {status : Status} {state after : Thread} {command : Command}
    {later : History}
    (groupless : command.groupless = true) (depth : after.depth = state.depth)
    (phase : after.phase = state.phase) (saved : after.saved = state.saved) :
    Course status state later command after [] := by
  cases command with
  | openGroup | closeGroup | submit | shutDown => cases groupless
  | _ => exact .idle (by simp) (by simp) (by simp) (by simp [Command.submission?]) depth phase saved

namespace Status

variable {status after : Status} {history later : History}

theorem Released.executes (released : Released status history after later) :
    Executes history [] later := by
  obtain ⟨loaded, images, -, -, -, adds⟩ := released
  apply adds.executes
  intro call member
  exact Call.executes_of_returns (status.returning_returns loaded images call member)

theorem Grown.moves (grown : Grown Growth status history after later) :
    Grown Move status history after later :=
  ⟨growing_moves grown.along, grown.settled⟩

theorem Effect.moves (effect : Effect Growth status history after later) :
    Effect Move status history after later := by
  cases effect with
  | grown grown => exact .grown grown.moves
  | released along released => exact .released (growing_moves along) released

theorem Effect.executes (effect : Effect Growth status history after later) :
    Executes history [] later := by
  cases effect with
  | grown grown => exact growing_executes grown.along
  | released along released => exact (growing_executes along).trans released.executes

end Status

namespace Machine

/-- What a command of a thread has done. -/
structure Turned (thread : ThreadId) (command : Command) (machine : Machine)
    (history : History) (after : Machine) (later : History) : Prop where
  effect : Status.Effect Status.Move machine.status history after.status later
  up : command ≠ .shutDown → machine.status.ready = true → after.status.ready = true
  down : command = .shutDown → after.status.ready = false
  raised : machine.status.ready = false → after.status.ready = true → ∃ comm, command = .join comm
  others : ∀ other, other ≠ thread → after.threads other = machine.threads other
  course : ∃ events, Executes history events later ∧
    Course machine.status (machine.threads thread) later command (after.threads thread) events

variable {env : Environment} {machine : Machine} {history later : History}
variable {thread : ThreadId} {command : Command}

/-- A command changed only what the threads share. -/
theorem Turned.ofStatus {after : Machine} (groupless : command.groupless = true)
    (effect : Status.Effect Status.Growth machine.status history after.status later)
    (up : machine.status.ready = true → after.status.ready = true)
    (raised : machine.status.ready = false → after.status.ready = true →
      ∃ comm, command = .join comm)
    (threads : after.threads = machine.threads) :
    Turned thread command machine history after later where
  effect := effect.moves
  up _ := up
  down shut := by rw [shut] at groupless; cases groupless
  raised := raised
  others other _ := by rw [threads]
  course := ⟨[], effect.executes, by
    rw [threads]
    exact .ofGroupless groupless rfl rfl rfl⟩

@[simp] theorem setThread_self (state : Thread) :
    (machine.setThread thread state).threads thread = state := by
  simp [setThread]

theorem setThread_other (state : Thread) {other : ThreadId} (differ : other ≠ thread) :
    (machine.setThread thread state).threads other = machine.threads other := by
  simp [setThread, differ]

/-- A command changed only its thread, and perhaps asked. -/
theorem Turned.ofThread {state : Thread} (settled : machine.status.Settled)
    (shared : command ≠ .shutDown) {events : List Event}
    (along : Procedure.Along Status.Move machine.status history machine.status later)
    (executed : Executes history events later)
    (course : Course machine.status (machine.threads thread) later command state events) :
    Turned thread command machine history (machine.setThread thread state) later where
  effect := .grown ⟨along, settled.2⟩
  up _ ready := ready
  down shut := absurd shut shared
  raised closed opened := absurd (closed.symm.trans opened) Bool.false_ne_true
  others _ differ := setThread_other state differ
  course := ⟨events, executed, by rw [setThread_self]; exact course⟩

theorem setThread_eta : machine.setThread thread (machine.threads thread) = machine := by
  obtain ⟨status, threads, compatible⟩ := machine
  have same :
      (fun other => if other = thread then threads thread else threads other) = threads := by
    funext other
    split
    next equal => rw [equal]
    next => rfl
  simp [setThread, same]

@[simp] theorem setThread_setThread (first second : Thread) :
    (machine.setThread thread first).setThread thread second =
      machine.setThread thread second := by
  unfold setThread
  congr 1
  funext other
  split
  next => rfl
  next differ => simp [differ]

/-- A command only asked. -/
theorem Turned.ofAsked {after : Machine} (settled : machine.status.Settled)
    (shared : command ≠ .shutDown) (asked : Asked machine history after later)
    (course : Course machine.status (machine.threads thread) later command
      (machine.threads thread) []) :
    Turned thread command machine history after later := by
  obtain ⟨rfl, quiet⟩ := asked
  have along := Status.growing_moves (Status.quiet_grows after.status quiet)
  have turned := Turned.ofThread settled shared along quiet.executes course
  rwa [setThread_eta] at turned

/-- A command ran operations on their plain collectives and changed its thread. -/
theorem Turned.ofPlain {state : Thread} {items : List Pending} {past : History}
    (settled : machine.status.Settled) (shared : command ≠ .shutDown)
    (quiet : Quiet history past) (ran : Thread.RanPlain true past items later)
    (course : ∀ {events}, Served (Pending.FellBack true) items events →
      (Smooth later → events.length = (items.takeWhile Pending.hasPlain).length) →
      Course machine.status (machine.threads thread) later command state events) :
    Turned thread command machine history (machine.setThread thread state) later := by
  obtain ⟨events, rfl, served, complete⟩ := ran
  have plain (event : Event) (member : event ∈ events) :=
    Thread.RanPlain.fellBack_isPlain served member
  have asked := Status.growing_moves (Status.quiet_grows machine.status quiet)
  exact .ofThread settled shared (asked.trans (Thread.RanPlain.moves _ plain))
    (quiet.executes.trans (Thread.RanPlain.executes plain)) (course served complete)

/-- A command launched operations and changed its thread. -/
theorem Turned.ofLaunches {state : Thread} {status : Status} {items : List SavedOperation}
    (settled : machine.status.Settled) (shared : command ≠ .shutDown)
    (launched : machine.status.LaunchedEach history items status later)
    (course : ∀ {events}, Served machine.status.Launches items events →
      (Smooth later → machine.status.ready = true →
        (∀ saved ∈ items, machine.status.Holds saved) → events.length = items.length) →
      Course machine.status (machine.threads thread) later command state events) :
    Turned thread command machine history { machine.setThread thread state with status }
      later where
  effect := by
    by_cases ready : machine.status.ready = true
    · exact .grown (.ofUp launched.moved (launched.steady.ready.trans ready))
    · have closed : machine.status.ready = false := by simpa using ready
      refine .grown ⟨launched.moved, fun _ => ?_⟩
      show status.Dormant
      rw [launched.idle closed]
      exact settled.2 closed
  up _ ready := launched.steady.ready.trans ready
  down shut := absurd shut shared
  raised closed opened :=
    absurd ((launched.steady.ready.trans closed).symm.trans opened) Bool.false_ne_true
  others _ differ := setThread_other state differ
  course := by
    obtain ⟨events, executed, served, complete⟩ := launched.executed
    refine ⟨events, executed, ?_⟩
    show Course _ _ _ _ ((machine.setThread thread state).threads thread) _
    rw [setThread_self]
    exact course served complete

section Calls

/-- The kernels are asked for, and only their refusal is an error. -/
theorem ensures_adjustStack {S : Type} {state : S} (config : Config) (comm : Communicator) :
    (adjustStack config comm).Ensures env state history
      (fun _ => Asked state history)
      (fun _ after later => Asked state history after later ∧ KernelsRefused history later) := by
  unfold adjustStack
  rw [ensures_bind, ensures_ask]
  generalize env.answer history .stackLimit = limit
  have asked : Asked state history state (⟨.stackLimit, limit⟩ :: history) :=
    .ask _ rfl state history
  rw [ensures_bind, ensures_ask, ensures_bind, ensures_accepted]
  generalize env.answer _ (.initKernels comm.architecture) = kernels
  have prepared : Asked state history state
      (⟨.initKernels comm.architecture, kernels⟩ :: ⟨.stackLimit, limit⟩ :: history) :=
    asked.trans (.ask _ rfl state _)
  cases kernels with
  | error reason => exact ⟨prepared, _, _, rfl, List.suffix_cons _ history, rfl⟩
  | ok needed =>
      simp only [ensures_ite, ensures_bind, ensures_ask, ensures_pure]
      generalize (_ && config.setStackSize) = raises
      cases raises with
      | true => exact prepared.trans (.ask ⟨.setStackLimit needed, _⟩ rfl state _)
      | false => exact prepared

/-- A communicator that is unfit is marked so when it joins, and that is all. -/
theorem run_join_unfit {config : Config} {comm : Communicator}
    (unfit : fit config comm = false) :
    (join config comm).run env machine history = ⟨.ok 0, machine.mark comm false, history⟩ := by
  apply Ensures.run_eq
  unfold join
  simp only [ensures_bind, ensures_modify, ensures_pure, unfit, Bool.not_false, if_true,
    and_self]

/-- A communicator that was prepared and is fit is served, if the catalog decides. -/
theorem ensures_join (config : Config) (comm : Communicator)
    (settled : machine.status.Settled) :
    (join config comm).Ensures env machine history
      (fun needed after later =>
        Status.Grown Status.Growth machine.status history after.status later ∧
        after.threads = machine.threads ∧
        (machine.status.ready = true → after.status.ready = true) ∧
        (fit config comm = true → after.status.ready = true ∧
          (after.status.selector = some .internal → after.status.Hosts comm needed)))
      (fun _ after later =>
        Status.Effect Status.Growth machine.status history after.status later ∧
        after.threads = machine.threads ∧
        (machine.status.ready = true → after.status.ready = true)) := by
  unfold join onStatus
  simp only [ensures_bind, ensures_modify, ensures_ite, ensures_pure, ensures_get,
    ensures_within]
  split
  next unfit =>
    refine ⟨⟨.refl, settled.2⟩, rfl, id, fun fits => ?_⟩
    simp [fits] at unfit
  next fits =>
    refine (Status.ensures_bringUp config comm settled).mono ?_ ?_
    · rintro channels status past ⟨grown, up, hosts⟩
      have finish {after : Machine} {later : History}
          (asked : Asked { machine.mark comm (fit config comm) with status } past after later) :
          Status.Grown Status.Growth machine.status history after.status later ∧
            after.threads = machine.threads ∧ after.status = status := by
        obtain ⟨rfl, quiet⟩ := asked
        exact ⟨⟨grown.along.trans (Status.quiet_grows status quiet), grown.settled⟩, rfl, rfl⟩
      split
      next first =>
        refine (ensures_adjustStack config comm).mono ?_ ?_
        · intro _ after later asked
          obtain ⟨along, threads, same⟩ := finish asked
          refine ⟨along, threads, ?_⟩
          rw [same]
          exact ⟨fun _ => up, fun _ => ⟨up, hosts⟩⟩
        · rintro _ after later ⟨asked, _⟩
          obtain ⟨along, threads, same⟩ := finish asked
          refine ⟨.grown along, threads, ?_⟩
          rw [same]
          exact fun _ => up
      next => exact ⟨grown, rfl, fun _ => up, fun _ => ⟨up, hosts⟩⟩
    · rintro _ status _ ⟨effect, same⟩
      exact ⟨effect, rfl, fun ready => same.trans ready⟩

/-- A choice changes nothing, and fails for an external scheduler only. -/
theorem ensures_choose (config : Config) (pending : Pending) :
    (choose config thread pending).Ensures env machine history
      (fun chosen after later => Asked machine history after later ∧
        ∀ handle, chosen = some handle → machine.status.Chooses pending.request handle)
      (fun _ after later => Asked machine history after later ∧
        machine.status.isExternal = true) := by
  unfold choose onBehalf onStatus
  simp only [ensures_bind, ensures_get, ensures_ite, ensures_within, ensures_pure]
  split
  next open_ =>
    have ready : machine.status.ready = true := by
      simp only [available, Bool.and_eq_true] at open_
      exact open_.2.2
    refine (Status.ensures_selectSlot pending.request).mono ?_ ?_
    · rintro chosen _ later ⟨⟨rfl, quiet⟩, first⟩
      exact ⟨⟨rfl, quiet⟩, fun handle some => ⟨ready, first handle some⟩⟩
    · rintro _ _ later ⟨⟨rfl, quiet⟩, foreign⟩
      exact ⟨⟨rfl, quiet⟩, foreign⟩
  next => exact ⟨.done machine history, by simp⟩

theorem ensures_closeGroup (settled : machine.status.Settled) :
    (closeGroup thread).Ensures env machine history
      (fun _ => Turned thread .closeGroup machine history)
      (fun _ => Turned thread .closeGroup machine history) := by
  unfold closeGroup onThread Thread.closeGroup onBehalf onStatus
  simp only [ensures_bind, ensures_within, ensures_get, ensures_ite, ensures_throw, ensures_set,
    ensures_pure]
  split
  next unopened =>
    exact .ofThread settled (by simp) .refl (.nil history)
      (.idle (by simp) (by simp) (fun _ => unopened) (by simp [Command.submission?]) rfl rfl rfl)
  next opened =>
    split
    next deep => exact .ofThread settled (by simp) .refl (.nil history) (.inner deep)
    next shallow =>
      have outermost : (machine.threads thread).depth = 1 := by omega
      split
      next scheduling =>
        have finish {status : Status} {later : History} (launched : machine.status.LaunchedEach
            history (machine.threads thread).saved status later) := Turned.ofLaunches settled
          (by simp) launched (.flushed outermost scheduling)
        exact (Status.ensures_launchEach settled.1 _).mono (fun _ _ _ => finish)
          (fun _ _ _ => finish)
      next fallen =>
        exact .ofThread settled (by simp) .refl (.nil history) (.ended outermost fallen)

theorem ensures_fallBackOn (pending : Pending) :
    let fell := fun after later =>
      after = machine.setThread thread { machine.threads thread with saved := [] } ∧
      Thread.RanPlain true history
        ((machine.threads thread).saved.map (·.toPending) ++ [pending]) later
    (onThread thread (Thread.fallBack pending)).Ensures env machine history
      (fun _ => fell) (fun _ => fell) := by
  intro fell
  unfold onThread
  rw [ensures_within]
  refine (Thread.ensures_fallBack pending).mono ?_ ?_
  · rintro _ _ _ ⟨rfl, ran⟩
    exact ⟨rfl, ran⟩
  · rintro _ _ _ ⟨rfl, ran⟩
    exact ⟨rfl, ran⟩

/-- An operation falls back where its group does not save operations. -/
theorem ensures_leave {pending : Pending} {past : History}
    (settled : machine.status.Settled) (submitted : command.submission? = some pending)
    (valid : pending.Valid) (phase : (machine.threads thread).phase ≠ .scheduling)
    (quiet : Quiet past history) :
    (onThread thread (Thread.fallBack pending)).Ensures env machine history
      (fun _ => Turned thread command machine past)
      (fun _ => Turned thread command machine past) := by
  have shared : command ≠ .shutDown := by
    rintro rfl
    cases submitted
  refine (ensures_fallBackOn pending).mono ?_ ?_
  · rintro _ _ _ ⟨rfl, ran⟩
    exact .ofPlain settled shared quiet ran (.fellBack submitted valid phase)
  · rintro _ _ _ ⟨rfl, ran⟩
    exact .ofPlain settled shared quiet ran (.fellBack submitted valid phase)

/-- An operation turns its group where it has no algorithm. -/
theorem ensures_turn {pending : Pending} {past : History}
    (settled : machine.status.Settled) (submitted : command.submission? = some pending)
    (valid : pending.Valid) (phase : (machine.threads thread).phase = .scheduling)
    (quiet : Quiet past history) :
    Ensures (do
        onThread thread (modify fun state => { state with phase := .fallingBack })
        onThread thread (Thread.fallBack pending)) env machine history
      (fun _ => Turned thread command machine past)
      (fun _ => Turned thread command machine past) := by
  have shared : command ≠ .shutDown := by
    rintro rfl
    cases submitted
  rw [ensures_bind, onThread, ensures_within, ensures_modify]
  refine (ensures_fallBackOn pending).mono ?_ ?_
  · rintro _ _ _ ⟨rfl, ran⟩
    rw [setThread_setThread, setThread_self]
    rw [setThread_self] at ran
    exact .ofPlain settled shared quiet ran (.turned submitted valid phase)
  · rintro _ _ _ ⟨rfl, ran⟩
    rw [setThread_setThread, setThread_self]
    rw [setThread_self] at ran
    exact .ofPlain settled shared quiet ran (.turned submitted valid phase)

/-- An operation outside all groups is launched at once. -/
theorem ensures_launchNow {pending : Pending} {handle : Handle} {past : History}
    (settled : machine.status.Settled) (submitted : command.submission? = some pending)
    (valid : pending.Valid) (phase : (machine.threads thread).phase = .noGroup)
    (chooses : machine.status.Chooses pending.request handle) (quiet : Quiet past history) :
    (onBehalf thread (Status.launch · pending handle)).Ensures env machine history
      (fun _ => Turned thread command machine past)
      (fun _ => Turned thread command machine past) := by
  have shared : command ≠ .shutDown := by
    rintro rfl
    cases submitted
  let saved : SavedOperation := { pending with handle := some handle }
  have finish {status : Status} {later : History}
      (launched : machine.status.LaunchedEach history [saved] status later) :
      Turned thread command machine past { machine with status } later := by
    have course {events : List Event} (served : Served machine.status.Launches [saved] events)
        (complete : Smooth later → machine.status.ready = true →
          (∀ other ∈ [saved], machine.status.Holds other) → events.length = 1) :
        Course machine.status (machine.threads thread) later command (machine.threads thread)
          events := by
      refine .launched submitted valid phase chooses served fun smooth holds => ?_
      exact complete smooth chooses.ready fun _ member => by rwa [List.mem_singleton.mp member]
    have turned := Turned.ofLaunches settled shared (launched.after_quiet quiet) course
    rwa [setThread_eta] at turned
  unfold onBehalf onStatus
  rw [ensures_bind, ensures_get, ensures_within]
  have launched := @Status.ensures_launchOne env machine.status history
    (machine.threads thread).isCaller settled.1 saved handle rfl
  refine launched.mono ?_ ?_
  · exact fun _ _ _ => finish
  · exact fun _ _ _ => finish

theorem ensures_submit (config : Config) (operation : Operation) (comm : Communicator)
    (stream : Stream) (settled : machine.status.Settled) :
    (submit config thread operation comm stream).Ensures env machine history
      (fun _ => Turned thread (.submit operation comm stream) machine history)
      (fun _ => Turned thread (.submit operation comm stream) machine history) := by
  unfold submit
  rw [ensures_bind, ensures_ofExcept]
  have idle {later : History} (free : ∀ pending,
      (Command.submit operation comm stream).submission? = some pending → pending.Valid →
        machine.status.isExternal = true) :
      Course machine.status (machine.threads thread) later (.submit operation comm stream)
        (machine.threads thread) [] :=
    .idle (by simp) (by simp) (by simp) free rfl rfl rfl
  cases validated : (comm.request operation).validate with
  | error fault =>
      refine .ofAsked settled (by simp) (.done machine history) (idle ?_)
      intro pending same valid
      cases same
      rw [Pending.Valid, validated] at valid
      cases valid
  | ok =>
      let pending : Pending := { request := comm.request operation, comm, stream }
      have valid : pending.Valid := validated
      have unchosen {after : Machine} {later : History} (asked : Asked machine history after later ∧
          machine.status.isExternal = true) :
          Turned thread (.submit operation comm stream) machine history after later :=
        .ofAsked settled (by simp) asked.1 (idle fun _ _ _ => asked.2)
      simp only [ensures_bind, ensures_get]
      cases phase : (machine.threads thread).phase with
      | noGroup =>
          rw [ensures_bind]
          refine (ensures_choose config pending).mono ?_ (fun _ _ _ => unchosen)
          rintro chosen _ past ⟨⟨same, quiet⟩, chooses⟩
          rw [same]
          cases chosen with
          | none => exact ensures_leave settled rfl valid (by simp [phase]) quiet
          | some handle =>
              exact ensures_launchNow settled rfl valid phase (chooses handle rfl) quiet
      | scheduling =>
          rw [ensures_bind]
          refine (ensures_choose config pending).mono ?_ (fun _ _ _ => unchosen)
          rintro chosen _ past ⟨⟨same, quiet⟩, chooses⟩
          rw [same]
          cases chosen with
          | none => exact ensures_turn settled rfl valid phase quiet
          | some handle =>
              unfold onThread
              rw [ensures_within, ensures_modify]
              have asked := Status.growing_moves (Status.quiet_grows machine.status quiet)
              exact .ofThread settled (by simp) asked quiet.executes
                (.saved rfl valid phase (chooses handle rfl))
      | fallingBack => exact ensures_leave settled rfl valid (by simp [phase]) (.refl history)

/-- Every command of a thread follows a course of the thread. -/
theorem ensures_perform (config : Config) (thread : ThreadId) (command : Command)
    (settled : machine.status.Settled) :
    (perform config thread command).Ensures env machine history
      (fun _ => Turned thread command machine history)
      (fun _ => Turned thread command machine history) := by
  have ofGrown {after : Status} {later : History} (groupless : command.groupless = true)
      (grown : machine.status.GrownAlike history after later) :
      Turned thread command machine history { machine with status := after } later := by
    refine .ofStatus groupless (.grown grown.1) grown.2.trans ?_ rfl
    exact fun closed opened => absurd ((grown.2.trans closed).symm.trans opened)
      Bool.false_ne_true
  have ofState {state : Thread} (groupless : command.groupless = true)
      (depth : state.depth = (machine.threads thread).depth)
      (phase : state.phase = (machine.threads thread).phase)
      (saved : state.saved = (machine.threads thread).saved) :
      Turned thread command machine history (machine.setThread thread state) history := by
    refine .ofThread settled ?_ .refl (.nil history) (.ofGroupless groupless depth phase saved)
    rintro rfl
    cases groupless
  cases command with
  | install key =>
      simp only [perform, onStatus, ensures_bind, ensures_within, ensures_pure]
      exact (Status.ensures_install key settled).mono (fun _ _ _ => ofGrown rfl)
        (fun _ _ _ => ofGrown rfl)
  | join comm =>
      simp only [perform, ensures_bind, ensures_pure]
      refine (ensures_join config comm settled).mono ?_ ?_
      · rintro _ _ _ ⟨grown, threads, up, _⟩
        exact .ofStatus rfl (.grown grown) up (fun _ _ => ⟨comm, rfl⟩) threads
      · rintro _ _ _ ⟨effect, threads, up⟩
        exact .ofStatus rfl effect up (fun _ _ => ⟨comm, rfl⟩) threads
  | shutDown =>
      simp only [perform, shutDown, onThread, onStatus, ensures_bind, ensures_within,
        ensures_modify, ensures_pure]
      have finish {after : Status} {later : History}
          (shut : Status.Effect Status.Growth machine.status history after later ∧
            after.ready = false) :
          Turned thread .shutDown machine history
            { machine.setThread thread { machine.threads thread with saved := [] } with
              status := after } later := by
        refine ⟨shut.1.moves, by simp, fun _ => shut.2, ?_, fun _ => setThread_other _, [],
          shut.1.executes, ?_⟩
        · exact fun _ opened => absurd (shut.2.symm.trans opened) Bool.false_ne_true
        show Course _ _ _ _ ((machine.setThread thread _).threads thread) _
        rw [setThread_self]
        exact .forgot
      exact (Status.ensures_shutDown settled).mono (fun _ _ _ => finish) (fun _ _ _ => finish)
  | openGroup =>
      simp only [perform, onThread, ensures_bind, ensures_within, ensures_modify, ensures_pure]
      exact .ofThread settled (by simp) .refl (.nil history) .opened
  | closeGroup =>
      simp only [perform, ensures_bind, ensures_pure]
      exact ensures_closeGroup settled
  | submit operation comm stream =>
      simp only [perform, ensures_bind, ensures_pure]
      exact ensures_submit config operation comm stream settled
  | select request =>
      simp only [perform, onBehalf, onStatus, ensures_bind, ensures_get, ensures_within,
        ensures_pure]
      refine (Status.ensures_selectSlot request).mono ?_ ?_
      · rintro _ _ _ ⟨asked, _⟩
        exact ofGrown rfl (settled.askedAlike asked)
      · rintro _ _ _ ⟨asked, _⟩
        exact ofGrown rfl (settled.askedAlike asked)
  | load file rank =>
      simp only [perform, onStatus, ensures_bind, ensures_within, ensures_pure]
      exact (Status.ensures_loadFile file rank settled).mono (fun _ _ _ => ofGrown rfl)
        (fun _ _ _ => ofGrown rfl)
  | connect handle comm =>
      simp only [perform, onStatus, ensures_bind, ensures_within, ensures_pure]
      exact (Status.ensures_connectSlot handle comm settled).mono (fun _ _ _ => ofGrown rfl)
        (fun _ _ _ => ofGrown rfl)
  | setCaller | clearCaller =>
      simp only [perform, onThread, ensures_bind, ensures_within, ensures_modify, ensures_pure]
      exact ofState rfl rfl rfl rfl
  | pushGuard =>
      simp only [perform, onThread, ensures_bind, ensures_within, ensures_modify, ensures_pure]
      exact ofState rfl rfl rfl rfl
  | popGuard =>
      simp only [perform, onThread, Thread.popGuard, ensures_bind, ensures_within, ensures_get]
      cases (machine.threads thread).guards with
      | nil => exact ofState rfl rfl rfl rfl
      | cons mark others => exact ofState rfl rfl rfl rfl

end Calls

end Machine

end Collective
