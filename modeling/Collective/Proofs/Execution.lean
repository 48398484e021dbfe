import Collective.Proofs.Status.Calls
import Collective.Plain

/-!
# How operations are executed

Saved operations are launched, or run on their plain collectives, in order and up to
the first that fails.  `Served` relates them to the calls that executed them; where no
call is refused only an operation without a plain collective can end a batch early.
-/

namespace Collective

open Procedure History

/-- Calls that executed the first of some items, in order. -/
inductive Served {ι : Type} (ran : ι → Event → Prop) : List ι → List Event → Prop where
  | stop {items : List ι} : Served ran items []
  | next {item : ι} {event : Event} {items : List ι} {events : List Event} :
      ran item event → Served ran items events → Served ran (item :: items) (event :: events)

namespace Served

variable {ι κ : Type} {ran : ι → Event → Prop} {items : List ι} {events : List Event}

theorem length_le (served : Served ran items events) : events.length ≤ items.length := by
  induction served with
  | stop => simp
  | next _ _ ih => simp [ih]

theorem append (served : Served ran items events) (others : List ι) :
    Served ran (items ++ others) events := by
  induction served with
  | stop => exact .stop
  | next ran _ ih => exact .next ran ih

theorem mono {other : ι → Event → Prop} (served : Served ran items events)
    (imp : ∀ item event, ran item event → other item event) : Served other items events := by
  induction served with
  | stop => exact .stop
  | next ran _ ih => exact .next (imp _ _ ran) ih

/-- Each call executed one of the items. -/
theorem exists_ran (served : Served ran items events) {event : Event} (member : event ∈ events) :
    ∃ item ∈ items, ran item event := by
  induction served with
  | stop => cases member
  | next ran _ ih =>
      rcases List.mem_cons.mp member with rfl | there
      · exact ⟨_, List.mem_cons_self, ran⟩
      · obtain ⟨item, inItems, found⟩ := ih there
        exact ⟨item, List.mem_cons_of_mem _ inItems, found⟩

/-- Of one item alone no more than that is executed. -/
theorem single {item : ι} (served : Served ran [item] events) :
    events.length ≤ 1 ∧ ∀ event ∈ events, ran item event := by
  refine ⟨served.length_le, fun event member => ?_⟩
  obtain ⟨other, isItem, found⟩ := served.exists_ran member
  rwa [List.mem_singleton.mp isItem] at found

/-- Each call executed the item at its place. -/
theorem zip {paired : ι → κ → Prop} {others : List κ} (served : Served ran items events)
    (matched : List.Forall₂ paired items others) {other : κ} {event : Event}
    (member : (other, event) ∈ others.zip events) :
    ∃ item ∈ items, paired item other ∧ ran item event := by
  induction served generalizing others with
  | stop => simp at member
  | next ran _ ih =>
      cases matched with
      | cons first rest =>
          rcases List.mem_cons.mp member with here | there
          · obtain ⟨rfl, rfl⟩ := Prod.mk.inj here
            exact ⟨_, List.mem_cons_self, first, ran⟩
          · obtain ⟨item, inItems, found⟩ := ih rest there
            exact ⟨item, List.mem_cons_of_mem _ inItems, found⟩

end Served

/-- What a plain collective is called with for an operation. -/
def Pending.plainCall (pending : Pending) (arguments : PlainArguments) (asCaller : Bool) :
    PlainCall where
  arguments := arguments
  count := pending.request.operation.count
  element := pending.request.operation.element
  comm := pending.comm
  stream := pending.stream
  asCaller := asCaller

/-- Whether an operation has a plain collective. -/
def Pending.hasPlain (pending : Pending) : Bool := pending.request.operation.plain?.isSome

/-- A call of the plain collective of an operation, with all its parameters. -/
def Pending.FellBack (asCaller : Bool) (pending : Pending) (event : Event) : Prop :=
  ∃ arguments answer, pending.request.operation.plain? = some arguments ∧
    event = ⟨.plain (pending.plainCall arguments asCaller), answer⟩

theorem not_smooth {event : Event} (refused : event.refused = true) (history : History) :
    ¬ Smooth (event :: history) := by
  intro smooth
  have accepted := smooth event List.mem_cons_self
  rw [refused] at accepted
  cases accepted

/-- A call that has the runtime, the device or a plain collective do something. -/
def Call.works : Call → Bool
  | .load _ _ | .unload _ | .connect _ _ | .launch _ | .plain _ => true
  | .allocate _ _ | .free _ _ | .stackLimit | .setStackLimit _ | .initKernels _ => true
  | _ => false

/-- An error passes on that the latest call was refused, which was made since a moment. -/
structure Error.Blames (error : Error) (past now : History) : Prop where
  reason : ∃ reason, error = .collaborator reason
  latest : ∃ event earlier, now = event :: earlier ∧ past <:+ earlier ∧
    event.call.works = true ∧ event.refused = true

namespace Error.Blames

variable {error : Error} {past middle now : History}

theorem refusal {event : Event} (reason : String) (works : event.call.works = true)
    (refused : event.refused = true) (suffix : past <:+ now) :
    (Error.collaborator reason).Blames past (event :: now) :=
  ⟨⟨reason, rfl⟩, event, now, rfl, suffix, works, refused⟩

theorem since (blames : error.Blames middle now) (suffix : past <:+ middle) :
    error.Blames past now := by
  obtain ⟨reason, event, earlier, same, later, rest⟩ := blames
  exact ⟨reason, event, earlier, same, suffix.trans later, rest⟩

theorem not_smooth (blames : error.Blames past now) : ¬ Smooth now := by
  obtain ⟨_, event, earlier, rfl, _, _, refused⟩ := blames
  exact Collective.not_smooth refused earlier

end Error.Blames

namespace Status

variable {env : Environment} {status after : Status} {history later : History}

/-- A launch of a saved operation, with all its parameters, on what is loaded in its
slot. -/
def Launches (status : Status) (saved : SavedOperation) (event : Event) : Prop :=
  ∃ launch answer, event = ⟨.launch launch, answer⟩ ∧ launch.request = saved.request ∧
    launch.comm = saved.comm ∧ launch.stream = saved.stream ∧
    saved.handle = some launch.handle ∧ status.ready = true ∧
    status.store.loaded.get? launch.handle = some launch.algorithm

/-- A saved operation has a slot that holds an algorithm. -/
def Holds (status : Status) (saved : SavedOperation) : Prop :=
  ∃ handle algorithm, saved.handle = some handle ∧
    status.store.loaded.get? handle = some algorithm

theorem Growth.executes (grown : Growth status history after later) :
    Executes history [] later := by
  cases grown with
  | call quiet => exact (Quiet.cons quiet history).executes
  | choose | list | refill | reset => exact .nil history
  | start | drop | stretch => exact .none rfl history
  | store sound moved =>
      cases moved with
      | call quiet => exact (Quiet.cons quiet history).executes
      | undo => exact ⟨_, rfl, rfl⟩
      | load algorithm image | assign algorithm image =>
          cases image <;> exact ⟨_, rfl, rfl⟩
      | connect => exact .none rfl history

theorem growing_executes (grown : Along Growth status history after later) :
    Executes history [] later := by
  induction grown with
  | refl => exact .nil history
  | step _ moved ih => exact ih.trans moved.executes

theorem growing_moves (grown : Along Growth status history after later) :
    Along Move status history after later :=
  grown.refine fun moved => .single (.growth moved)

/-- What a launch leaves as it was. -/
structure Steady (before after : Status) : Prop where
  store : after.store = before.store
  ready : after.ready = before.ready
  flags : after.syncFlags = before.syncFlags

theorem Steady.refl (status : Status) : Steady status status := ⟨rfl, rfl, rfl⟩

theorem Steady.trans {first second third : Status} (before : Steady first second)
    (after : Steady second third) : Steady first third where
  store := after.store.trans before.store
  ready := after.ready.trans before.ready
  flags := after.flags.trans before.flags

theorem ensures_stretch (bytes : UInt64) (up : status.ready = true)
    (none : status.scratch = none) :
    Ensures (do
        let buffer ← accepted (← ask (.allocate .scratch bytes))
        modify fun status => { status with scratch := some buffer }) env status history
      (fun _ after later => Along Growth status history after later ∧ Steady status after)
      (fun error after later => Along Growth status history after later ∧
        Steady status after ∧ error.Blames history later) := by
  simp only [ensures_bind, ensures_ask, ensures_accepted, ensures_modify]
  cases allocated : env.answer history (.allocate .scratch bytes) with
  | ok buffer => exact ⟨.single (.stretch buffer bytes up none), rfl, rfl, rfl⟩
  | error reason =>
      exact ⟨.single (.call rfl), .refl status, .refusal reason rfl rfl List.suffix_rfl⟩

/-- The working memory is large enough afterwards, or a call was refused. -/
theorem ensures_ensureScratch (bytes : UInt64) (up : status.ready = true) :
    (ensureScratch bytes).Ensures env status history
      (fun _ after later => Along Growth status history after later ∧ Steady status after)
      (fun error after later => Along Growth status history after later ∧
        Steady status after ∧ error.Blames history later) := by
  unfold ensureScratch
  simp only [ensures_bind, ensures_get, ensures_ite, ensures_pure]
  split
  next => exact ⟨.refl, .refl status⟩
  next =>
    cases held : status.scratch with
    | none => exact ensures_stretch bytes up held
    | some old =>
        have dropped (answer : Fallible Unit) : Along Growth status history
            { status with scratch := none } (⟨.free .scratch old, answer⟩ :: history) :=
          .single (.drop answer up held)
        have steady : Steady status { status with scratch := none } := ⟨rfl, rfl, rfl⟩
        rw [ensures_bind, ensures_modify, ensures_bind, ensures_ask, ensures_bind,
          ensures_accepted]
        cases freed : env.answer history (.free .scratch old) with
        | error reason => exact ⟨dropped _, steady, .refusal reason rfl rfl List.suffix_rfl⟩
        | ok =>
            refine (ensures_stretch bytes ?_ ?_).mono ?_ ?_
            · exact up
            · rfl
            · rintro _ _ _ ⟨grown, same⟩
              exact ⟨(dropped _).trans grown, steady.trans same⟩
            · rintro _ _ _ ⟨grown, same, blames⟩
              exact ⟨(dropped _).trans grown, steady.trans same,
                blames.since (List.suffix_cons _ history)⟩

/-- One launch of an operation on the algorithm in a slot was asked for. -/
structure Issued (status : Status) (history : History) (pending : Pending) (handle : Handle)
    (algorithm : Instance) (after : Status) (later : History) : Prop where
  moved : Move status history after later
  steady : Steady status after
  called : ∃ launch answer, later = ⟨.launch launch, answer⟩ :: history ∧
    launch.request = pending.request ∧ launch.comm = pending.comm ∧
    launch.stream = pending.stream ∧ launch.handle = handle ∧ launch.algorithm = algorithm

/-- A launch that is possible is asked for once there is enough working memory. -/
theorem ensures_issue {asCaller : Bool} (pending : Pending) {handle : Handle} {algorithm : Instance}
    (up : status.ready = true) (loaded : status.store.loaded.get? handle = some algorithm)
    (flagged : status.syncFlags.isSome = true) :
    Ensures (do
        let status ← get
        match status.syncFlags with
        | none => throw (.misuse .noSyncFlags)
        | some syncFlags =>
            accepted
              (← ask (.launch (status.launchOf asCaller pending handle algorithm syncFlags)))
            modify fun status =>
              { status with
                workIndex := status.workIndex + 1
                lastStream := some pending.stream }) env status history
      (fun _ => status.Issued history pending handle algorithm)
      (fun error after later => status.Issued history pending handle algorithm after later ∧
        error.Blames history later) := by
  obtain ⟨syncFlags, flags⟩ := Option.isSome_iff_exists.mp flagged
  have moved (answer : Fallible Unit) :=
    @Move.launch status history asCaller pending handle algorithm syncFlags answer up loaded flags
  rw [ensures_bind, ensures_get, flags, ensures_bind, ensures_ask, ensures_bind, ensures_accepted]
  generalize env.answer history _ = answer
  cases answer with
  | ok => exact ⟨moved (.ok ()), ⟨rfl, rfl, rfl⟩, _, _, rfl, rfl, rfl, rfl, rfl, rfl⟩
  | error reason =>
      refine ⟨⟨moved (.error reason), .refl status, _, _, rfl, rfl, rfl, rfl, rfl, rfl⟩, ?_⟩
      exact .refusal reason rfl rfl List.suffix_rfl

/-- A saved operation was launched. -/
structure LaunchedOne (status : Status) (history : History) (saved : SavedOperation)
    (after : Status) (later : History) : Prop where
  moved : Along Move status history after later
  steady : Steady status after
  executed : ∃ event, Executes history [event] later ∧ status.Launches saved event

theorem Issued.launchedOne {middle : Status} {past : History} {saved : SavedOperation}
    {handle : Handle} {algorithm : Instance}
    (issued : middle.Issued past saved.toPending handle algorithm after later)
    (grown : Along Growth status history middle past) (steady : Steady status middle)
    (given : saved.handle = some handle) (up : status.ready = true)
    (loaded : status.store.loaded.get? handle = some algorithm) :
    status.LaunchedOne history saved after later where
  moved := (growing_moves grown).step issued.moved
  steady := steady.trans issued.steady
  executed := by
    obtain ⟨work, answer, rfl, request, comm, stream, slot, same⟩ := issued.called
    refine ⟨⟨.launch work, answer⟩, (growing_executes grown).trans (.cons rfl past), ?_⟩
    refine ⟨work, answer, rfl, request, comm, stream, ?_, up, ?_⟩
    · rw [slot, given]
    · rw [slot, same, loaded]

/-- An operation is launched once, unless that is impossible or a call is refused; then
the error passes on the refusal. -/
theorem ensures_launch {asCaller : Bool} (coherent : status.Coherent) (saved : SavedOperation)
    {handle : Handle} (given : saved.handle = some handle) :
    (launch asCaller saved.toPending handle).Ensures env status history
      (fun _ => status.LaunchedOne history saved)
      (fun error after later => Along Move status history after later ∧ Steady status after ∧
        (status.ready = false → after = status) ∧
        ∃ events, Executes history events later ∧ Served status.Launches [saved] events ∧
          (status.ready = true → status.Holds saved → error.Blames history later)) := by
  unfold launch
  simp only [ensures_bind, ensures_get, ensures_ite, ensures_throw]
  split
  next closed =>
    refine ⟨.refl, .refl status, fun _ => trivial, [], .nil history, .stop, fun up => ?_⟩
    simp [up] at closed
  next opened =>
    have up : status.ready = true := by simpa using opened
    have never {claim : Prop} (closed : status.ready = false) : claim := by
      rw [up] at closed
      cases closed
    cases loaded : status.store.loaded.get? handle with
    | none =>
        refine ⟨.refl, .refl status, never, [], .nil history, .stop, fun _ holds => ?_⟩
        obtain ⟨other, algorithm, same, found⟩ := holds
        rw [given] at same
        cases same
        rw [loaded] at found
        cases found
    | some algorithm =>
        rw [ensures_bind, ensures_ask, ensures_bind]
        have sized (bytes : UInt64) : Along Growth status history status
            (⟨.scratchBytes algorithm saved.request, bytes⟩ :: history) := .single (.call rfl)
        refine (ensures_ensureScratch _ up).mono ?_ ?_
        · rintro _ middle past ⟨stretched, steady⟩
          have grown := (sized _).trans stretched
          have middleUp : middle.ready = true := steady.ready.trans up
          have middleLoaded : middle.store.loaded.get? handle = some algorithm := by
            rw [steady.store, loaded]
          have flagged : middle.syncFlags.isSome = true := by
            rw [steady.flags, ← coherent.flags, up]
          refine (ensures_issue saved.toPending middleUp middleLoaded flagged).mono ?_ ?_
          · exact fun _ _ _ issued => issued.launchedOne grown steady given up loaded
          · rintro _ after later ⟨issued, blames⟩
            have launched := issued.launchedOne grown steady given up loaded
            obtain ⟨event, executed, ran⟩ := launched.executed
            exact ⟨launched.moved, launched.steady, never, [event], executed, .next ran .stop,
              fun _ _ => blames.since (growing_executes grown).suffix⟩
        · rintro _ _ _ ⟨stretched, steady, blames⟩
          have grown := (sized _).trans stretched
          exact ⟨growing_moves grown, steady, never, [], growing_executes grown, .stop,
            fun _ _ => blames.since (List.suffix_cons _ history)⟩

theorem Steady.launches {saved : SavedOperation} {event : Event} (steady : Steady status after)
    (launched : after.Launches saved event) : status.Launches saved event := by
  unfold Launches at *
  rwa [steady.store, steady.ready] at launched

theorem Steady.holds {saved : SavedOperation} (steady : Steady status after)
    (held : status.Holds saved) : after.Holds saved := by
  unfold Holds at *
  rwa [steady.store]

/-- Saved operations were launched in order, each once, up to the first that failed.  It
did not fail unless a call was refused or the launch was impossible. -/
structure LaunchedEach (status : Status) (history : History) (items : List SavedOperation)
    (after : Status) (later : History) : Prop where
  moved : Along Move status history after later
  steady : Steady status after
  idle : status.ready = false → after = status
  executed : ∃ events, Executes history events later ∧ Served status.Launches items events ∧
    (Smooth later → status.ready = true → (∀ saved ∈ items, status.Holds saved) →
      events.length = items.length)

namespace LaunchedEach

variable {saved : SavedOperation} {others : List SavedOperation}

theorem none (status : Status) (history : History) :
    status.LaunchedEach history [] status history where
  moved := .refl
  steady := .refl status
  idle _ := rfl
  executed := ⟨[], .nil history, .stop, fun _ _ _ => rfl⟩

/-- The first operation failed. -/
theorem stopped {error : Error} {events : List Event}
    (moved : Along Move status history after later)
    (steady : Steady status after) (idle : status.ready = false → after = status)
    (executed : Executes history events later)
    (served : Served status.Launches [saved] events)
    (blamed : status.ready = true → status.Holds saved → error.Blames history later) :
    status.LaunchedEach history (saved :: others) after later where
  moved := moved
  steady := steady
  idle := idle
  executed := by
    refine ⟨events, executed, served.append others, ?_⟩
    intro smooth up holds
    exact absurd smooth (blamed up (holds saved List.mem_cons_self)).not_smooth

/-- The first operation was launched. -/
theorem cons {middle : Status} {past : History}
    (first : status.LaunchedOne history saved middle past)
    (rest : middle.LaunchedEach past others after later) :
    status.LaunchedEach history (saved :: others) after later where
  moved := first.moved.trans rest.moved
  steady := first.steady.trans rest.steady
  idle closed := by
    obtain ⟨_, _, _, _, _, _, _, _, _, up, _⟩ := first.executed
    rw [up] at closed
    cases closed
  executed := by
    obtain ⟨event, executed, ran⟩ := first.executed
    obtain ⟨events, executedRest, served, complete⟩ := rest.executed
    have steady := first.steady
    have each := served.mono fun _ _ => steady.launches
    refine ⟨event :: events, executed.trans executedRest, .next ran each, ?_⟩
    intro smooth up holds
    have all := complete smooth (steady.ready.trans up) fun other member =>
      steady.holds (holds other (List.mem_cons_of_mem saved member))
    simp [all]

/-- Questions may come first. -/
theorem after_quiet {items : List SavedOperation} {past : History} (quiet : Quiet history past)
    (launched : status.LaunchedEach past items after later) :
    status.LaunchedEach history items after later where
  moved := (growing_moves (quiet_grows status quiet)).trans launched.moved
  steady := launched.steady
  idle := launched.idle
  executed := by
    obtain ⟨events, executed, rest⟩ := launched.executed
    exact ⟨events, quiet.executes.trans executed, rest⟩

end LaunchedEach

theorem ensures_launchOne {asCaller : Bool} (coherent : status.Coherent) {saved : SavedOperation}
    {handle : Handle} (given : saved.handle = some handle) :
    (launch asCaller saved.toPending handle).Ensures env status history
      (fun _ => status.LaunchedEach history [saved])
      (fun _ => status.LaunchedEach history [saved]) := by
  refine (ensures_launch coherent saved given).mono ?_ ?_
  · exact fun _ middle past launched => .cons launched (.none middle past)
  · rintro _ _ _ ⟨moved, steady, idle, events, executed, served, blamed⟩
    exact .stopped moved steady idle executed served blamed

theorem ensures_launchEach {asCaller : Bool} (coherent : status.Coherent)
    (items : List SavedOperation) :
    (launchEach asCaller items).Ensures env status history
      (fun _ => status.LaunchedEach history items)
      (fun _ => status.LaunchedEach history items) := by
  induction items generalizing status history with
  | nil => exact .none status history
  | cons saved others ih =>
      unfold launchEach
      cases given : saved.handle with
      | none =>
          have never : status.ready = true → status.Holds saved →
              (Error.misuse .savedWithoutHandle).Blames history history := by
            rintro _ ⟨handle, _, filled, _⟩
            rw [given] at filled
            cases filled
          exact .stopped .refl (.refl status) (fun _ => rfl) (.nil history) .stop never
      | some handle =>
          rw [ensures_bind]
          refine (ensures_launch coherent saved given).mono ?_ ?_
          · intro _ middle past launched
            apply (ih (moving_coherent launched.moved coherent)).mono
            · exact fun _ _ _ rest => .cons launched rest
            · exact fun _ _ _ rest => .cons launched rest
          · rintro _ _ _ ⟨moved, steady, idle, events, executed, served, blamed⟩
            exact .stopped moved steady idle executed served blamed

end Status

namespace Thread

variable {env : Environment} {thread after : Thread} {history later : History}

/-- Operations were run on their plain collectives in order, each once, up to the first
that failed.  It did not fail unless a call was refused or it has no plain
collective. -/
def RanPlain (asCaller : Bool) (history : History) (items : List Pending)
    (later : History) : Prop :=
  ∃ events, later = events.reverse ++ history ∧
    Served (Pending.FellBack asCaller) items events ∧
    (Smooth later → events.length = (items.takeWhile Pending.hasPlain).length)

namespace RanPlain

variable {asCaller : Bool} {pending : Pending} {others : List Pending}

theorem none (asCaller : Bool) (history : History) : RanPlain asCaller history [] history :=
  ⟨[], rfl, .stop, fun _ => rfl⟩

/-- The first operation has no plain collective. -/
theorem unable (absent : pending.request.operation.plain? = .none) :
    RanPlain asCaller history (pending :: others) history :=
  ⟨[], rfl, .stop, fun _ => by simp [Pending.hasPlain, absent]⟩

/-- The plain collective of the first operation was refused. -/
theorem refused {event : Event} (ran : pending.FellBack asCaller event)
    (refused : event.refused = true) :
    RanPlain asCaller history (pending :: others) (event :: history) :=
  ⟨[event], rfl, .next ran .stop, fun smooth => absurd smooth (not_smooth refused history)⟩

/-- The first operation was run. -/
theorem cons {event : Event} (ran : pending.FellBack asCaller event)
    (rest : RanPlain asCaller (event :: history) others later) :
    RanPlain asCaller history (pending :: others) later := by
  obtain ⟨events, rfl, served, complete⟩ := rest
  refine ⟨event :: events, by simp, .next ran served, ?_⟩
  intro smooth
  have able : pending.hasPlain = true := by
    obtain ⟨arguments, _, found, _⟩ := ran
    simp [Pending.hasPlain, found]
  simp [able, complete smooth]

theorem fellBack_isPlain {items : List Pending} {events : List Event}
    (served : Served (Pending.FellBack asCaller) items events) {event : Event}
    (member : event ∈ events) : ∃ call answer, event = ⟨.plain call, answer⟩ := by
  obtain ⟨_, _, _, answer, _, same⟩ := served.exists_ran member
  exact ⟨_, answer, same⟩

theorem executes {events : List Event}
    (plain : ∀ event ∈ events, ∃ call answer, event = ⟨.plain call, answer⟩) :
    Executes history events (events.reverse ++ history) := by
  refine ⟨events.reverse, rfl, ?_⟩
  have all : events.reverse.filter (fun event => event.call.executes) = events.reverse := by
    apply List.filter_eq_self.mpr
    intro event member
    obtain ⟨call, answer, rfl⟩ := plain event (List.mem_reverse.mp member)
    rfl
  simp [executions, all]

theorem moves (status : Status) {events : List Event}
    (plain : ∀ event ∈ events, ∃ call answer, event = ⟨.plain call, answer⟩) :
    Along Status.Move status history status (events.reverse ++ history) := by
  induction events generalizing history with
  | nil => exact .refl
  | cons event others ih =>
      obtain ⟨call, answer, rfl⟩ := plain _ List.mem_cons_self
      have rest := @ih (⟨.plain call, answer⟩ :: history)
        fun other member => plain other (List.mem_cons_of_mem _ member)
      simpa using (Along.single (.plain call answer)).trans rest

end RanPlain

/-- An operation is run on its plain collective once, unless it has none; an error passes
on that the plain collective was refused. -/
theorem ensures_runPlain (pending : Pending) :
    (runPlain pending).Ensures env thread history
      (fun _ after later => after = thread ∧ ∃ event, later = event :: history ∧
        pending.FellBack thread.isCaller event)
      (fun error after later => after = thread ∧
        ((pending.request.operation.plain? = none ∧ later = history) ∨
          ∃ event, later = event :: history ∧ pending.FellBack thread.isCaller event ∧
            event.refused = true ∧ error.Blames history later)) := by
  unfold runPlain
  dsimp only
  cases found : pending.request.operation.plain? with
  | none => exact ⟨rfl, .inl ⟨rfl, rfl⟩⟩
  | some arguments =>
      rw [ensures_bind, ensures_get, ensures_bind, ensures_ask, ensures_accepted]
      have ran (answer : Fallible Unit) : pending.FellBack thread.isCaller
          ⟨.plain (pending.plainCall arguments thread.isCaller), answer⟩ :=
        ⟨arguments, answer, found, rfl⟩
      generalize env.answer history _ = answer
      cases answer with
      | ok => exact ⟨rfl, _, rfl, ran _⟩
      | error reason =>
          exact ⟨rfl, .inr ⟨_, rfl, ran _, rfl, .refusal reason rfl rfl List.suffix_rfl⟩⟩

theorem ensures_runEachPlain (items : List Pending) :
    (runEachPlain items).Ensures env thread history
      (fun _ after later => after = thread ∧ RanPlain thread.isCaller history items later)
      (fun _ after later => after = thread ∧ RanPlain thread.isCaller history items later) := by
  induction items generalizing history with
  | nil => exact ⟨rfl, .none _ history⟩
  | cons pending others ih =>
      unfold runEachPlain
      rw [ensures_bind]
      refine (ensures_runPlain pending).mono ?_ ?_
      · rintro _ _ _ ⟨rfl, event, rfl, ran⟩
        refine ih.mono ?_ ?_
        · rintro _ _ _ ⟨same, rest⟩
          exact ⟨same, .cons ran rest⟩
        · rintro _ _ _ ⟨same, rest⟩
          exact ⟨same, .cons ran rest⟩
      · rintro _ _ _ ⟨rfl, ⟨absent, rfl⟩ | ⟨event, rfl, ran, refused, _⟩⟩
        · exact ⟨rfl, .unable absent⟩
        · exact ⟨rfl, .refused ran refused⟩

theorem runEachPlain_singleton (pending : Pending) :
    runEachPlain [pending] = runPlain pending :=
  bind_pure_unit

/-- Where nothing is saved, an operation that falls back is run alone. -/
theorem run_fallBack_alone (empty : thread.saved = []) (pending : Pending) :
    (fallBack pending).run env thread history =
      (asCaller (runPlain pending)).run env thread history := by
  have same : { thread with saved := [] } = thread := by rw [← empty]
  unfold fallBack takeSaved
  simp only [run_bind, run_get, run_set, run_pure, empty, same, List.map_nil, List.nil_append,
    runEachPlain_singleton]

/-- The saved operations and one more were run on their plain collectives. -/
theorem ensures_fallBack (pending : Pending) :
    let fell := fun (after : Thread) later => after = { thread with saved := [] } ∧
      RanPlain true history (thread.saved.map (·.toPending) ++ [pending]) later
    (fallBack pending).Ensures env thread history (fun _ => fell) (fun _ => fell) := by
  intro fell
  unfold fallBack takeSaved
  simp only [ensures_bind, ensures_get, ensures_set, ensures_pure, ensures_asCaller]
  refine (ensures_runEachPlain _).mono ?_ ?_
  · rintro _ _ _ ⟨rfl, ran⟩
    exact ⟨rfl, ran⟩
  · rintro _ _ _ ⟨rfl, ran⟩
    exact ⟨rfl, ran⟩

end Thread

end Collective
