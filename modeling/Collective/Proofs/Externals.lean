import Collective.Proofs.Footprint
import Collective.Proofs.Frame
import Collective.Proofs.Run

/-!
# External schedulers

An external scheduler is active from a start that succeeds until it is stopped.  The calls
of external schedulers are in turn: none is started while one is active, and only the active
one is asked and stopped.  The history tells which one is active, and it is the one that the
status names as its selector, whatever fails.
-/

namespace Collective

open Procedure History

namespace Event

/-- A start of an external scheduler that succeeds. -/
def starts : Event → Bool
  | ⟨.startExternal _, code⟩ => code == 0
  | _ => false

/-- A stop of an external scheduler, with whatever answer. -/
def stops (event : Event) : Bool :=
  match event.call with
  | .stopExternal _ => true
  | _ => false

end Event

namespace History

/-- The external scheduler that was started last with success, unless it was stopped
since. -/
def active? : History → Option External
  | [] => none
  | ⟨.startExternal scheduler, code⟩ :: past => if code = 0 then some scheduler else active? past
  | ⟨.stopExternal _, _⟩ :: _ => none
  | _ :: past => active? past

/-- How often an external scheduler was started with success. -/
def starts (history : History) : Nat := history.countP Event.starts

/-- How often an external scheduler was stopped. -/
def stops (history : History) : Nat := history.countP Event.stops

/-- A call of an external scheduler comes in turn. -/
def InTurn (past : History) : Call → Prop
  | .startExternal _ => active? past = none
  | .selectExternal scheduler _ _ | .stopExternal scheduler => active? past = some scheduler
  | _ => True

end History

/-- The external scheduler among selectors. -/
def Selector.external? : Option Selector → Option External
  | some (.external scheduler) => some scheduler
  | _ => none

/-- The selector is the active external scheduler, if one is active, and all calls came in
turn. -/
structure Paired (selector : Option Selector) (history : History) : Prop where
  active : active? history = Selector.external? selector
  inTurn : ∀ event past, event :: past <:+ history → InTurn past event.call

/-- What is about neither the selector nor its selections. -/
def Concern.neutral : Concern → Bool
  | .selector | .selection => false
  | _ => true

/-- A call that neither starts, asks nor stops an external scheduler. -/
def Call.neutral (call : Call) : Bool := call.concern.neutral

namespace Paired

variable {selector : Option Selector} {history later : History}

theorem nil : Paired none [] := ⟨rfl, by simp⟩

/-- The history goes on with a call that comes in turn. -/
theorem cons (paired : Paired selector history) (event : Event)
    (inTurn : InTurn history event.call) {after : Option Selector}
    (active : active? (event :: history) = Selector.external? after) :
    Paired after (event :: history) where
  active := active
  inTurn other past suffix := by
    rcases List.suffix_cons_iff.mp suffix with same | earlier
    · obtain ⟨rfl, rfl⟩ := List.cons.inj same
      exact inTurn
    · exact paired.inTurn other past earlier

/-- The history goes on with a call that is none of an external scheduler. -/
theorem other (paired : Paired selector history) (event : Event)
    (inTurn : InTurn history event.call)
    (active : active? (event :: history) = active? history) :
    Paired selector (event :: history) :=
  paired.cons event inTurn (active.trans paired.active)

theorem neutral (paired : Paired selector history) {event : Event}
    (neutral : event.call.neutral = true) : Paired selector (event :: history) := by
  obtain ⟨call, answer⟩ := event
  cases call with
  | openLibrary | startExternal | selectExternal | stopExternal => cases neutral
  | _ => exact paired.other _ (by trivial) rfl

theorem adds (paired : Paired selector history) {calls : List Call}
    (adds : Adds history calls later) (neutral : ∀ call ∈ calls, call.neutral = true) :
    Paired selector later := by
  obtain ⟨events, rfl, neutral⟩ := adds.exists_events neutral
  clear adds
  induction events with
  | nil => exact paired
  | cons event others ih =>
      have rest := ih fun other member => neutral other (List.mem_cons_of_mem event member)
      exact rest.neutral (neutral event List.mem_cons_self)

theorem only {concerns : List Concern} (paired : Paired selector history)
    (apart : concerns.all Concern.neutral = true) (made : Only (about concerns) history later) :
    Paired selector later := by
  obtain ⟨events, rfl, within⟩ := made
  induction events with
  | nil => exact paired
  | cons event others ih =>
      have rest := ih fun other member => within other (List.mem_cons_of_mem event member)
      have right := List.contains_iff_mem.mp (within event List.mem_cons_self)
      exact rest.neutral (List.all_eq_true.mp apart _ right)

/-- The active scheduler is stopped, if one is active. -/
theorem stopped (paired : Paired selector history)
    (stopped : Adds history (Status.stopping selector) later) : Paired none later := by
  obtain ⟨events, rfl, calls⟩ := stopped
  cases selector with
  | none =>
      obtain rfl : events = [] := by simpa [Status.stopping] using calls
      exact paired
  | some selector =>
      cases selector with
      | internal =>
          obtain rfl : events = [] := by simpa [Status.stopping] using calls
          exact ⟨paired.active, paired.inTurn⟩
      | external scheduler =>
          obtain ⟨⟨call, answer⟩, rfl, same⟩ : ∃ event, events = [event] ∧
              event.call = .stopExternal scheduler := by
            simpa [Status.stopping, List.map_eq_singleton_iff] using calls
          dsimp only at same
          subst same
          exact paired.cons ⟨.stopExternal scheduler, answer⟩ paired.active rfl

end Paired

/-! ## Procedures keep the calls in turn -/

section Procedures

variable {S α : Type} {env : Environment} {state : S} {history : History}

/-- What asks no external scheduler and leaves the selector alone keeps the calls in
turn. -/
theorem Procedure.Makes.paired {procedure : Procedure S α} {concerns : List Concern}
    (makes : procedure.Makes (about concerns))
    (apart : concerns.all Concern.neutral = true) (selector : S → Option Selector)
    (kept : ∀ chosen, procedure.Keeps fun state _ => selector state = chosen) :
    procedure.Keeps fun state => Paired (selector state) := by
  intro env state history paired
  apply ((kept (selector state) env state history rfl).only makes).mono
  · rintro _ _ _ ⟨same, made⟩
    rw [same]
    exact paired.only apart made
  · rintro _ _ _ ⟨same, made⟩
    rw [same]
    exact paired.only apart made

theorem External.ensures_started (scheduler : External) (paired : Paired none history) :
    (scheduler.start : Procedure S Unit).Ensures env state history
      (fun _ after later => after = state ∧ Paired (some (.external scheduler)) later)
      (fun _ after later => after = state ∧ Paired none later) := by
  unfold External.start External.checked
  simp only [ensures_bind, ensures_ask, ensures_ite, ensures_pure, ensures_throw]
  generalize env.answer history (.startExternal scheduler) = code
  split
  next succeeded =>
    refine ⟨trivial, paired.cons ⟨.startExternal scheduler, code⟩ paired.active ?_⟩
    simp [active?, succeeded, Selector.external?]
  next failed =>
    refine ⟨trivial, paired.other ⟨.startExternal scheduler, code⟩ paired.active ?_⟩
    simp [active?, failed]

theorem Selector.ensures_discovered (config : Config) (paired : Paired none history) :
    (Selector.discover config : Procedure S Selector).Ensures env state history
      (fun selector after later => after = state ∧ Paired (some selector) later)
      (fun _ after later => after = state ∧ Paired none later) := by
  unfold Selector.discover
  simp only [ensures_bind, ensures_ask, ensures_ite, ensures_pure]
  have opened : Paired none (⟨.openLibrary config.schedulerPath,
      env.answer history (.openLibrary config.schedulerPath)⟩ :: history) :=
    paired.other _ (by trivial) rfl
  split
  next => exact External.ensures_started _ opened
  next => exact ⟨trivial, opened.active, opened.inTurn⟩

/-- Only the active scheduler is asked. -/
theorem External.keeps_select (scheduler : External) (asCaller : Bool) (request : Request)
    (selector : S → Option Selector) :
    (scheduler.select asCaller request : Procedure S _).Keeps fun state history =>
      selector state = some (.external scheduler) ∧ Paired (selector state) history := by
  refine .bind (.ofExcept _) fun block => .bind (.ask ?_) fun verdict => ?_
  · rintro state history answer ⟨chosen, paired⟩
    rw [chosen] at paired ⊢
    exact ⟨rfl, paired.other ⟨.selectExternal scheduler block asCaller, answer⟩ paired.active rfl⟩
  · exact .bind (External.keeps_checked .select _) fun _ => .pure _

end Procedures

namespace Status

variable {α : Type}

/-- The external schedulers of a status are called in turn. -/
def Paired (status : Status) (history : History) : Prop :=
  Collective.Paired status.selector history

section Selector

variable {chosen : Option Selector}

theorem keeps_selector_onStore (procedure : Procedure Store α) :
    (onStore procedure).Keeps fun status _ => status.selector = chosen :=
  .within (fun _ => rfl) fun status => .always (status.selector = chosen) procedure

theorem keeps_selector_channels (config : Config) (comm : Communicator) (selector : Selector) :
    (channels config comm selector).Keeps fun status _ => status.selector = chosen := by
  cases selector with
  | internal =>
      refine .bind (.within (fun _ => rfl) fun status => ?_) fun _ => .bind .get fun _ => .pure _
      exact .always (status.selector = chosen) _
  | external scheduler => exact .pure _

end Selector

theorem keeps_paired_onStore {procedure : Procedure Store α}
    (makes : procedure.Makes (about [.store])) : (onStore procedure).Keeps Paired :=
  makes.within.paired rfl selector fun _ => keeps_selector_onStore procedure

theorem keeps_paired_ensureSelector (config : Config) : (ensureSelector config).Keeps Paired := by
  intro env status history paired
  unfold ensureSelector
  rw [ensures_bind, ensures_get]
  cases chosen : status.selector with
  | some selector => exact paired
  | none =>
      rw [Paired, chosen] at paired
      rw [ensures_bind]
      apply (Selector.ensures_discovered config paired).mono
      · rintro selector _ _ ⟨rfl, started⟩
        exact started
      · rintro _ _ _ ⟨rfl, failed⟩
        rw [Paired, chosen]
        exact failed

theorem keeps_paired_install (scheduler : External) : (install scheduler).Keeps Paired := by
  intro env status history paired
  unfold install
  rw [ensures_bind, ensures_get]
  cases chosen : status.selector with
  | some selector => exact paired
  | none =>
      rw [Paired, chosen] at paired
      simp only [Option.isSome_none, Bool.false_eq_true, if_false, ensures_bind]
      apply (External.ensures_started scheduler paired).mono
      · rintro _ _ _ ⟨rfl, started⟩
        exact started
      · rintro _ _ _ ⟨rfl, failed⟩
        rw [Paired, chosen]
        exact failed

theorem keeps_paired_select {asCaller : Bool} (request : Request) :
    (select asCaller request).Keeps Paired := by
  intro env status history paired
  unfold select
  rw [ensures_bind, ensures_get]
  cases chosen : status.selector with
  | none => exact paired
  | some selector =>
      cases selector with
      | internal =>
          dsimp only
          split <;> exact paired
      | external scheduler =>
          have asked := External.keeps_select scheduler asCaller request Status.selector env status
            history ⟨chosen, paired⟩
          exact asked.mono (fun _ _ _ kept => kept.2) (fun _ _ _ kept => kept.2)

/-- A release stops the active scheduler after everything else was given back. -/
theorem Released.paired {status after : Status} {history later : History}
    (released : Released status history after later) (paired : status.Paired history) :
    after.Paired later := by
  obtain ⟨loaded, images, -, -, rfl, adds⟩ := released
  rw [returning, ← List.append_assoc] at adds
  obtain ⟨middle, given, stopped⟩ := adds.split
  apply Collective.Paired.stopped (Collective.Paired.adds paired given ?_) stopped
  intro call member
  simp only [Store.returning, List.mem_append, List.mem_map] at member
  rcases member with (⟨_, _, rfl⟩ | ⟨_, _, rfl⟩) | ⟨_, _, rfl⟩ | ⟨_, _, rfl⟩ <;> rfl

theorem keeps_paired_release : release.Keeps Paired := by
  intro env status history paired
  have given {after : Status} {later : History}
      (released : Released status history { after with ready := false } later ∧
        after.ready = status.ready) : after.Paired later := released.1.paired paired
  exact ensures_release.mono (fun _ _ _ => given) (fun _ _ _ => given)

theorem keeps_paired_prepare (config : Config) (comm : Communicator) :
    (prepare config comm).Keeps Paired := by
  have serve (selector : Selector) {rest : Procedure Status UInt32} (kept : rest.Keeps Paired) :
      Keeps Paired (do
        if selector = .internal then
          onStore (Store.prepare (← get).catalog comm)
        rest) := by
    split
    · refine .bind .get fun status => .bind ?_ fun _ => kept
      exact keeps_paired_onStore (Store.makes_prepare status.catalog comm)
    · exact kept
  have listed (selector : Selector) := (makes_channels config comm selector).paired rfl
    Status.selector fun _ => keeps_selector_channels config comm selector
  have started := makes_startLaunches.paired rfl Status.selector fun chosen =>
    .through (fun _ => keeps_core_startLaunches) fun core => core.1 = chosen
  refine .bind (keeps_paired_ensureSelector config) fun selector => ?_
  refine .bind (listed selector) fun needed => .bind .get fun status => ?_
  cases status.ready with
  | true => exact serve selector (.pure _)
  | false =>
      refine .bind (.modify fun _ _ paired => paired) fun _ => serve selector ?_
      exact .bind started fun _ => .pure _

theorem keeps_paired_bringUp (config : Config) (comm : Communicator) :
    (bringUp config comm).Keeps Paired := by
  refine .bind .get fun status => ?_
  split
  · exact keeps_paired_prepare config comm
  · refine .tryCatch (keeps_paired_prepare config comm) fun error => ?_
    exact .bind (.attempt keeps_paired_release) fun _ => .throw _

theorem keeps_paired_shutDown : shutDown.Keeps Paired := by
  intro env status history paired
  unfold shutDown
  simp only [ensures_bind, ensures_get, ensures_ite, ensures_pure]
  split
  next =>
    apply (keeps_paired_release.attempt env status history paired).mono
    · intro result _ _ kept
      rw [ensures_modify]
      exact ensures_ofExcept_of result kept
    · exact fun _ _ _ kept => kept
  next =>
    split
    next =>
      apply (ensures_dismiss rfl).mono
      · rintro _ _ _ ⟨rfl, stopped⟩
        exact Collective.Paired.stopped paired stopped.adds
      · rintro _ _ _ ⟨rfl, stopped⟩
        exact Collective.Paired.stopped paired stopped.adds
    next => exact paired

end Status

namespace Machine

variable {α : Type}

/-- The external schedulers of a machine are called in turn. -/
def Paired (machine : Machine) (history : History) : Prop := machine.status.Paired history

theorem keeps_paired_onThread (thread : ThreadId) {procedure : Procedure Thread α}
    (makes : procedure.Makes (about [.plain])) : (onThread thread procedure).Keeps Paired := by
  refine makes.within.paired rfl (fun machine : Machine => machine.status.selector) fun chosen => ?_
  refine .within (fun _ => setThread_eta) fun machine => ?_
  exact .always (machine.status.selector = chosen) procedure

theorem keeps_paired_launchEach (thread : ThreadId) (operations : List SavedOperation) :
    (onBehalf thread (Status.launchEach · operations)).Keeps Paired :=
  keeps_onBehalf fun _ => (Status.makes_launchEach operations).paired rfl Status.selector
    fun chosen => .through (fun _ => Status.keeps_core_launchEach operations)
      fun core => core.1 = chosen

theorem keeps_paired_launch (thread : ThreadId) (pending : Pending) (handle : Handle) :
    (onBehalf thread (Status.launch · pending handle)).Keeps Paired :=
  keeps_onBehalf fun _ => (Status.makes_launch pending handle).paired rfl Status.selector
    fun chosen => .through (fun _ => Status.keeps_core_launch pending handle)
      fun core => core.1 = chosen

theorem keeps_paired_join (config : Config) (comm : Communicator) :
    (join config comm).Keeps Paired := by
  have adjusted : (adjustStack config comm).Keeps Paired :=
    (makes_adjustStack config comm).paired rfl (fun machine : Machine => machine.status.selector)
      fun chosen env machine history same =>
        (ensures_adjustStack config comm).mono (fun _ _ _ asked => asked.1 ▸ same)
          fun _ _ _ asked => asked.1.1 ▸ same
  refine .bind (.modify fun _ _ paired => paired) fun _ => ?_
  split
  · exact .pure _
  · refine .bind .get fun machine => ?_
    refine .bind (keeps_onStatus (Status.keeps_paired_bringUp config comm)) fun _ => ?_
    split
    · exact .bind adjusted fun _ => .pure _
    · exact .pure _

/-- Every command calls the external schedulers in turn. -/
theorem keeps_paired (config : Config) (thread : ThreadId) (command : Command) :
    (perform config thread command).Keeps Paired := by
  have changed (change : Thread → Thread) : (onThread thread (modify change)).Keeps Paired :=
    keeps_paired_onThread thread (.modify change)
  cases command with
  | install key =>
      exact .bind (keeps_onStatus (Status.keeps_paired_install _)) fun _ => .pure _
  | join comm => exact .bind (keeps_paired_join config comm) fun _ => .pure _
  | shutDown =>
      refine .bind (.bind (changed _) fun _ => ?_) fun _ => .pure _
      exact keeps_onStatus Status.keeps_paired_shutDown
  | closeGroup =>
      refine .bind (keeps_closeGroup ?_ (keeps_paired_launchEach thread)) fun _ => .pure _
      exact keeps_paired_onThread thread Thread.makes_closeGroup
  | submit operation comm stream =>
      refine .bind (keeps_submit operation comm stream ?_ (keeps_paired_launch thread)
        (fun _ => changed _) (changed _) ?_) fun _ => .pure _
      · exact fun request => keeps_onBehalf fun _ => Status.keeps_paired_select request
      · exact fun pending => keeps_paired_onThread thread (Thread.makes_fallBack pending)
  | select request =>
      exact .bind (keeps_onBehalf fun _ => Status.keeps_paired_select request) fun _ => .pure _
  | load file rank =>
      have kept := (Status.makes_load file rank).paired rfl Status.selector fun chosen => by
        refine .bind .get fun status => ?_
        split
        · exact .throw _
        · exact Status.keeps_selector_onStore _
      exact .bind (keeps_onStatus kept) fun _ => .pure _
  | connect handle comm =>
      have kept := Status.keeps_paired_onStore (Store.makes_connect handle comm)
      exact .bind (keeps_onStatus kept) fun _ => .pure _
  | openGroup | setCaller | clearCaller | pushGuard => exact .bind (changed _) fun _ => .pure _
  | popGuard =>
      exact .bind (keeps_paired_onThread thread Thread.makes_popGuard) fun _ => .pure _

end Machine

/-! ## Runs -/

namespace History

variable {history : History} {scheduler : External}

/-- A call that neither starts with success nor stops changes nobody's activity. -/
theorem active?_cons_of_other {event : Event} {past : History} (unstarted : event.starts = false)
    (unstopped : event.stops = false) : active? (event :: past) = active? past := by
  obtain ⟨call, answer⟩ := event
  cases call with
  | startExternal other =>
      have failed : answer ≠ 0 := by simpa [Event.starts] using unstarted
      simp [active?, failed]
  | stopExternal other => cases unstopped
  | _ => rfl

theorem active?_append_of_other {events past : History}
    (other : ∀ event ∈ events, event.starts = false ∧ event.stops = false) :
    active? (events ++ past) = active? past := by
  induction events with
  | nil => rfl
  | cons event rest ih =>
      obtain ⟨unstarted, unstopped⟩ := other event List.mem_cons_self
      rw [List.cons_append, active?_cons_of_other unstarted unstopped]
      exact ih fun event member => other event (List.mem_cons_of_mem _ member)

/-- The active scheduler was started with success, and nobody was started with success or
stopped since. -/
theorem started_of_active (active : active? history = some scheduler) :
    ∃ since earlier, history = since ++ ⟨.startExternal scheduler, 0⟩ :: earlier ∧
      ∀ event ∈ since, event.starts = false ∧ event.stops = false := by
  induction history with
  | nil => cases active
  | cons event past ih =>
      cases started : event.starts with
      | true =>
          obtain ⟨call, answer⟩ := event
          cases call <;> simp [Event.starts] at started
          subst started
          obtain rfl := Option.some.inj active
          exact ⟨[], past, rfl, by simp⟩
      | false =>
          cases stopped : event.stops with
          | true =>
              obtain ⟨call, answer⟩ := event
              cases call with
              | stopExternal other => simp [active?] at active
              | _ => cases stopped
          | false =>
              rw [active?_cons_of_other started stopped] at active
              obtain ⟨since, earlier, rfl, quiet⟩ := ih active
              refine ⟨event :: since, earlier, rfl, ?_⟩
              intro other member
              rcases List.mem_cons.mp member with rfl | rest
              · exact ⟨started, stopped⟩
              · exact quiet other rest

/-- Where all calls come in turn, every start that succeeded was followed by a stop, but for
that of the active scheduler. -/
theorem starts_eq (inTurn : ∀ event past, event :: past <:+ history → InTurn past event.call) :
    starts history = stops history + if (active? history).isSome then 1 else 0 := by
  induction history with
  | nil => rfl
  | cons event past ih =>
      have before := ih fun other earlier suffix =>
        inTurn other earlier (suffix.trans (List.suffix_cons event past))
      have now := inTurn event past List.suffix_rfl
      rw [starts, stops, List.countP_cons, List.countP_cons, ← starts, ← stops, before]
      cases started : event.starts with
      | true =>
          obtain ⟨call, answer⟩ := event
          cases call <;> simp [Event.starts] at started
          have idle : active? past = none := now
          simp [idle, started, active?, Event.stops]
      | false =>
          cases stopped : event.stops with
          | true =>
              obtain ⟨call, answer⟩ := event
              cases call with
              | stopExternal other =>
                  have active : active? past = some other := now
                  simp [active, active?]
              | _ => cases stopped
          | false =>
              rw [active?_cons_of_other started stopped]
              simp

end History

theorem Selector.eq_of_external? {selector : Option Selector} {scheduler : External}
    (named : external? selector = some scheduler) : selector = some (.external scheduler) := by
  unfold external? at named
  split at named
  · rw [Option.some.inj named]
  · cases named

/-- No command both asks an external scheduler and starts or stops one. -/
theorem Command.selector_not_mem_concerns {command : Command}
    (selection : .selection ∈ command.concerns) : .selector ∉ command.concerns := by
  cases command <;> simp_all [concerns]

namespace Run

variable {run : Run} {number : Nat}

theorem paired (run : Run) (number : Nat) :
    Paired (run.status number).selector (run.history number) := by
  have initially : (run.scene 0).machine.Paired (run.history 0) := Paired.nil
  exact keeps_of_commands (Machine.keeps_paired run.config) initially (Nat.zero_le number)

/-- The calls of a turn are of the kind that its command makes. -/
theorem made_between {kind : Event → Bool} {turn : Turn} (taken : run.turns[number]? = some turn)
    (makes : (Machine.perform run.config turn.thread turn.command).Makes kind) :
    ∀ event ∈ run.between number (number + 1), kind event = true := by
  obtain ⟨events, grown, made⟩ := makes run.env (run.scene number).machine (run.history number)
  have same : run.history (number + 1) = events ++ run.history number := by
    rw [← grown, history, scene_succ taken, outcome, history]
  rw [between_of_append same]
  exact made

/-- The calls of a turn are about the concerns of its command. -/
theorem only_between {turn : Turn} (taken : run.turns[number]? = some turn) :
    ∀ event ∈ run.between number (number + 1), about turn.command.concerns event = true :=
  made_between taken (Machine.makes_perform run.config turn.thread turn.command)

/-- An external scheduler is asked only by turns throughout which it is the selector. -/
theorem selector_of_asked {scheduler : External} {block : Block} {asCaller : Bool}
    {verdict : Verdict}
    (asked : ⟨.selectExternal scheduler block asCaller, verdict⟩ ∈
      run.between number (number + 1)) :
    (run.status number).selector = some (.external scheduler) := by
  cases taken : run.turns[number]? with
  | none =>
      rw [@between_of_append run number (number + 1) [] (history_past_end taken)] at asked
      cases asked
  | some turn =>
      have concerned := only_between taken
      have apart : .selector ∉ turn.command.concerns :=
        Command.selector_not_mem_concerns (List.contains_iff_mem.mp (concerned _ asked))
      obtain ⟨later, earlier, parts⟩ := List.append_of_mem asked
      have other (event : Event) (member : event ∈ earlier) :
          event.starts = false ∧ event.stops = false := by
        have within := concerned event (by rw [parts]; simp [member])
        obtain ⟨call, answer⟩ := event
        cases call with
        | startExternal | stopExternal =>
            exact absurd (List.contains_iff_mem.mp within) apart
        | _ => exact ⟨rfl, rfl⟩
      -- Nobody was started or stopped in this turn before the scheduler was asked.
      have inTurn : active? (earlier ++ run.history number) = some scheduler := by
        apply (run.paired (number + 1)).inTurn ⟨.selectExternal scheduler block asCaller, verdict⟩
        rw [history_between (Nat.le_succ number), parts, List.append_assoc]
        exact List.suffix_append later _
      rw [active?_append_of_other other, (run.paired number).active] at inTurn
      exact Selector.eq_of_external? inTurn

/-- In every scene of every run, whatever external schedulers answer and whatever else fails:
the starts that succeeded outnumber the stops by one if an external scheduler is the selector,
and else by none, and the same holds at every moment for the scheduler that is active then.  An
external scheduler is asked only while it is the one that is active, in turns throughout which
it is the selector; it is stopped once for a start that succeeded, with no other start or stop
in between; and none is started while one is active. -/
theorem externals_paired (run : Run) (number : Nat) :
    starts (run.history number) =
      stops (run.history number) + (if (run.status number).isExternal then 1 else 0) ∧
    (∀ past, past <:+ run.history number →
      starts past = stops past + if (active? past).isSome then 1 else 0) ∧
    active? (run.history number) = Selector.external? (run.status number).selector ∧
    (∀ scheduler block asCaller verdict past,
      ⟨.selectExternal scheduler block asCaller, verdict⟩ :: past <:+ run.history number →
        active? past = some scheduler) ∧
    (∀ turn scheduler block asCaller verdict,
      ⟨.selectExternal scheduler block asCaller, verdict⟩ ∈ run.between turn (turn + 1) →
        (run.status turn).selector = some (.external scheduler)) ∧
    (∀ scheduler code past, ⟨.stopExternal scheduler, code⟩ :: past <:+ run.history number →
      ∃ since earlier, past = since ++ ⟨.startExternal scheduler, 0⟩ :: earlier ∧
        ∀ event ∈ since, event.starts = false ∧ event.stops = false) ∧
    ∀ scheduler code past, ⟨.startExternal scheduler, code⟩ :: past <:+ run.history number →
      active? past = none := by
  obtain ⟨active, inTurn⟩ := run.paired number
  have counted (past : History) (suffix : past <:+ run.history number) :
      starts past = stops past + if (active? past).isSome then 1 else 0 := by
    apply starts_eq
    intro event earlier within
    exact inTurn event earlier (within.trans suffix)
  refine ⟨?_, counted, active, ?_, ?_, ?_, ?_⟩
  · rw [counted _ List.suffix_rfl, active]
    unfold Selector.external? Status.isExternal
    cases (run.status number).selector with
    | none => rfl
    | some selector => cases selector <;> rfl
  · exact fun scheduler block asCaller verdict past suffix => inTurn _ past suffix
  · exact fun turn scheduler block asCaller verdict asked => selector_of_asked asked
  · exact fun scheduler code past suffix => started_of_active (inTurn _ past suffix)
  · exact fun scheduler code past suffix => inTurn _ past suffix

end Run

namespace Sample

/-- An external scheduler is installed, asked and stopped, which it reports as a failure; the
one that the next communicator finds in a library is started after that. -/
def relieved : Run where
  config := (run .allReduce []).config
  env := .inOrder fun
    | _, .openLibrary _ => true
    | _, .stopExternal _ => 5
    | history, call => (Environment.obliging (algorithm .allReduce)).answer history call
  turns := [⟨0, .install 0⟩, ⟨1, .select ((comm 1 0).request allReduce)⟩, ⟨1, .shutDown⟩,
    ⟨0, .join (comm 1 0)⟩]

/-- The scheduler that was installed counts as stopped, and the other one is active. -/
theorem relieved_in_turn :
    (relieved.outcome (relieved.scene 2) ⟨1, .shutDown⟩).result =
      .error (.externalFailed .shutdown 5) ∧
    stops (relieved.history 4) = 1 ∧ starts (relieved.history 4) = 2 ∧
    active? (relieved.history 4) = some (.library ⟨[]⟩) := by
  obtain ⟨counted, _, active, _⟩ := Run.externals_paired relieved 4
  have stopped : stops (relieved.history 4) = 1 := by decide +kernel
  have external : (relieved.status 4).isExternal = true := by decide +kernel
  refine ⟨by decide +kernel, stopped, ?_, ?_⟩
  · rw [counted, stopped, if_pos external]
  · rw [active]
    decide +kernel

end Sample

end Collective
