import Collective.Proofs.FirstJoin
import Collective.Proofs.Period

/-!
# The numbers of launches

A period numbers its launches from one on, and every launch names the stream of the one
before it.  A launch that is refused uses up no number: the next one carries it again.
-/

namespace Collective

open Procedure History

/-- The stream of a launch that was accepted. -/
def Event.launchedOn? : Event → Option Stream
  | ⟨.launch work, .ok _⟩ => some work.stream
  | _ => none

/-- The streams of the launches that were accepted, the latest first. -/
def History.streams (history : History) : List Stream := history.filterMap Event.launchedOn?

/-- A launch carries the number that follows those of the accepted launches before it, and
the stream of the latest of them. -/
structure Launch.Follows (work : Launch) (past : History) : Prop where
  index : work.workIndex = .ofNat (1 + past.streams.length)
  stream : work.lastStream = past.streams.head?

/-- Every launch carries the next number. -/
def History.Sequential (history : History) : Prop :=
  ∀ work answer past, ⟨.launch work, answer⟩ :: past <:+ history → work.Follows past

theorem Event.launchedOn?_of_other {event : Event} (other : event.launches = false) :
    event.launchedOn? = none := by
  obtain ⟨call, answer⟩ := event
  cases call with
  | launch => cases other
  | _ => rfl

namespace History

variable {added history : History}

theorem streams_append_of_other (others : ∀ event ∈ added, event.launches = false) :
    streams (added ++ history) = streams history := by
  have none : added.filterMap Event.launchedOn? = [] := by
    apply List.filterMap_eq_nil_iff.mpr
    intro event member
    exact Event.launchedOn?_of_other (others event member)
  rw [streams, List.filterMap_append, none, List.nil_append, streams]

theorem Sequential.nil : Sequential [] := by
  intro work answer past suffix
  cases List.suffix_nil.mp suffix

theorem Sequential.append_of_other (sequential : Sequential history)
    (others : ∀ event ∈ added, event.launches = false) : Sequential (added ++ history) := by
  intro work answer past suffix
  induction added with
  | nil => exact sequential work answer past suffix
  | cons event rest ih =>
      rcases List.suffix_cons_iff.mp suffix with same | earlier
      · obtain ⟨rfl, -⟩ := List.cons.inj same
        cases others _ List.mem_cons_self
      · exact ih (fun event member => others event (List.mem_cons_of_mem _ member)) earlier

theorem Sequential.launch {work : Launch} (sequential : Sequential history)
    (answer : Fallible Unit) (follows : work.Follows history) :
    Sequential (⟨.launch work, answer⟩ :: history) := by
  intro other reply past suffix
  rcases List.suffix_cons_iff.mp suffix with same | earlier
  · cases same
    exact follows
  · exact sequential other reply past earlier

/-- Where nothing was executed nothing was launched. -/
theorem launches_nothing_of_idle {events : History} (idle : executions events = []) :
    ∀ event ∈ events, event.launches = false := by
  intro event member
  by_contra other
  have launches : event.launches = true := by simpa using other
  have executed := mem_executions_iff.mpr ⟨member, Event.executes_of_launches launches⟩
  rw [idle] at executed
  cases executed

end History

namespace Status

variable {status after : Status} {history later start : History}

/-- Since a moment every launch was numbered, and the next one will be. -/
def Numbered (start : History) (status : Status) (now : History) : Prop :=
  ∃ events, now = events ++ start ∧ events.Sequential ∧
    status.workIndex = .ofNat (1 + events.streams.length) ∧
    status.lastStream = events.streams.head?

/-- While all is up a move that launches nothing keeps the numbers. -/
theorem Growth.keeps_numbers (grown : Growth status history after later)
    (up : status.ready = true) : after.workIndex = status.workIndex ∧
      after.lastStream = status.lastStream := by
  cases grown with
  | refill closed | reset closed | start _ closed =>
      rw [up] at closed
      cases closed
  | call | choose | list | store | drop | stretch => exact ⟨rfl, rfl⟩

/-- Calls that launch nothing use up no number. -/
theorem Numbered.append {added : History} (before : Numbered start status history)
    (others : ∀ event ∈ added, event.launches = false)
    (index : after.workIndex = status.workIndex)
    (stream : after.lastStream = status.lastStream) : Numbered start after (added ++ history) := by
  obtain ⟨events, rfl, sequential, counted, latest⟩ := before
  refine ⟨added ++ events, by simp, sequential.append_of_other others, ?_⟩
  rw [streams_append_of_other others, index, stream]
  exact ⟨counted, latest⟩

theorem Move.numbered (moved : Move status history after later) (up : status.ready = true)
    (before : Numbered start status history) : Numbered start after later := by
  cases moved with
  | growth grown =>
      obtain ⟨index, stream⟩ := grown.keeps_numbers up
      obtain ⟨added, rfl, idle⟩ := grown.executes
      exact before.append (launches_nothing_of_idle idle) index stream
  | plain call answer =>
      have other : ∀ event ∈ [(⟨.plain call, answer⟩ : Event)], event.launches = false := by
        simp [Event.launches]
      exact before.append other rfl rfl
  | @launch _ asCaller pending handle algorithm flags answer _ loaded held =>
      obtain ⟨events, rfl, sequential, counted, latest⟩ := before
      have follows : (status.launchOf asCaller pending handle algorithm flags).Follows events :=
        ⟨counted, latest⟩
      have launched := sequential.launch answer follows
      cases answer with
      | error reason => exact ⟨_ :: events, rfl, launched, counted, latest⟩
      | ok =>
          refine ⟨_ :: events, rfl, launched, ?_, rfl⟩
          show status.workIndex + 1 = .ofNat (1 + (events.streams.length + 1))
          rw [counted, ← Nat.add_assoc, UInt64.ofNat_add _ 1]
          rfl

variable {env : Environment}

/-- A first preparation that succeeds numbers from one on. -/
theorem ensures_prepare_numbers (config : Config) (comm : Communicator)
    (down : status.ready = false) :
    (prepare config comm).Ensures env status history
      (fun _ after _ => after.workIndex = 1 ∧ after.lastStream = none) (fun _ _ _ => True) := by
  have started (state : Status) (past : History) : startLaunches.Ensures env state past
      (fun _ after _ => after.workIndex = 1 ∧ after.lastStream = none) (fun _ _ _ => True) := by
    rw [ensures_startLaunches_iff]
    dsimp only
    cases env.answer past (.allocate .syncFlags syncFlagBytes) with
    | ok flags => exact ⟨rfl, rfl⟩
    | error reason => trivial
  apply ensures_prepareDown down
  · exact fun _ _ _ _ => trivial
  · intro selector needed middle past _ _
    simp only [ensures_bind, ensures_get, ensures_ite, ensures_pure]
    split
    · apply (Keeps.always True _ env _ past trivial).weaken
      exact fun _ served later _ => started served later
    · exact started _ past

end Status

namespace Run

variable {run : Run} {first number : Nat}

/-- The turn that raises a period launches nothing, and its first launch will have number one. -/
theorem Period.numbered_first (period : run.Period first number) :
    Status.Numbered (run.history first) (run.status (first + 1)) (run.history (first + 1)) := by
  obtain ⟨thread, comm, taken⟩ := period.joined
  have prepared := @Status.ensures_prepare_numbers _ (run.history first) run.env run.config comm
    period.closed
  have joined := Machine.ensures_joinFirst_of_prepare (run.settled first) period.closed prepared
  have fresh := after_join joined taken period.opened
  have others := launches_nothing period.closed
  have initially : Sequential (run.between first (first + 1) ++ []) :=
    Sequential.append_of_other Sequential.nil others
  have none : streams (run.between first (first + 1) ++ []) = [] := streams_append_of_other others
  rw [List.append_nil] at initially none
  refine ⟨_, history_between (Nat.le_succ first), initially, ?_⟩
  rw [none]
  exact fresh

theorem Period.numbered (period : run.Period first number) :
    Status.Numbered (run.history first) (run.status number) (run.history number) :=
  period.keeps (Status.Numbered (run.history first)) period.numbered_first Status.Move.numbered

/-- Whatever is launched is launched in a period. -/
theorem exists_period_of_launch {event : Event}
    (member : event ∈ run.between number (number + 1)) (launches : event.launches = true) :
    ∃ first, run.Period first (number + 1) := by
  cases up : (run.status number).ready with
  | false =>
      have never := launches_nothing up event member
      rw [launches] at never
      cases never
  | true =>
      apply exists_period
      cases taken : run.turns[number]? with
      | none =>
          rw [status_past_end taken]
          exact up
      | some turn =>
          apply (turned taken).up _ up
          intro shuts
          have idle : run.executed number = [] := by
            have course := course taken
            rw [shuts] at course
            generalize run.executed number = events at course ⊢
            generalize run.thread (number + 1) turn.thread = after at course
            cases course with
            | forgot => rfl
            | idle _ same => rfl
            | launched submits | saved submits | turned submits | fellBack submits =>
                cases submits
          have never := launches_nothing_of_idle idle event member
          rw [launches] at never
          cases never

/-- Whatever is launched is launched in a period.  In every period, whatever threads launch,
alone or in groups, and whatever fails in between: every launch carries one more than the number
of launches that were accepted before it, and the stream of the latest of them, so the first one
carries one and no stream; and the status counts the same. -/
theorem launches_numbered (run : Run) :
    (∀ number, ∀ event ∈ run.between number (number + 1), event.launches = true →
      ∃ first, run.Period first (number + 1)) ∧
    ∀ first number, run.Period first number →
      (streams (run.between first number)).length < 2 ^ 64 - 1 →
        (∀ work answer past, ⟨.launch work, answer⟩ :: past <:+ run.between first number →
          work.workIndex.toNat = 1 + (streams past).length ∧
          work.lastStream = (streams past).head? ∧
          (streams past = [] → work.workIndex = 1 ∧ work.lastStream = none)) ∧
        (run.status number).workIndex.toNat =
          1 + (streams (run.between first number)).length := by
  constructor
  · intro number event member launches
    exact exists_period_of_launch member launches
  · intro first number period few
    obtain ⟨events, grown, sequential, counted, -⟩ := period.numbered
    have between := between_of_append grown
    rw [between] at few ⊢
    constructor
    · intro work answer past suffix
      have follows := sequential work answer past suffix
      have fewer : (streams past).length ≤ (streams events).length :=
        (((List.suffix_cons _ past).trans suffix).filterMap Event.launchedOn?).length_le
      refine ⟨?_, follows.stream, ?_⟩
      · rw [follows.index, UInt64.toNat_ofNat_of_lt']
        show _ < 2 ^ 64
        omega
      · intro first
        have index := follows.index
        have stream := follows.stream
        rw [first] at index stream
        exact ⟨index, stream⟩
    · rw [counted, UInt64.toNat_ofNat_of_lt']
      show _ < 2 ^ 64
      omega

end Run

namespace Sample

/-- Two threads launch in turn, one of them in a group; a launch on stream nine is refused.  Then
somebody shuts down, a communicator joins again and launches. -/
def counting : Run where
  config := (run .allReduce []).config
  env := .inOrder fun
    | history, .launch work =>
        if work.stream = ⟨9⟩ then .error "busy"
        else (Environment.obliging (algorithm .allReduce)).answer history (.launch work)
    | history, call => (Environment.obliging (algorithm .allReduce)).answer history call
  turns := [⟨0, .join (comm 1 0)⟩, ⟨1, .openGroup⟩, ⟨1, .submit allReduce (comm 1 0) ⟨7⟩⟩,
    ⟨0, .submit allReduce (comm 1 0) ⟨8⟩⟩, ⟨0, .submit allReduce (comm 1 0) ⟨9⟩⟩,
    ⟨1, .closeGroup⟩, ⟨0, .shutDown⟩, ⟨0, .join (comm 1 0)⟩,
    ⟨1, .submit allReduce (comm 1 0) ⟨6⟩⟩]

/-- The refused launch and the one after it carry the same number, and the period after the
shutdown begins with one again. -/
theorem counted_from_one :
    ((counting.history 9).filterMap fun event => event.call.launch?).map
        (fun work => (work.workIndex, work.lastStream)) =
      [(1, none), (2, some ⟨8⟩), (2, some ⟨8⟩), (1, none)] ∧
    (counting.status 6).workIndex.toNat = 3 ∧ (counting.status 9).workIndex.toNat = 2 := by
  have steadyBefore : counting.Steady 1 6 := by
    decide +kernel
  have steadyAfter : counting.Steady 8 9 := by
    decide +kernel
  have before : counting.Period 0 6 :=
    ⟨by decide +kernel, by decide +kernel, steadyBefore, by decide⟩
  have after : counting.Period 7 9 :=
    ⟨by decide +kernel, by decide +kernel, steadyAfter, by decide⟩
  have two : (streams (counting.between 0 6)).length = 2 := by decide +kernel
  have one : (streams (counting.between 7 9)).length = 1 := by decide +kernel
  obtain ⟨-, numbered⟩ := Run.launches_numbered counting
  refine ⟨by decide +kernel, ?_, ?_⟩
  · rw [(numbered 0 6 before (by rw [two]; decide)).2, two]
  · rw [(numbered 7 9 after (by rw [one]; decide)).2, one]

end Sample

end Collective
