import Collective.Proofs.Waiting

/-!
# The ledger of a run

The ledger tells, for each call that executed an operation, which turn submitted the
operation.  Every entry is explained: an operation was launched on the slot chosen for
it, or it fell back.  The entries of a thread stand in the order of the submissions.
-/

namespace Collective

open Procedure History

/-- A call that executed an operation: the thread, the turn that submitted the
operation, and the turn of the call. -/
structure Execution where
  thread : ThreadId
  submitted : Nat
  executed : Nat
  event : Event

namespace Run

/-- What a turn has executed: its calls belong to the operations to be run, in order. -/
def executions (run : Run) (number : Nat) : List Execution :=
  match run.turns[number]? with
  | none => []
  | some turn =>
      ((turn.command.queue number (run.waiting number turn.thread)).zip
        (run.executed number)).map fun entry =>
          { thread := turn.thread, submitted := entry.1, executed := number, event := entry.2 }

/-- What the first turns have executed, the earliest first. -/
def ledger (run : Run) : Nat → List Execution
  | 0 => []
  | number + 1 => ledger run number ++ run.executions number

/-- A turn of a thread closes the group that was open since an earlier turn, and the
group has saved its operations. -/
structure Flushes (run : Run) (thread : ThreadId) (first last : Nat) : Prop where
  order : first ≤ last
  grouped : run.Open thread first last
  closes : run.turns[last]? = some ⟨thread, .closeGroup⟩
  outermost : (run.thread last thread).depth = 1
  scheduling : (run.thread last thread).phase = .scheduling

/-- An execution that launched an operation on the slot chosen for it: at once outside
groups, and in a group where the group was closed. -/
structure Launched (run : Run) (execution : Execution) : Prop where
  turn : ∃ command, run.turns[execution.executed]? = some ⟨execution.thread, command⟩
  launches : ∃ saved, run.Chosen execution.thread saved execution.submitted ∧
    (run.status execution.executed).Launches saved execution.event
  outside : (run.thread execution.submitted execution.thread).depth = 0 →
    execution.executed = execution.submitted
  inside : 0 < (run.thread execution.submitted execution.thread).depth →
    run.Flushes execution.thread execution.submitted execution.executed

/-- An execution that ran an operation on its plain collective: at once outside groups,
and in a group by a turn that leaves the group falling back. -/
structure FellBack (run : Run) (execution : Execution) : Prop where
  turn : ∃ command, command ≠ .closeGroup ∧
    run.turns[execution.executed]? = some ⟨execution.thread, command⟩
  runs : ∃ pending, run.Submits execution.submitted execution.thread pending ∧
    pending.FellBack true execution.event
  outside : (run.thread execution.submitted execution.thread).depth = 0 →
    execution.executed = execution.submitted
  inside : 0 < (run.thread execution.submitted execution.thread).depth →
    execution.submitted ≤ execution.executed ∧
    run.Open execution.thread execution.submitted (execution.executed + 1) ∧
    (run.thread (execution.executed + 1) execution.thread).phase = .fallingBack

variable {run : Run} {number first last : Nat} {turn : Turn} {thread : ThreadId}

theorem mem_executions {execution : Execution} (taken : run.turns[number]? = some turn)
    (member : execution ∈ run.executions number) :
    execution.thread = turn.thread ∧ execution.executed = number ∧
      (execution.submitted, execution.event) ∈
        (turn.command.queue number (run.waiting number turn.thread)).zip
          (run.executed number) := by
  unfold executions at member
  rw [taken] at member
  obtain ⟨entry, inZip, rfl⟩ := List.mem_map.mp member
  exact ⟨rfl, rfl, inZip⟩

/-- What is executed with an operation that falls back ran on its plain collective. -/
theorem Waits.fellBack_of_served (waits : run.Waits number thread) {command : Command}
    {pending : Pending} {events : List Event} {submitted : Nat} {event : Event}
    (taken : run.turns[number]? = some ⟨thread, command⟩)
    (submits : command.submission? = some pending) (valid : pending.Valid)
    (served : Served (Pending.FellBack true)
      ((run.thread number thread).saved.map (·.toPending) ++ [pending]) events)
    (fallen : 0 < (run.thread number thread).depth →
      0 < (run.thread (number + 1) thread).depth ∧
        (run.thread (number + 1) thread).phase = .fallingBack)
    (member : (submitted, event) ∈ (command.queue number (run.waiting number thread)).zip events) :
    run.FellBack { thread, submitted, executed := number, event } := by
  rw [queue_of_some submits] at member
  obtain ⟨other, _, owed, ran⟩ := served.zip (waits.owes taken submits valid) member
  refine ⟨⟨command, ?_, taken⟩, ⟨other, owed.submits, ran⟩, owed.outside, ?_⟩
  · rintro rfl
    cases submits
  · intro inside
    have opened := owed.grouped inside
    obtain ⟨still, phase⟩ := fallen (opened number owed.order le_rfl)
    exact ⟨owed.order, opened.succ still, phase⟩

/-- What is executed when a group closes was launched. -/
theorem Waits.launched_of_flush (waits : run.Waits number thread) {events : List Event}
    {submitted : Nat} {event : Event} (taken : run.turns[number]? = some ⟨thread, .closeGroup⟩)
    (outermost : (run.thread number thread).depth = 1)
    (scheduling : (run.thread number thread).phase = .scheduling)
    (served : Served (run.status number).Launches (run.thread number thread).saved events)
    (member : (submitted, event) ∈ (run.waiting number thread).zip events) :
    run.Launched { thread, submitted, executed := number, event } := by
  obtain ⟨saved, _, held, ran⟩ := served.zip waits.matched member
  have order := Nat.le_of_lt held.before
  refine ⟨⟨_, taken⟩, ⟨saved, held.toChosen, ran⟩, ?_, ?_⟩
  · intro outside
    have inside := held.grouped submitted le_rfl order
    dsimp only at outside
    omega
  · exact fun _ => ⟨order, held.grouped, taken, outermost, scheduling⟩

/-- What is executed outside groups and was chosen a slot was launched. -/
theorem Waits.launched_at_once (waits : run.Waits number thread) {command : Command}
    {pending : Pending} {handle : Handle} {events : List Event} {submitted : Nat} {event : Event}
    (taken : run.turns[number]? = some ⟨thread, command⟩)
    (submits : command.submission? = some pending) (valid : pending.Valid)
    (outside : (run.thread number thread).phase = .noGroup)
    (chooses : (run.status number).Chooses pending.request handle)
    (served : Served (run.status number).Launches [{ pending with handle := some handle }] events)
    (member : (submitted, event) ∈ (command.queue number (run.waiting number thread)).zip events) :
    run.Launched { thread, submitted, executed := number, event } := by
  have none := waits.none_waiting (by simp [outside])
  rw [queue_of_some submits, none] at member
  have chosen : run.Chosen thread { pending with handle := some handle } number :=
    ⟨⟨command, taken, submits, valid⟩, handle, rfl, chooses⟩
  have matched : List.Forall₂
      (fun saved submitted => run.Chosen thread saved submitted ∧ submitted = number)
      [{ pending with handle := some handle }] ([] ++ [number]) :=
    .cons ⟨chosen, rfl⟩ .nil
  obtain ⟨saved, _, ⟨found, rfl⟩, ran⟩ := served.zip matched member
  refine ⟨⟨command, taken⟩, ⟨saved, found, ran⟩, fun _ => rfl, ?_⟩
  intro inside
  have zero := waits.consistent.phase.mpr outside
  dsimp only at inside
  omega

theorem explained_at {execution : Execution} (member : execution ∈ run.executions number) :
    run.Launched execution ∨ run.FellBack execution := by
  cases taken : run.turns[number]? with
  | none =>
      rw [executions, taken] at member
      cases member
  | some turn =>
      obtain ⟨owner, command⟩ := turn
      obtain ⟨thread, submitted, executed, event⟩ := execution
      obtain ⟨sameThread, sameTurn, inZip⟩ := mem_executions taken member
      dsimp only at sameThread sameTurn inZip
      subst sameThread sameTurn
      have known := run.waits executed thread
      have course := course taken
      dsimp only at course
      generalize run.executed executed = events at course inZip
      generalize ended : run.thread (executed + 1) thread = after at course
      cases course with
      | opened | forgot | inner | ended | saved | idle => simp at inZip
      | flushed outermost scheduling served =>
          exact .inl (known.launched_of_flush taken outermost scheduling served inZip)
      | launched submits valid outside chooses served =>
          exact .inl (known.launched_at_once taken submits valid outside chooses served inZip)
      | turned submits valid scheduling served =>
          refine .inr (known.fellBack_of_served taken submits valid served ?_ inZip)
          rw [ended]
          exact fun inside => ⟨inside, rfl⟩
      | fellBack submits valid other served =>
          refine .inr (known.fellBack_of_served taken submits valid served ?_ inZip)
          rw [ended]
          exact fun inside => ⟨inside, known.consistent.fallingBack inside other⟩

theorem mem_ledger {execution : Execution} :
    execution ∈ run.ledger number ↔
      ∃ earlier, earlier < number ∧ execution ∈ run.executions earlier := by
  induction number with
  | zero => simp [ledger]
  | succ number ih =>
      rw [ledger, List.mem_append, ih]
      constructor
      · rintro (⟨earlier, before, member⟩ | member)
        · exact ⟨earlier, Nat.lt_succ_of_lt before, member⟩
        · exact ⟨number, Nat.lt_succ_self number, member⟩
      · rintro ⟨earlier, before, member⟩
        rcases Nat.lt_succ_iff_lt_or_eq.mp before with less | rfl
        · exact .inl ⟨earlier, less, member⟩
        · exact .inr member

theorem executed_of_mem {execution : Execution} (member : execution ∈ run.executions number) :
    execution.executed = number := by
  cases taken : run.turns[number]? with
  | none =>
      rw [executions, taken] at member
      cases member
  | some turn => exact (mem_executions taken member).2.1

/-- Everything in the ledger is explained by what was submitted. -/
theorem explained {execution : Execution} (member : execution ∈ run.ledger number) :
    execution.executed < number ∧ (run.Launched execution ∨ run.FellBack execution) := by
  obtain ⟨earlier, before, inTurn⟩ := mem_ledger.mp member
  rw [executed_of_mem inTurn]
  exact ⟨before, explained_at inTurn⟩

/-- No more is executed than is to be run. -/
theorem executed_length_le (taken : run.turns[number]? = some turn) :
    (run.executed number).length ≤
      (turn.command.queue number (run.waiting number turn.thread)).length := by
  have known := run.waits number turn.thread
  have course := course taken
  have more : (run.waiting number turn.thread).length ≤
      (turn.command.queue number (run.waiting number turn.thread)).length := by
    unfold Command.queue
    split <;> simp
  have queued {pending : Pending} (submits : turn.command.submission? = some pending) :
      (turn.command.queue number (run.waiting number turn.thread)).length =
        (run.thread number turn.thread).saved.length + 1 := by
    rw [queue_of_some submits, known.length_eq]
    simp
  generalize run.executed number = events at course
  generalize run.thread (number + 1) turn.thread = after at course
  generalize command : turn.command = sent at course more queued ⊢
  cases course with
  | opened | forgot | inner | ended | saved | idle => simp
  | flushed _ _ served =>
      have most := served.length_le
      rw [known.length_eq] at most
      exact most.trans more
  | launched submits _ _ _ served =>
      have most := served.length_le
      rw [queued submits]
      simp only [List.length_cons, List.length_nil] at most
      omega
  | turned submits _ _ served | fellBack submits _ _ served =>
      have most := served.length_le
      rw [queued submits]
      simpa using most

/-- The ledger lists every call that executed an operation. -/
theorem ledger_events (run : Run) (number : Nat) :
    (run.ledger number).map Execution.event = History.executions (run.history number) := by
  induction number with
  | zero => rfl
  | succ number ih =>
      rw [ledger, List.map_append, ih]
      cases taken : run.turns[number]? with
      | none =>
          rw [history_past_end taken, executions, taken]
          simp
      | some turn =>
          obtain ⟨events, executes, _⟩ := (turned taken).course
          have now := executed_of_executes executes
          have events_eq : (run.executions number).map Execution.event = run.executed number := by
            have most := executed_length_le taken
            rw [executions, taken]
            simp only [List.map_map, Function.comp_def]
            exact List.map_snd_zip most
          rw [events_eq, now]
          obtain ⟨added, grown, rfl⟩ := executes
          rw [grown, executions_append]

theorem queue_sorted (run : Run) (number : Nat) (thread : ThreadId) (command : Command) :
    (command.queue number (run.waiting number thread)).Pairwise (· < ·) := by
  have known := run.waits number thread
  unfold Command.queue
  split
  · exact known.sorted_append
  · exact known.sorted

theorem executions_sorted (run : Run) (number : Nat) :
    (run.executions number).Pairwise fun first second => first.submitted < second.submitted := by
  unfold executions
  cases taken : run.turns[number]? with
  | none => exact .nil
  | some turn =>
      rw [List.pairwise_map, List.pairwise_iff_getElem]
      intro first second firstBound secondBound before
      simp only [List.getElem_zip]
      exact List.pairwise_iff_getElem.mp (run.queue_sorted number _ _) first second _ _ before

/-- What was executed was submitted before all that waits. -/
theorem submitted_before (run : Run) (number : Nat) :
    ∀ execution ∈ run.ledger number, execution.submitted < number ∧
      ∀ submitted ∈ run.waiting number execution.thread, execution.submitted < submitted := by
  induction number with
  | zero => simp [ledger]
  | succ number ih =>
      intro execution member
      rw [ledger, List.mem_append] at member
      cases taken : run.turns[number]? with
      | none =>
          rw [executions, taken] at member
          have before := member.resolve_right (by simp)
          have same : run.waiting (number + 1) execution.thread =
              run.waiting number execution.thread := by rw [waiting, taken]
          rw [same]
          exact ⟨Nat.lt_succ_of_lt (ih execution before).1, (ih execution before).2⟩
      | some turn =>
          rcases member with before | now
          · obtain ⟨below, waits⟩ := ih execution before
            refine ⟨Nat.lt_succ_of_lt below, ?_⟩
            by_cases own : turn.thread = execution.thread
            · rw [← own, waiting_own taken]
              rw [← own] at waits
              intro submitted waiting
              rcases mem_queue (List.mem_of_mem_take waiting) with earlier | rfl
              · exact waits submitted earlier
              · exact below
            · rw [waiting_other taken own]
              exact waits
          · obtain ⟨own, _, inZip⟩ := mem_executions taken now
            have known := run.waits number turn.thread
            have inQueue := (List.of_mem_zip inZip).1
            have atMost := Nat.lt_succ_of_le (known.le_of_present (mem_queue inQueue))
            refine ⟨atMost, ?_⟩
            rcases (course taken).executes_all known.consistent with nothing | gone
            · rw [nothing] at inZip
              simp at inZip
            · rw [own, waiting_own taken, gone]
              simp

/-- Each thread's operations are executed in the order in which they were submitted. -/
theorem ledger_ordered (run : Run) (number : Nat) :
    (run.ledger number).Pairwise fun first second =>
      first.thread = second.thread → first.submitted < second.submitted := by
  induction number with
  | zero => exact .nil
  | succ number ih =>
      rw [ledger]
      apply List.pairwise_append.mpr
      refine ⟨ih, ?_, ?_⟩
      · refine (run.executions_sorted number).imp ?_
        intro first second before _
        exact before
      · intro earlier before now member same
        cases taken : run.turns[number]? with
        | none =>
            rw [executions, taken] at member
            cases member
        | some turn =>
            obtain ⟨own, _, inZip⟩ := mem_executions taken member
            obtain ⟨below, waits⟩ := run.submitted_before number earlier before
            rcases mem_queue (List.of_mem_zip inZip).1 with waiting | now
            · rw [same, own] at waits
              exact waits _ waiting
            · rw [now]
              exact below

end Run

end Collective
