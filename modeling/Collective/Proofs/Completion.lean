import Collective.Proofs.Groups

/-!
# Which operations are executed

Where nobody shuts down, the catalog decides and no call is refused, every operation
with a plain collective is executed exactly once by the end of its group, unless it is
stranded.  The proof follows one operation from the turn that submits it: at every turn
it goes on waiting, or is executed, or is stranded.
-/

namespace Collective

open Procedure History

section Lists

variable {ι : Type} {paired : ι → Nat → Prop} {items : List ι} {numbers : List Nat}
variable {able : ι → Bool}

/-- A number is among the first that go with able items, or one that goes with an item
that is not able comes no later. -/
theorem mem_first_or (matched : List.Forall₂ paired items numbers)
    (sorted : numbers.Pairwise (· < ·)) {number : Nat} (member : number ∈ numbers) :
    number ∈ numbers.take (items.takeWhile able).length ∨
      ∃ item earlier, paired item earlier ∧ earlier ∈ numbers ∧ earlier ≤ number ∧
        able item = false := by
  induction matched with
  | nil => cases member
  | @cons item first items rest pair _ ih =>
      obtain ⟨less, sortedRest⟩ := List.pairwise_cons.mp sorted
      have most : first ≤ number := by
        rcases List.mem_cons.mp member with rfl | later
        · exact le_rfl
        · exact Nat.le_of_lt (less number later)
      cases fits : able item with
      | false => exact .inr ⟨item, first, pair, List.mem_cons_self, most, fits⟩
      | true =>
          rw [List.takeWhile_cons_of_pos fits, List.length_cons, List.take_succ_cons]
          rcases List.mem_cons.mp member with rfl | later
          · exact .inl List.mem_cons_self
          · rcases ih sortedRest later with inFirst | ⟨other, earlier, own, inRest, order, unfit⟩
            · exact .inl (List.mem_cons_of_mem _ inFirst)
            · exact .inr ⟨other, earlier, own, List.mem_cons_of_mem _ inRest, order, unfit⟩

/-- All that come before one of the first go with able items. -/
theorem able_of_mem_first (matched : List.Forall₂ paired items numbers)
    (sorted : numbers.Pairwise (· < ·)) {number earlier : Nat}
    (member : number ∈ numbers.take (items.takeWhile able).length)
    (before : earlier ∈ numbers) (order : earlier ≤ number) :
    ∃ item, paired item earlier ∧ able item = true := by
  induction matched with
  | nil => cases before
  | @cons item first items rest pair _ ih =>
      obtain ⟨less, sortedRest⟩ := List.pairwise_cons.mp sorted
      cases fits : able item with
      | false => simp [fits] at member
      | true =>
          rw [List.takeWhile_cons_of_pos fits, List.length_cons, List.take_succ_cons] at member
          rcases List.mem_cons.mp before with rfl | later
          · exact ⟨item, pair, fits⟩
          · rcases List.mem_cons.mp member with rfl | inFirst
            · have := less earlier later
              omega
            · exact ih sortedRest inFirst later

theorem map_fst_zip_eq_take {κ : Type} (firsts : List ι) (seconds : List κ) :
    (firsts.zip seconds).map Prod.fst = firsts.take seconds.length := by
  induction firsts generalizing seconds with
  | nil => simp
  | cons first firsts ih =>
      cases seconds with
      | nil => rfl
      | cons second seconds => simp [ih]

end Lists

namespace Run

variable {run : Run} {number : Nat} {turn : Turn} {thread : ThreadId} {submitted : Nat}

/-- In some turns nobody shuts down, no external scheduler decides, and no call is
refused. -/
structure Undisturbed (run : Run) (number : Nat) : Prop where
  steady : run.Steady 0 number
  internal : ∀ scene, scene ≤ number → (run.status scene).isExternal = false
  smooth : Smooth (run.history number)

/-- An operation without a plain collective was accepted ahead of an operation of its
group, and at that operation or later the group fell back. -/
def Stranded (run : Run) (thread : ThreadId) (submitted : Nat) : Prop :=
  ∃ earlier pending fallen, run.Submits earlier thread pending ∧ pending.hasPlain = false ∧
    earlier < submitted ∧ submitted ≤ fallen ∧ run.Open thread earlier fallen ∧
    (run.thread fallen thread).phase = .scheduling ∧
    (run.thread (fallen + 1) thread).phase = .fallingBack

/-- What has become of an operation at a scene, after some executions. -/
inductive Fate (run : Run) (thread : ThreadId) (submitted scene : Nat)
    (done : List Execution) : Prop where
  | waits : submitted ∈ run.waiting scene thread → Fate run thread submitted scene done
  | executed : submitted ∈ done.map Execution.submitted → ¬ run.Stranded thread submitted →
      Fate run thread submitted scene done
  | stranded : submitted ∉ done.map Execution.submitted →
      submitted ∉ run.waiting scene thread → run.Stranded thread submitted →
      Fate run thread submitted scene done

/-- What a turn has executed is the first of what was to be run. -/
theorem submitted_executions (taken : run.turns[number]? = some turn) :
    (run.executions number).map Execution.submitted =
      (turn.command.queue number (run.waiting number turn.thread)).take
        (run.executed number).length := by
  rw [executions, taken, ← map_fst_zip_eq_take]
  simp

theorem Undisturbed.mono {earlier : Nat} (undisturbed : run.Undisturbed number)
    (order : earlier ≤ number) : run.Undisturbed earlier where
  steady := undisturbed.steady.mono le_rfl order
  internal scene below := undisturbed.internal scene (below.trans order)
  smooth event member := undisturbed.smooth event ((history_suffix order).subset member)

/-- What was saved can be launched later. -/
theorem Undisturbed.holds (undisturbed : run.Undisturbed number) {saved : SavedOperation}
    (held : run.Chosen thread saved submitted) (order : submitted ≤ number) :
    (run.status number).ready = true ∧ (run.status number).Holds saved := by
  obtain ⟨handle, given, chooses⟩ := held.chosen
  obtain ⟨up, extended⟩ := stays_up (undisturbed.steady.mono (Nat.zero_le _) le_rfl)
    chooses.ready order
  obtain ⟨index, _, recorded⟩ := chooses.first (undisturbed.internal submitted order)
  have sound := (run.settled submitted).1.sound chooses.ready
  obtain ⟨_, algorithm, _, loaded, _⟩ := sound.recorded recorded
  exact ⟨up, handle, algorithm, given, extended.store.loaded loaded⟩

/-- A group turns to falling back only once. -/
theorem turned_once {one other : Nat} (grouped : run.Open thread (one + 1) other)
    (fallen : (run.thread (one + 1) thread).phase = .fallingBack)
    (scheduling : (run.thread other thread).phase = .scheduling) : other ≤ one := by
  by_contra late
  have stays := fallingBack_stays fallen grouped (by omega)
  rw [scheduling] at stays
  cases stays

/-- An operation of a group that falls back already is not stranded. -/
theorem not_stranded_of_phase (other : (run.thread submitted thread).phase ≠ .scheduling) :
    ¬ run.Stranded thread submitted := by
  rintro ⟨earlier, pending, fallen, _, _, before, order, grouped, scheduling, _⟩
  have inside := grouped submitted (by omega) order
  have phase := (run.waits submitted thread).consistent.fallingBack inside other
  have stays := fallingBack_stays phase (grouped.mono (by omega) le_rfl) order
  rw [scheduling] at stays
  cases stays

/-- An operation of a group that was launched is not stranded. -/
theorem Flushes.not_stranded {last : Nat} (flushes : run.Flushes thread submitted last) :
    ¬ run.Stranded thread submitted := by
  rintro ⟨earlier, pending, fallen, _, _, before, order, grouped, _, phase⟩
  have closed := flushes.closed
  have flushOrder := flushes.order
  rcases Nat.lt_trichotomy fallen last with early | rfl | late
  · exact flushes.not_fallen phase (flushes.grouped.mono (by omega) le_rfl) (by omega)
  · have none := (run.waits (fallen + 1) thread).consistent.phase.mp closed
    rw [phase] at none
    cases none
  · have inside := grouped (last + 1) (by omega) (by omega)
    omega

/-- A group that still saves operations has saved them all along. -/
theorem scheduling_before {earlier : Nat} (grouped : run.Open thread earlier number)
    (order : earlier ≤ number) (scheduling : (run.thread number thread).phase = .scheduling) :
    (run.thread earlier thread).phase = .scheduling := by
  by_contra other
  have inside := grouped earlier le_rfl order
  have fallen := (run.waits earlier thread).consistent.fallingBack inside other
  have stays := fallingBack_stays fallen grouped order
  rw [scheduling] at stays
  cases stays

/-- An operation that is to be run waits as long as its group saves operations. -/
theorem goes_on_waiting {command : Command} {pending : Pending}
    (undisturbed : run.Undisturbed (number + 1))
    (taken : run.turns[number]? = some ⟨thread, command⟩)
    (own : run.Submits submitted thread pending)
    (member : submitted ∈ command.queue number (run.waiting number thread))
    (before : (run.thread number thread).phase = .scheduling)
    (after : (run.thread (number + 1) thread).phase = .scheduling) :
    submitted ∈ run.waiting (number + 1) thread := by
  have known := run.waits number thread
  have kept : command ≠ .shutDown :=
    undisturbed.steady number _ (Nat.zero_le _) (Nat.lt_succ_self number) taken
  have internal := undisturbed.internal number (Nat.le_succ number)
  have course := course taken
  have waiting := waiting_own taken
  dsimp only at course waiting
  rw [waiting]
  generalize run.thread (number + 1) thread = now at course after
  generalize run.executed number = events at course
  have same (saved : now.saved = (run.thread number thread).saved)
      (earlier : submitted ∈ run.waiting number thread) :
      submitted ∈ (command.queue number (run.waiting number thread)).take now.saved.length := by
    rw [saved, known.length_eq, queue_take]
    exact earlier
  cases course with
  | opened | inner => exact same rfl (by simpa [Command.queue, Command.submission?] using member)
  | forgot => exact absurd rfl kept
  | ended | flushed => cases after
  | launched _ _ outside => rw [before] at outside; cases outside
  | turned => cases after
  | fellBack _ _ other => exact absurd before other
  | saved submits =>
      rw [queue_of_some submits] at member ⊢
      rw [List.take_of_length_le]
      · exact member
      · simp [Thread.save, known.length_eq]
  | idle _ _ _ free _ _ saved =>
      rcases mem_queue member with earlier | rfl
      · exact same saved earlier
      · obtain ⟨_, again, sends, valid⟩ := own
        rw [taken] at again
        cases again
        rw [free pending sends valid] at internal
        cases internal

/-- An operation of a group that still saves operations waits. -/
theorem still_waits {pending : Pending} (undisturbed : run.Undisturbed number)
    (own : run.Submits submitted thread pending) (grouped : run.Open thread submitted number)
    (order : submitted < number) (scheduling : (run.thread number thread).phase = .scheduling) :
    submitted ∈ run.waiting number thread := by
  induction number, Nat.succ_le_of_lt order using Nat.le_induction with
  | base =>
      obtain ⟨command, taken, sends, valid⟩ := own
      refine goes_on_waiting undisturbed taken ⟨command, taken, sends, valid⟩ ?_ ?_ scheduling
      · rw [queue_of_some sends]
        simp
      · exact scheduling_before grouped (Nat.le_succ submitted) scheduling
  | succ number later ih =>
      have before : (run.thread number thread).phase = .scheduling := by
        refine scheduling_before (grouped.mono ?_ le_rfl) (Nat.le_succ number) scheduling
        exact Nat.le_of_succ_le later
      have waited := ih (undisturbed.mono (Nat.le_succ number))
        (grouped.mono le_rfl (Nat.le_succ number)) later before
      cases taken : run.turns[number]? with
      | none =>
          rw [waiting, taken]
          exact waited
      | some turn =>
          by_cases same : turn.thread = thread
          · subst same
            have queued := @mem_queue_of_waiting number _ _ waited turn.command
            exact goes_on_waiting undisturbed taken own queued before scheduling
          · rw [waiting_other taken same]
            exact waited

/-- A turn submits an operation with which its group begins to fall back. -/
structure Turns (run : Run) (number : Nat) (thread : ThreadId) (command : Command)
    (sent : Pending) : Prop where
  taken : run.turns[number]? = some ⟨thread, command⟩
  submits : command.submission? = some sent
  valid : sent.Valid
  scheduling : (run.thread number thread).phase = .scheduling
  fallen : (run.thread (number + 1) thread).phase = .fallingBack

/-- The operations that a falling group has to run, up to the first without a plain
collective. -/
def ran (run : Run) (number : Nat) (thread : ThreadId) (sent : Pending) : List Pending :=
  ((run.thread number thread).saved.map (·.toPending) ++ [sent]).takeWhile Pending.hasPlain

namespace Turns

variable {command : Command} {pending sent : Pending}

theorem owes (turns : run.Turns number thread command sent) :
    List.Forall₂ (run.Owes number thread)
      ((run.thread number thread).saved.map (·.toPending) ++ [sent])
      (run.waiting number thread ++ [number]) :=
  (run.waits number thread).owes turns.taken turns.submits turns.valid

/-- An operation that runs as its group falls back is not stranded. -/
theorem not_stranded (turns : run.Turns number thread command sent)
    (undisturbed : run.Undisturbed number)
    (present : submitted ∈ run.waiting number thread ∨ submitted = number)
    (first : submitted ∈ (run.waiting number thread ++ [number]).take
      (run.ran number thread sent).length) : ¬ run.Stranded thread submitted := by
  rintro ⟨earlier, unable, turn, ahead, lacks, before, order, grouped, still, turned⟩
  have known := run.waits number thread
  have most := known.le_of_present present
  have groupedHere := known.open_of_present present (known.consistent.inside turns.scheduling)
  -- Both turns are the one in which the group began to fall back.
  have sameTurn : turn = number := by
    apply Nat.le_antisymm
    · exact turned_once (grouped.mono (by omega) le_rfl) turns.fallen still
    · exact turned_once (groupedHere.mono (by omega) le_rfl) turned turns.scheduling
  subst sameTurn
  have waits := still_waits undisturbed ahead grouped (by omega) still
  obtain ⟨item, owed, fits⟩ := able_of_mem_first turns.owes known.sorted_append first
    (List.mem_append_left _ waits) (Nat.le_of_lt before)
  rw [owed.submits.unique ahead, lacks] at fits
  cases fits

/-- An operation behind one without a plain collective does not run as its group falls
back, and it is stranded. -/
theorem stranded (turns : run.Turns number thread command sent)
    (present : submitted ∈ run.waiting number thread ∨ submitted = number)
    {earlier : Nat} {unable : Pending} (ahead : run.Submits earlier thread unable)
    (lacks : unable.hasPlain = false)
    (member : earlier ∈ run.waiting number thread ++ [number]) (before : earlier < submitted) :
    submitted ∉ (run.waiting number thread ++ [number]).take
      (run.ran number thread sent).length ∧ run.Stranded thread submitted := by
  have known := run.waits number thread
  have most := known.le_of_present present
  constructor
  · intro first
    obtain ⟨item, owed, fits⟩ := able_of_mem_first turns.owes known.sorted_append first member
      (Nat.le_of_lt before)
    rw [owed.submits.unique ahead, lacks] at fits
    cases fits
  · have waits : earlier ∈ run.waiting number thread := by
      rcases List.mem_append.mp member with waits | last
      · exact waits
      · have := List.mem_singleton.mp last
        omega
    have inside := known.consistent.inside turns.scheduling
    have grouped := known.open_of_present (.inl waits) inside
    exact ⟨earlier, unable, number, ahead, lacks, before, most, grouped, turns.scheduling,
      turns.fallen⟩

/-- Where a group falls back, an operation with a plain collective is executed, or it is
stranded. -/
theorem fate (turns : run.Turns number thread command sent)
    (undisturbed : run.Undisturbed number)
    (length : (run.executed number).length = (run.ran number thread sent).length)
    (own : run.Submits submitted thread pending) (able : pending.hasPlain = true)
    (member : submitted ∈ command.queue number (run.waiting number thread)) :
    (submitted ∈ (run.executions number).map Execution.submitted ∧
      ¬ run.Stranded thread submitted) ∨
    (submitted ∉ (run.executions number).map Execution.submitted ∧
      run.Stranded thread submitted) := by
  have present := mem_queue member
  rw [queue_of_some turns.submits] at member
  rw [submitted_executions turns.taken, queue_of_some turns.submits, length]
  have sorted := (run.waits number thread).sorted_append
  rcases mem_first_or turns.owes sorted member with first | ⟨unable, earlier, found⟩
  · exact .inl ⟨first, turns.not_stranded undisturbed present first⟩
  · obtain ⟨owed, inQueue, order, lacks⟩ := found
    have ahead := owed.submits
    have differ : earlier ≠ submitted := by
      rintro rfl
      rw [ahead.unique own, able] at lacks
      cases lacks
    exact .inr (turns.stranded present ahead lacks inQueue (by omega))

end Turns

/-- Where the saved operations of a group are launched, all of them are executed. -/
theorem executed_of_flush (undisturbed : run.Undisturbed (number + 1))
    (taken : run.turns[number]? = some ⟨thread, .closeGroup⟩)
    (complete : Smooth (run.history (number + 1)) → (run.status number).ready = true →
      (∀ saved ∈ (run.thread number thread).saved, (run.status number).Holds saved) →
      (run.executed number).length = (run.thread number thread).saved.length)
    (waits : submitted ∈ run.waiting number thread) :
    submitted ∈ (run.executions number).map Execution.submitted := by
  have known := run.waits number thread
  have holds {saved : SavedOperation} {earlier : Nat}
      (found : run.Saved number thread saved earlier) :=
    (undisturbed.mono (Nat.le_succ number)).holds found.toChosen (Nat.le_of_lt found.before)
  obtain ⟨_, _, held⟩ := known.saved waits
  have all : (run.executed number).length = (run.waiting number thread).length := by
    rw [← known.length_eq]
    apply complete undisturbed.smooth (holds held).1
    intro saved isSaved
    obtain ⟨_, _, found⟩ := exists_of_mem_left known.matched isSaved
    exact (holds found).2
  rw [submitted_executions taken, all]
  exact (queue_take .closeGroup _).symm ▸ waits

/-- In a group that has saved operations, an operation with a plain collective that is
to be run goes on waiting, or it is executed, or it is stranded. -/
theorem fate_in_group {command : Command} {pending : Pending}
    (undisturbed : run.Undisturbed (number + 1))
    (taken : run.turns[number]? = some ⟨thread, command⟩)
    (own : run.Submits submitted thread pending) (able : pending.hasPlain = true)
    (member : submitted ∈ command.queue number (run.waiting number thread))
    (scheduling : (run.thread number thread).phase = .scheduling) :
    run.Fate thread submitted (number + 1) (run.executions number) := by
  by_cases after : (run.thread (number + 1) thread).phase = .scheduling
  · exact .waits (goes_on_waiting undisturbed taken own member scheduling after)
  have known := run.waits number thread
  have gone : run.waiting (number + 1) thread = [] :=
    (run.waits (number + 1) thread).none_waiting after
  have before := undisturbed.mono (Nat.le_succ number)
  have kept : command ≠ .shutDown :=
    undisturbed.steady number _ (Nat.zero_le _) (Nat.lt_succ_self number) taken
  have course := course taken
  dsimp only at course
  generalize ended : run.thread (number + 1) thread = now at course after
  generalize same : run.executed number = events at course
  cases course with
  | opened => simp [Thread.openGroup, scheduling] at after
  | forgot => exact absurd rfl kept
  | inner | saved => exact absurd scheduling after
  | ended _ other | fellBack _ _ other => exact absurd scheduling other
  | launched _ _ outside => rw [scheduling] at outside; cases outside
  | idle _ _ _ _ _ phase => rw [phase] at after; exact absurd scheduling after
  | flushed outermost _ _ complete =>
      have waits : submitted ∈ run.waiting number thread := member
      obtain ⟨_, _, held⟩ := known.saved waits
      rw [← same] at complete
      refine .executed (executed_of_flush undisturbed taken complete waits) ?_
      have flushes : run.Flushes thread submitted number :=
        ⟨Nat.le_of_lt held.before, held.grouped, taken, outermost, scheduling⟩
      exact flushes.not_stranded
  | turned submits valid _ _ complete =>
      have turns : run.Turns number thread command _ :=
        ⟨taken, submits, valid, scheduling, by rw [ended]⟩
      have length := complete undisturbed.smooth
      rw [← same] at length
      rcases turns.fate before length own able member
        with ⟨executed, free⟩ | ⟨left, stranded⟩
      · exact .executed executed free
      · exact .stranded left (by simp [gone]) stranded

/-- Outside such a group, an operation with a plain collective is executed at once. -/
theorem fate_outside {command : Command} {pending : Pending}
    (undisturbed : run.Undisturbed (number + 1))
    (taken : run.turns[number]? = some ⟨thread, command⟩)
    (own : run.Submits submitted thread pending) (able : pending.hasPlain = true)
    (member : submitted ∈ command.queue number (run.waiting number thread))
    (other : (run.thread number thread).phase ≠ .scheduling) :
    submitted ∈ (run.executions number).map Execution.submitted ∧
      ¬ run.Stranded thread submitted := by
  have known := run.waits number thread
  have before := undisturbed.mono (Nat.le_succ number)
  have none := known.none_waiting other
  rw [none] at member
  have now : submitted = number := by simpa using mem_queue member
  subst now
  obtain ⟨_, again, sends, valid⟩ := own
  rw [taken] at again
  cases again
  refine ⟨?_, not_stranded_of_phase other⟩
  rw [submitted_executions taken, queue_of_some sends, none]
  have course := course taken
  dsimp only at course
  generalize run.thread (submitted + 1) thread = after at course
  generalize run.executed submitted = events at course ⊢
  suffices one : events.length = 1 by simp [one]
  cases course with
  | opened | forgot | inner | ended | flushed => cases sends
  | saved _ _ scheduling | turned _ _ scheduling => exact absurd scheduling other
  | idle _ _ _ free =>
      have internal := before.internal submitted le_rfl
      rw [free pending sends valid] at internal
      cases internal
  | @launched _ sent handle _ submits sentValid _ chooses _ complete =>
      have chosen : run.Chosen thread { sent with handle := some handle } submitted :=
        ⟨⟨command, taken, submits, sentValid⟩, handle, rfl, chooses⟩
      exact complete undisturbed.smooth (before.holds chosen le_rfl).2
  | fellBack submits _ _ _ complete =>
      rw [submits] at sends
      obtain rfl := Option.some.inj sends
      rw [complete undisturbed.smooth, known.consistent.empty other]
      simp [able]

/-- What happens to an operation in one turn of a run. -/
theorem fate {pending : Pending} (undisturbed : run.Undisturbed (number + 1))
    (own : run.Submits submitted thread pending) (able : pending.hasPlain = true)
    (present : submitted ∈ run.waiting number thread ∨ submitted = number) :
    run.Fate thread submitted (number + 1) (run.executions number) := by
  have byThread {command : Command} (taken : run.turns[number]? = some ⟨thread, command⟩)
      (member : submitted ∈ command.queue number (run.waiting number thread)) :
      run.Fate thread submitted (number + 1) (run.executions number) := by
    by_cases scheduling : (run.thread number thread).phase = .scheduling
    · exact fate_in_group undisturbed taken own able member scheduling
    · obtain ⟨executed, free⟩ := fate_outside undisturbed taken own able member scheduling
      exact .executed executed free
  rcases present with waits | rfl
  · cases taken : run.turns[number]? with
    | none =>
        apply Fate.waits
        rw [waiting, taken]
        exact waits
    | some turn =>
        obtain ⟨owner, command⟩ := turn
        by_cases same : owner = thread
        · subst same
          exact byThread taken (mem_queue_of_waiting waits command)
        · apply Fate.waits
          rw [waiting_other taken same]
          exact waits
  · obtain ⟨command, taken, sends, _⟩ := own
    apply byThread taken
    rw [queue_of_some sends]
    simp

/-- What waits or is just submitted was not executed before. -/
theorem not_executed {pending : Pending} (own : run.Submits submitted thread pending)
    (present : submitted ∈ run.waiting number thread ∨ submitted = number) :
    submitted ∉ (run.ledger number).map Execution.submitted := by
  intro member
  obtain ⟨execution, inLedger, same⟩ := List.mem_map.mp member
  obtain ⟨below, before⟩ := run.submitted_before number execution inLedger
  obtain ⟨_, submits, _⟩ := faithful inLedger
  rw [same] at below before submits
  rw [submits.thread_unique own] at before
  rcases present with waits | rfl
  · exact Nat.lt_irrefl submitted (before submitted waits)
  · exact Nat.lt_irrefl submitted below

theorem fate_of_present {pending : Pending} (undisturbed : run.Undisturbed (number + 1))
    (own : run.Submits submitted thread pending) (able : pending.hasPlain = true)
    (present : submitted ∈ run.waiting number thread ∨ submitted = number) :
    run.Fate thread submitted (number + 1) (run.ledger (number + 1)) := by
  have old := not_executed own present
  unfold ledger
  cases fate undisturbed own able present with
  | waits waits => exact .waits waits
  | executed executed free => exact .executed (by simp_all) free
  | stranded left gone stranded => exact .stranded (by simp_all) gone stranded

/-- What does not wait never waits again, and is never executed. -/
theorem absent_stays {pending : Pending} (own : run.Submits submitted thread pending)
    (later : submitted < number) (absent : submitted ∉ run.waiting number thread) :
    submitted ∉ run.waiting (number + 1) thread ∧
      submitted ∉ (run.executions number).map Execution.submitted := by
  have notQueued {command : Command} :
      submitted ∉ command.queue number (run.waiting number thread) := by
    intro member
    rcases mem_queue member with waits | now
    · exact absent waits
    · omega
  cases taken : run.turns[number]? with
  | none =>
      rw [waiting, executions, taken]
      exact ⟨absent, by simp⟩
  | some turn =>
      by_cases same : turn.thread = thread
      · subst same
        constructor
        · rw [waiting_own taken]
          exact fun member => notQueued (List.mem_of_mem_take member)
        · rw [submitted_executions taken]
          exact fun member => notQueued (List.mem_of_mem_take member)
      · rw [waiting_other taken same]
        refine ⟨absent, ?_⟩
        intro member
        obtain ⟨execution, inTurn, rfl⟩ := List.mem_map.mp member
        have inLedger : execution ∈ run.ledger (number + 1) := List.mem_append_right _ inTurn
        obtain ⟨_, submits, _⟩ := faithful inLedger
        exact same ((mem_executions taken inTurn).1.symm.trans (submits.thread_unique own))

/-- Each operation with a plain collective waits, or was executed, or is stranded. -/
theorem fate_after {pending : Pending} (undisturbed : run.Undisturbed number)
    (own : run.Submits submitted thread pending) (able : pending.hasPlain = true)
    (later : submitted < number) :
    run.Fate thread submitted number (run.ledger number) := by
  induction number, Nat.succ_le_of_lt later using Nat.le_induction with
  | base => exact fate_of_present undisturbed own able (.inr rfl)
  | succ number order ih =>
      cases ih (undisturbed.mono (Nat.le_succ number)) order with
      | waits waits => exact fate_of_present undisturbed own able (.inl waits)
      | executed executed free =>
          refine .executed ?_ free
          rw [ledger, List.map_append]
          exact List.mem_append_left _ executed
      | stranded left gone stranded =>
          obtain ⟨stillGone, notNow⟩ := absent_stays own order gone
          refine .stranded ?_ stillGone stranded
          rw [ledger, List.map_append, List.mem_append]
          exact fun member => member.elim left notNow

/-- Once its group is closed, an operation with a plain collective was executed exactly
once, unless it is stranded: then it was not executed. -/
theorem executed_unless_stranded {pending : Pending} (undisturbed : run.Undisturbed number)
    (own : run.Submits submitted thread pending) (able : pending.hasPlain = true)
    (later : submitted < number) (closed : (run.thread number thread).depth = 0) :
    (¬ run.Stranded thread submitted →
      ((run.ledger number).map Execution.submitted).count submitted = 1) ∧
    (run.Stranded thread submitted →
      ((run.ledger number).map Execution.submitted).count submitted = 0) := by
  have known := run.waits number thread
  have outside := known.consistent.phase.mp closed
  have none := known.none_waiting (by simp [outside])
  cases fate_after undisturbed own able later with
  | waits waits =>
      rw [none] at waits
      cases waits
  | executed executed free =>
      refine ⟨fun _ => ?_, fun stranded => absurd stranded free⟩
      exact List.count_eq_one_of_mem (run.submitted_once number) executed
  | stranded left _ stranded =>
      exact ⟨fun free => absurd stranded free, fun _ => List.count_eq_zero_of_not_mem left⟩

/-- For every run of any number of threads, whatever fails: (a) the executions of one
group are all launches by the turn that closes it, or all plain collectives; (b) the
ledger lists every execution, no operation twice, each with the parameters, the
communicator and the stream it was submitted with; (c) each thread's operations are
executed in the order of their submission; and (d) unless somebody shuts down, an
external scheduler decides or a call is refused, an operation with a plain collective
is executed exactly once by the end of its group, or not at all if it is stranded. -/
theorem groups_take_one_path (run : Run) :
    (∀ number, ∀ one ∈ run.ledger number, ∀ other ∈ run.ledger number,
      one.thread = other.thread →
      run.SameGroup one.thread one.submitted other.submitted →
      (one.event.launches = true ∧ other.event.launches = true ∧
        run.Flushes one.thread one.submitted one.executed ∧ other.executed = one.executed) ∨
      (one.event.launches = false ∧ other.event.launches = false)) ∧
    (∀ number,
      (run.ledger number).map Execution.event = History.executions (run.history number) ∧
      ((run.ledger number).map Execution.submitted).Nodup ∧
      ∀ execution ∈ run.ledger number, ∃ pending,
        run.Submits execution.submitted execution.thread pending ∧
        pending.ExecutedBy execution.event) ∧
    (∀ number, (run.ledger number).Pairwise fun first second =>
      first.thread = second.thread → first.submitted < second.submitted) ∧
    ∀ number thread submitted pending, run.Undisturbed number →
      run.Submits submitted thread pending → pending.hasPlain = true →
      submitted < number → (run.thread number thread).depth = 0 →
      (¬ run.Stranded thread submitted →
        ((run.ledger number).map Execution.submitted).count submitted = 1) ∧
      (run.Stranded thread submitted →
        ((run.ledger number).map Execution.submitted).count submitted = 0) := by
  refine ⟨?_, ?_, ?_, ?_⟩
  · intro number one member other otherMember sameThread same
    exact one_path member otherMember sameThread same
  · intro number
    exact ⟨run.ledger_events number, run.submitted_once number, fun _ => faithful⟩
  · exact run.ledger_ordered
  · intro number thread submitted pending undisturbed own able later closed
    exact executed_unless_stranded undisturbed own able later closed

end Run

namespace Sample

/-- A group saves an operation that has an algorithm and no plain collective, and then
falls back with one that has a plain collective and no algorithm. -/
def cut : Run := run .gather [⟨0, .join (comm 1 0)⟩, ⟨0, .openGroup⟩,
  ⟨0, .submit (.gather ⟨1⟩ ⟨2⟩ 1 .float32 0) (comm 1 0) ⟨0⟩⟩,
  ⟨0, .submit (.broadcast ⟨1⟩ ⟨2⟩ 1 .float32 0) (comm 1 0) ⟨0⟩⟩, ⟨0, .closeGroup⟩]

theorem cut_undisturbed : cut.Undisturbed 5 where
  steady := by
    intro number turn _ _ taken
    have kept : ∀ turn ∈ cut.turns, turn.command ≠ .shutDown := by decide
    exact kept turn (List.mem_of_getElem? taken)
  internal := by
    have internal : ∀ scene < 6, (cut.status scene).isExternal = false := by decide +kernel
    exact fun scene order => internal scene (Nat.lt_succ_of_le order)
  smooth := by
    show ∀ event ∈ cut.history 5, event.refused = false
    decide +kernel

/-- It is not so that every operation with a plain collective is executed exactly once by
the end of its group, even where nobody shuts down and nothing is refused. -/
theorem not_always_executed :
    ¬ ∀ (run : Run) (number : Nat) (thread : ThreadId) (submitted : Nat) (pending : Pending),
      run.Undisturbed number → run.Submits submitted thread pending →
      pending.hasPlain = true → submitted < number → (run.thread number thread).depth = 0 →
      ((run.ledger number).map Execution.submitted).count submitted = 1 := by
  intro always
  let pending : Pending :=
    ⟨(comm 1 0).request (.broadcast ⟨1⟩ ⟨2⟩ 1 .float32 0), comm 1 0, ⟨0⟩⟩
  have submits : cut.Submits 3 0 pending := ⟨_, rfl, rfl, by decide⟩
  have closed : (cut.thread 5 0).depth = 0 := by decide +kernel
  have once := always cut 5 0 3 pending cut_undisturbed submits (by decide) (by omega) closed
  have never : ((cut.ledger 5).map Execution.submitted).count 3 = 0 := by decide +kernel
  rw [never] at once
  cases once

end Sample

end Collective
