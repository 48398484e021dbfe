import Collective.Proofs.Ledger

/-!
# Groups

The operations of one group take one path: all that are executed are launched by the
turn that closes the group, or all run on their plain collectives.  Where nobody shuts
down and no call is refused each of them is executed exactly once, unless an operation
without a plain collective was saved ahead of it and the group then fell back: such an
operation is stranded.
-/

namespace Collective

open Procedure History

/-- A call that launches. -/
def Event.launches : Event → Bool
  | ⟨.launch _, _⟩ => true
  | _ => false

/-- A call that executes an operation with its parameters, on its communicator and on
its stream. -/
def Pending.ExecutedBy (pending : Pending) (event : Event) : Prop :=
  (∃ launch answer, event = ⟨.launch launch, answer⟩ ∧ launch.request = pending.request ∧
    launch.comm = pending.comm ∧ launch.stream = pending.stream) ∨
  pending.FellBack true event

namespace Run

variable {run : Run} {number first last : Nat} {turn : Turn} {thread : ThreadId}

/-- Two turns of a thread lie in one group. -/
def SameGroup (run : Run) (thread : ThreadId) (one other : Nat) : Prop :=
  run.Open thread (min one other) (max one other)

theorem SameGroup.symm {one other : Nat} (same : run.SameGroup thread one other) :
    run.SameGroup thread other one := by
  unfold SameGroup at *
  rwa [Nat.min_comm, Nat.max_comm]

theorem SameGroup.inside {one other : Nat} (same : run.SameGroup thread one other) :
    0 < (run.thread one thread).depth :=
  same one (Nat.min_le_left one other) (Nat.le_max_left one other)

theorem Launched.launches_event {execution : Execution} (launched : run.Launched execution) :
    execution.event.launches = true := by
  obtain ⟨saved, _, launch, answer, same, _⟩ := launched.launches
  rw [same]
  rfl

theorem FellBack.not_launches {execution : Execution} (fell : run.FellBack execution) :
    execution.event.launches = false := by
  obtain ⟨pending, _, arguments, answer, _, same⟩ := fell.runs
  rw [same]
  rfl

/-- A thread that closed its outermost group is in none. -/
theorem Flushes.closed (flushes : run.Flushes thread first last) :
    (run.thread (last + 1) thread).depth = 0 := by
  have consistent := (run.waits last thread).consistent
  exact ((course flushes.closes).outermost consistent flushes.outermost).1

/-- A group that has fallen back stays so until it is closed. -/
theorem fallingBack_stays (fallen : (run.thread first thread).phase = .fallingBack)
    (grouped : run.Open thread first last) (order : first ≤ last) :
    (run.thread last thread).phase = .fallingBack := by
  induction last, order using Nat.le_induction with
  | base => exact fallen
  | succ number order ih =>
      have before := ih (grouped.mono le_rfl (Nat.le_succ number))
      have inside := grouped (number + 1) (Nat.le_succ_of_le order) le_rfl
      cases taken : run.turns[number]? with
      | none =>
          rw [thread_past_end taken]
          exact before
      | some turn =>
          by_cases own : turn.thread = thread
          · subst own
            have course := course taken
            generalize run.thread (number + 1) turn.thread = after at course inside ⊢
            generalize run.executed number = events at course
            generalize turn.command = command at course
            cases course with
            | opened => simp [Thread.openGroup, before]
            | forgot | inner => exact before
            | ended | flushed => cases inside
            | launched _ _ outside => rw [before] at outside; cases outside
            | saved _ _ scheduling => rw [before] at scheduling; cases scheduling
            | turned => rfl
            | fellBack => exact before
            | idle _ _ _ _ _ phase => rw [phase, before]
          · rw [thread_other taken own]
            exact before

/-- A group that was launched did not fall back before. -/
theorem Flushes.not_fallen {scene : Nat} (flushes : run.Flushes thread first last)
    (fallen : (run.thread scene thread).phase = .fallingBack)
    (grouped : run.Open thread scene last) (order : scene ≤ last) : False := by
  have stays := fallingBack_stays fallen grouped order
  rw [flushes.scheduling] at stays
  cases stays

/-- No operation of a group falls back when another of it is launched. -/
theorem launched_not_fellBack {one other : Execution} (launched : run.Launched one)
    (fell : run.FellBack other) (sameThread : one.thread = other.thread)
    (same : run.SameGroup one.thread one.submitted other.submitted) : False := by
  have flushes := launched.inside same.inside
  obtain ⟨order, grouped, fallen⟩ := fell.inside (sameThread ▸ same.symm.inside)
  obtain ⟨command, other_command, taken⟩ := fell.turn
  rw [← sameThread] at grouped fallen taken
  have closed := flushes.closed
  -- The scene after the launch has no group, so everything else of the group came before.
  have submittedBefore : other.submitted ≤ one.executed := by
    by_contra late
    have inside := same (one.executed + 1) (by have := flushes.order; omega) (by omega)
    omega
  have executedBefore : other.executed ≤ one.executed := by
    by_contra late
    have inside := grouped (one.executed + 1) (by omega) (by omega)
    omega
  have differ : other.executed ≠ one.executed := by
    intro equal
    rw [equal, flushes.closes] at taken
    cases taken
    exact other_command rfl
  refine flushes.not_fallen fallen ?_ (by omega)
  intro scene above below
  by_cases late : one.submitted ≤ scene
  · exact flushes.grouped scene late below
  · exact same scene (by omega) (by omega)

/-- Two launches of one group are made by the same turn. -/
theorem launched_together {one other : Execution} (launched : run.Launched one)
    (again : run.Launched other) (sameThread : one.thread = other.thread)
    (same : run.SameGroup one.thread one.submitted other.submitted) :
    other.executed = one.executed := by
  have first := launched.inside same.inside
  have second := again.inside (sameThread ▸ same.symm.inside)
  rw [← sameThread] at second
  have firstClosed := first.closed
  have secondClosed := second.closed
  have firstOrder := first.order
  have secondOrder := second.order
  rcases Nat.lt_trichotomy other.executed one.executed with early | equal | late
  · by_cases inFirst : one.submitted ≤ other.executed + 1
    · have := first.grouped (other.executed + 1) inFirst (by omega)
      omega
    · have := same (other.executed + 1) (by omega) (by omega)
      omega
  · exact equal
  · by_cases inSecond : other.submitted ≤ one.executed + 1
    · have := second.grouped (one.executed + 1) inSecond (by omega)
      omega
    · have := same (one.executed + 1) (by omega) (by omega)
      omega

/-- One group, one path: two executions of a group are either launches by the turn that
closes it, or both run plain collectives. -/
theorem one_path {one other : Execution} (member : one ∈ run.ledger number)
    (otherMember : other ∈ run.ledger number) (sameThread : one.thread = other.thread)
    (same : run.SameGroup one.thread one.submitted other.submitted) :
    (one.event.launches = true ∧ other.event.launches = true ∧
      run.Flushes one.thread one.submitted one.executed ∧ other.executed = one.executed) ∨
    (one.event.launches = false ∧ other.event.launches = false) := by
  obtain ⟨_, explained⟩ := explained member
  obtain ⟨_, otherExplained⟩ := Run.explained otherMember
  rcases explained with launched | fell
  · rcases otherExplained with again | fell
    · left
      exact ⟨launched.launches_event, again.launches_event, launched.inside same.inside,
        launched_together launched again sameThread same⟩
    · exact (launched_not_fellBack launched fell sameThread same).elim
  · rcases otherExplained with launched | again
    · have back : run.SameGroup other.thread other.submitted one.submitted :=
        sameThread ▸ same.symm
      exact (launched_not_fellBack launched fell sameThread.symm back).elim
    · right
      exact ⟨fell.not_launches, again.not_launches⟩

/-- An execution is that of an operation that its thread submitted, with all its
parameters. -/
theorem faithful {execution : Execution} (member : execution ∈ run.ledger number) :
    ∃ pending, run.Submits execution.submitted execution.thread pending ∧
      pending.ExecutedBy execution.event := by
  obtain ⟨_, launched | fell⟩ := explained member
  · obtain ⟨saved, chosen, launch, answer, same, request, comm, stream, _⟩ := launched.launches
    exact ⟨saved.toPending, chosen.submits, .inl ⟨launch, answer, same, request, comm, stream⟩⟩
  · obtain ⟨pending, submits, ran⟩ := fell.runs
    exact ⟨pending, submits, .inr ran⟩

theorem Submits.thread_unique {submitted : Nat} {other : ThreadId} {pending another : Pending}
    (submits : run.Submits submitted thread pending)
    (again : run.Submits submitted other another) : thread = other := by
  obtain ⟨_, taken, _⟩ := submits
  obtain ⟨_, takenAgain, _⟩ := again
  rw [taken] at takenAgain
  exact congrArg Turn.thread (Option.some.inj takenAgain)

theorem Submits.unique {submitted : Nat} {other : ThreadId} {pending another : Pending}
    (submits : run.Submits submitted thread pending)
    (again : run.Submits submitted other another) : pending = another := by
  obtain ⟨command, taken, sends, _⟩ := submits
  obtain ⟨_, takenAgain, sendsAgain, _⟩ := again
  rw [taken] at takenAgain
  have same := congrArg Turn.command (Option.some.inj takenAgain)
  dsimp only at same
  rw [← same, sends] at sendsAgain
  exact Option.some.inj sendsAgain

/-- No operation is executed twice. -/
theorem submitted_once (run : Run) (number : Nat) :
    ((run.ledger number).map Execution.submitted).Nodup := by
  rw [List.Nodup, List.pairwise_map]
  refine (run.ledger_ordered number).imp_of_mem ?_
  intro first second firstMember secondMember ordered same
  obtain ⟨_, firstSubmits, _⟩ := faithful firstMember
  obtain ⟨_, secondSubmits, _⟩ := faithful secondMember
  rw [same] at firstSubmits
  have less := ordered (firstSubmits.thread_unique secondSubmits)
  omega

end Run

end Collective
