import Collective.Proofs.Run

/-!
# From one first attempt to the next shutdown

Whatever is up was raised by one turn, and nobody has shut down since.  A period is such a
stretch of a run: it begins with nothing, and within it the status only moves on.
-/

namespace Collective

open Procedure History

namespace Run

variable {run : Run} {first middle number : Nat}

/-- Turn `first` brings all up, and nobody has shut down before scene `number`. -/
structure Period (run : Run) (first number : Nat) : Prop where
  closed : (run.status first).ready = false
  opened : (run.status (first + 1)).ready = true
  steady : run.Steady (first + 1) number
  order : first < number

/-- A period goes on unless somebody shuts down. -/
theorem Period.next (period : run.Period first number)
    (open_ : ∀ turn, run.turns[number]? = some turn → turn.command ≠ .shutDown) :
    run.Period first (number + 1) := by
  refine ⟨period.closed, period.opened, ?_, Nat.lt_succ_of_lt period.order⟩
  intro other turn above below taken
  rcases Nat.lt_succ_iff_lt_or_eq.mp below with earlier | rfl
  · exact period.steady other turn above earlier taken
  · exact open_ turn taken

/-- What is up was brought up by some turn. -/
theorem exists_period (ready : (run.status number).ready = true) :
    ∃ first, run.Period first number := by
  induction number with
  | zero => cases ready
  | succ number ih =>
      cases up : (run.status number).ready with
      | false =>
          refine ⟨number, up, ready, ?_, Nat.lt_succ_self number⟩
          intro turn _ above below
          omega
      | true =>
          obtain ⟨first, period⟩ := ih up
          refine ⟨first, period.next fun turn taken shuts => ?_⟩
          rw [status, (turned taken).down shuts] at ready
          cases ready

namespace Period

theorem ready (period : run.Period first number) : (run.status number).ready = true :=
  (stays_up period.steady period.opened period.order).1

theorem restrict (period : run.Period first number) (after : first < middle)
    (before : middle ≤ number) : run.Period first middle :=
  ⟨period.closed, period.opened, period.steady.mono le_rfl before, after⟩

/-- A period begins with nothing. -/
theorem dormant (period : run.Period first number) : (run.status first).Dormant :=
  (run.settled first).2 period.closed

/-- A period begins with a turn that prepares a communicator. -/
theorem joined (period : run.Period first number) :
    ∃ thread comm, run.turns[first]? = some ⟨thread, .join comm⟩ := by
  cases taken : run.turns[first]? with
  | none =>
      have opened := period.opened
      rw [status_past_end taken, period.closed] at opened
      cases opened
  | some turn =>
      obtain ⟨thread, command⟩ := turn
      obtain ⟨comm, same⟩ := (turned taken).raised period.closed period.opened
      dsimp only at same
      rw [same]
      exact ⟨thread, comm, rfl⟩

/-- What holds after the first turn of a period and is kept by every other one holds
throughout. -/
theorem induct (period : run.Period first number) (holds : Nat → Prop)
    (start : holds (first + 1))
    (kept : ∀ middle turn, run.Period first middle → run.turns[middle]? = some turn →
      turn.command ≠ .shutDown → holds middle → holds (middle + 1))
    (idle : ∀ middle, first ≤ middle → run.scene (middle + 1) = run.scene middle →
      holds middle → holds (middle + 1)) : holds number := by
  have within (middle : Nat) (after : first + 1 ≤ middle) :
      middle ≤ number → holds middle := by
    apply run.keeps (fun middle => middle ≤ number → holds middle) (first + 1)
    · exact fun _ => start
    · intro middle turn above taken before below
      have earlier := period.restrict above (Nat.le_of_succ_le below)
      have open_ := period.steady middle turn above below taken
      exact kept middle turn earlier taken open_ (before (Nat.le_of_succ_le below))
    · intro middle above same before below
      exact idle middle (Nat.le_of_succ_le above) same (before (Nat.le_of_succ_le below))
    · exact after
  exact within number period.order le_rfl

/-- What holds after the first turn of a period and is kept by every move while all is up holds
throughout. -/
theorem keeps (period : run.Period first number) (holds : Status → History → Prop)
    (start : holds (run.status (first + 1)) (run.history (first + 1)))
    (kept : ∀ {status history after later}, Status.Move status history after later →
      status.ready = true → holds status history → holds after later) :
    holds (run.status number) (run.history number) := by
  apply period.induct fun number => holds (run.status number) (run.history number)
  · exact start
  · intro middle turn earlier taken open_ before
    have up : (run.status (middle + 1)).ready = true := (turned taken).up open_ earlier.ready
    have both : (run.status (middle + 1)).ready = true ∧
        holds (run.status (middle + 1)) (run.history (middle + 1)) := by
      apply (moved_of_up taken up).keeps fun status history =>
        status.ready = true ∧ holds status history
      · intro _ _ _ _ moved reached
        exact ⟨moved.extends_after.ready reached.1, kept moved reached.1 reached.2⟩
      · exact ⟨earlier.ready, before⟩
    exact both.2
  · intro middle _ same before
    unfold status history at before ⊢
    rw [same]
    exact before

/-- Within a period the status only moves on. -/
theorem moved (period : run.Period first number) :
    Along Status.Move (run.status first) (run.history first) (run.status number)
      (run.history number) := by
  apply period.induct fun number =>
    Along Status.Move (run.status first) (run.history first) (run.status number)
      (run.history number)
  · obtain ⟨thread, comm, taken⟩ := period.joined
    exact moved_of_up taken period.opened
  · intro middle turn earlier taken open_ before
    have up : (run.status (middle + 1)).ready = true := (turned taken).up open_ earlier.ready
    exact before.trans (moved_of_up taken up)
  · intro middle _ same before
    unfold status history at before ⊢
    rw [same]
    exact before

end Period

end Run

end Collective
