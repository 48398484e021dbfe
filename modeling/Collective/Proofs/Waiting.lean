import Collective.Proofs.Run
import Mathlib.Data.List.Forall2
import Mathlib.Data.List.Pairwise

/-!
# What waits

Operations that are saved are numbered by the turns that submitted them:
`Run.waiting` follows a thread's saved operations by number, and `Run.Waits` says how the
two go together in every scene.  What a turn has to run is what waits and what the turn
submits itself.
-/

namespace Collective

open Procedure History

section Matched

variable {ι κ : Type} {paired : ι → κ → Prop} {items : List ι} {others : List κ}

theorem exists_of_mem_left (matched : List.Forall₂ paired items others) {item : ι}
    (member : item ∈ items) : ∃ other ∈ others, paired item other := by
  induction matched with
  | nil => cases member
  | cons first _ ih =>
      rcases List.mem_cons.mp member with rfl | later
      · exact ⟨_, List.mem_cons_self, first⟩
      · obtain ⟨other, isOther, found⟩ := ih later
        exact ⟨other, List.mem_cons_of_mem _ isOther, found⟩

theorem exists_of_mem_right (matched : List.Forall₂ paired items others) {other : κ}
    (member : other ∈ others) : ∃ item ∈ items, paired item other := by
  have flipped : List.Forall₂ (flip paired) others items := matched.flip
  exact exists_of_mem_left flipped member

end Matched

/-- A thread is in no phase outside groups, and it saves operations in one phase only. -/
structure Thread.Consistent (thread : Thread) : Prop where
  phase : thread.depth = 0 ↔ thread.phase = .noGroup
  empty : thread.phase ≠ .scheduling → thread.saved = []

/-- A thread saves operations in a group only. -/
theorem Thread.Consistent.inside {thread : Thread} (consistent : thread.Consistent)
    (scheduling : thread.phase = .scheduling) : 0 < thread.depth := by
  apply Nat.pos_of_ne_zero
  intro closed
  rw [consistent.phase.mp closed] at scheduling
  cases scheduling

/-- A thread falls back in a group where it saves no operations. -/
theorem Thread.Consistent.fallingBack {thread : Thread} (consistent : thread.Consistent)
    (inside : 0 < thread.depth) (other : thread.phase ≠ .scheduling) :
    thread.phase = .fallingBack := by
  cases found : thread.phase with
  | noGroup =>
      have closed := consistent.phase.mpr found
      omega
  | scheduling => exact absurd found other
  | fallingBack => rfl

namespace Course

variable {status : Status} {before after : Thread} {later : History} {command : Command}
variable {events : List Event}

theorem consistent (course : Course status before later command after events)
    (consistent : before.Consistent) : after.Consistent := by
  obtain ⟨phase, empty⟩ := consistent
  cases course with
  | opened =>
      constructor
      · unfold Thread.openGroup
        split <;> simp_all
      · unfold Thread.openGroup
        split <;> simp_all
  | forgot => exact ⟨phase, fun _ => rfl⟩
  | inner deep =>
      refine ⟨?_, empty⟩
      constructor
      · intro closed
        simp only at closed
        omega
      · intro outside
        have := phase.mpr outside
        omega
  | ended _ fallen => exact ⟨by simp, fun _ => empty fallen⟩
  | flushed => exact ⟨by simp, fun _ => rfl⟩
  | launched => exact ⟨phase, empty⟩
  | saved _ _ scheduling => exact ⟨phase, fun other => absurd scheduling other⟩
  | turned _ _ scheduling =>
      refine ⟨?_, fun _ => rfl⟩
      simp only [phase, scheduling]
      simp
  | fellBack => exact ⟨phase, fun _ => rfl⟩
  | idle _ _ _ _ depth samePhase saved =>
      rw [← depth, ← samePhase] at phase
      rw [← samePhase, ← saved] at empty
      exact ⟨phase, empty⟩

/-- The end of the outermost group leaves no group and no saved operation behind. -/
theorem outermost (course : Course status before later .closeGroup after events)
    (consistent : before.Consistent) (outermost : before.depth = 1) :
    after.depth = 0 ∧ after.phase = .noGroup ∧ after.saved = [] := by
  cases course with
  | inner deep => omega
  | ended _ fallen => exact ⟨rfl, rfl, consistent.empty fallen⟩
  | flushed => exact ⟨rfl, rfl, rfl⟩
  | launched submits | saved submits | turned submits | fellBack submits => cases submits
  | idle _ _ unopened =>
      have := unopened rfl
      omega

/-- The saved operations are gone, or kept, or one more is saved. -/
theorem saves (course : Course status before later command after events)
    (consistent : before.Consistent) :
    after.saved = [] ∨
    (after.saved = before.saved ∧ (before.phase = .scheduling → after.phase = .scheduling)) ∨
    ∃ pending handle, command.submission? = some pending ∧ pending.Valid ∧
      before.phase = .scheduling ∧ status.Chooses pending.request handle ∧
      after = before.save { pending with handle := some handle } := by
  cases course with
  | opened =>
      refine .inr (.inl ⟨rfl, fun scheduling => ?_⟩)
      simp [Thread.openGroup, scheduling]
  | forgot | flushed | turned | fellBack => exact .inl rfl
  | inner => exact .inr (.inl ⟨rfl, id⟩)
  | ended _ fallen => exact .inl (consistent.empty fallen)
  | launched => exact .inr (.inl ⟨rfl, id⟩)
  | saved submitted valid scheduling chooses =>
      exact .inr (.inr ⟨_, _, submitted, valid, scheduling, chooses, rfl⟩)
  | idle _ _ _ _ _ phase saved =>
      exact .inr (.inl ⟨saved, fun scheduling => phase.trans scheduling⟩)

/-- What is executed is saved no longer. -/
theorem executes_all (course : Course status before later command after events)
    (consistent : before.Consistent) : events = [] ∨ after.saved = [] := by
  cases course with
  | opened | inner | ended | saved | idle => exact .inl rfl
  | forgot | flushed | turned | fellBack => exact .inr rfl
  | launched _ _ outside => exact .inr (consistent.empty (by simp [outside]))

end Course

/-- The operations that a command leaves to be run: those that wait, and the one that it
submits. -/
def Command.queue (command : Command) (number : Nat) (waiting : List Nat) : List Nat :=
  if command.submission?.isSome then waiting ++ [number] else waiting

namespace Run

/-- The calls of a turn that executed operations, the earliest first. -/
def executed (run : Run) (number : Nat) : List Event :=
  History.executions (run.between number (number + 1))

/-- The turns that submitted the operations that a thread has saved. -/
def waiting (run : Run) : Nat → ThreadId → List Nat
  | 0, _ => []
  | number + 1, thread =>
      match run.turns[number]? with
      | none => waiting run number thread
      | some turn =>
          if turn.thread = thread then
            (turn.command.queue number (waiting run number thread)).take
              (run.thread (number + 1) thread).saved.length
          else waiting run number thread

/-- A turn of a thread submits a valid operation. -/
def Submits (run : Run) (number : Nat) (thread : ThreadId) (pending : Pending) : Prop :=
  ∃ command, run.turns[number]? = some ⟨thread, command⟩ ∧
    command.submission? = some pending ∧ pending.Valid

/-- A thread is in one group from one scene to another. -/
def Open (run : Run) (thread : ThreadId) (first last : Nat) : Prop :=
  ∀ number, first ≤ number → number ≤ last → 0 < (run.thread number thread).depth

/-- An operation was submitted by a turn, and a slot was chosen for it there. -/
structure Chosen (run : Run) (thread : ThreadId) (saved : SavedOperation) (submitted : Nat) :
    Prop where
  submits : run.Submits submitted thread saved.toPending
  chosen : ∃ handle, saved.handle = some handle ∧
    (run.status submitted).Chooses saved.request handle

/-- An operation was saved by an earlier turn of the open group. -/
structure Saved (run : Run) (number : Nat) (thread : ThreadId) (saved : SavedOperation)
    (submitted : Nat) : Prop extends run.Chosen thread saved submitted where
  before : submitted < number
  grouped : run.Open thread submitted number
  scheduling : ∀ scene, submitted ≤ scene → scene ≤ number →
    (run.thread scene thread).phase = .scheduling

/-- An operation that is to be run at a turn: it was submitted by the turn, or earlier in
the open group. -/
structure Owes (run : Run) (number : Nat) (thread : ThreadId) (pending : Pending)
    (submitted : Nat) : Prop where
  submits : run.Submits submitted thread pending
  order : submitted ≤ number
  outside : (run.thread submitted thread).depth = 0 → number = submitted
  grouped : 0 < (run.thread submitted thread).depth → run.Open thread submitted number

/-- What is known of a thread between two turns. -/
structure Waits (run : Run) (number : Nat) (thread : ThreadId) : Prop where
  consistent : (run.thread number thread).Consistent
  sorted : (run.waiting number thread).Pairwise (· < ·)
  matched : List.Forall₂ (run.Saved number thread) (run.thread number thread).saved
    (run.waiting number thread)

variable {run : Run} {number first last : Nat} {turn : Turn} {thread : ThreadId}

theorem Open.mono {before after : Nat} (opened : run.Open thread first last)
    (lower : first ≤ before) (upper : after ≤ last) : run.Open thread before after := by
  intro number above below
  exact opened number (lower.trans above) (below.trans upper)

theorem Open.single (inside : 0 < (run.thread number thread).depth) :
    run.Open thread number number := by
  intro scene above below
  rw [Nat.le_antisymm below above]
  exact inside

theorem Open.succ (opened : run.Open thread first number)
    (inside : 0 < (run.thread (number + 1) thread).depth) :
    run.Open thread first (number + 1) := by
  intro scene above below
  rcases Nat.le_succ_iff.mp below with earlier | rfl
  · exact opened scene above earlier
  · exact inside

theorem executed_of_executes {events : List Event}
    (executes : Executes (run.history number) events (run.history (number + 1))) :
    run.executed number = events := by
  obtain ⟨added, grown, rfl⟩ := executes
  unfold executed
  rw [between_of_append grown]

/-- The course of a turn's thread. -/
theorem course (taken : run.turns[number]? = some turn) :
    Course (run.status number) (run.thread number turn.thread) (run.history (number + 1))
      turn.command (run.thread (number + 1) turn.thread) (run.executed number) := by
  obtain ⟨events, executes, course⟩ := (turned taken).course
  rw [executed_of_executes executes]
  exact course

theorem thread_other (taken : run.turns[number]? = some turn) (differ : turn.thread ≠ thread) :
    run.thread (number + 1) thread = run.thread number thread :=
  (turned taken).others thread fun same => differ same.symm

theorem waiting_other (taken : run.turns[number]? = some turn) (differ : turn.thread ≠ thread) :
    run.waiting (number + 1) thread = run.waiting number thread := by
  rw [waiting, taken]
  exact if_neg differ

theorem waiting_own (taken : run.turns[number]? = some turn) :
    run.waiting (number + 1) turn.thread =
      (turn.command.queue number (run.waiting number turn.thread)).take
        (run.thread (number + 1) turn.thread).saved.length := by
  rw [waiting, taken]
  exact if_pos rfl

theorem Saved.succ {saved : SavedOperation} {submitted : Nat}
    (held : run.Saved number thread saved submitted)
    (inside : 0 < (run.thread (number + 1) thread).depth)
    (scheduling : (run.thread (number + 1) thread).phase = .scheduling) :
    run.Saved (number + 1) thread saved submitted where
  submits := held.submits
  chosen := held.chosen
  before := Nat.lt_succ_of_lt held.before
  grouped := held.grouped.succ inside
  scheduling := by
    intro scene above below
    rcases Nat.le_succ_iff.mp below with earlier | rfl
    · exact held.scheduling scene above earlier
    · exact scheduling

theorem Waits.length_eq (waits : run.Waits number thread) :
    (run.thread number thread).saved.length = (run.waiting number thread).length :=
  waits.matched.length_eq

/-- What waits is an operation that is saved. -/
theorem Waits.saved (waits : run.Waits number thread) {submitted : Nat}
    (member : submitted ∈ run.waiting number thread) :
    ∃ saved ∈ (run.thread number thread).saved, run.Saved number thread saved submitted :=
  exists_of_mem_right waits.matched member

theorem Waits.sorted_append (waits : run.Waits number thread) :
    (run.waiting number thread ++ [number]).Pairwise (· < ·) := by
  apply List.pairwise_append.mpr
  refine ⟨waits.sorted, List.pairwise_singleton _ _, ?_⟩
  intro submitted member last isLast
  obtain ⟨_, _, held⟩ := waits.saved member
  rw [List.mem_singleton.mp isLast]
  exact held.before

/-- A thread that does nothing goes on waiting. -/
theorem Waits.same (waits : run.Waits number thread)
    (sameThread : run.thread (number + 1) thread = run.thread number thread)
    (sameWaiting : run.waiting (number + 1) thread = run.waiting number thread) :
    run.Waits (number + 1) thread where
  consistent := by rw [sameThread]; exact waits.consistent
  sorted := by rw [sameWaiting]; exact waits.sorted
  matched := by
    rw [sameThread, sameWaiting]
    refine waits.matched.imp ?_
    intro saved submitted held
    have scheduling := held.scheduling number (Nat.le_of_lt held.before) le_rfl
    apply held.succ
    · rw [sameThread]
      exact waits.consistent.inside scheduling
    · rw [sameThread]
      exact scheduling

theorem queue_of_some {command : Command} {pending : Pending}
    (submits : command.submission? = some pending) (waiting : List Nat) :
    command.queue number waiting = waiting ++ [number] := by
  simp [Command.queue, submits]

/-- The operations that wait are the first to be run. -/
theorem queue_take (command : Command) (waiting : List Nat) :
    (command.queue number waiting).take waiting.length = waiting := by
  unfold Command.queue
  split <;> simp

theorem mem_queue {command : Command} {waiting : List Nat} {submitted : Nat}
    (member : submitted ∈ command.queue number waiting) :
    submitted ∈ waiting ∨ submitted = number := by
  unfold Command.queue at member
  split at member
  · simpa using member
  · exact .inl member

theorem mem_queue_of_waiting {waiting : List Nat} {submitted : Nat}
    (waits : submitted ∈ waiting) (command : Command) :
    submitted ∈ command.queue number waiting := by
  unfold Command.queue
  split
  · exact List.mem_append_left _ waits
  · exact waits

/-- An operation that was saved waits with those before it. -/
theorem Waits.more (waits : run.Waits number turn.thread)
    (taken : run.turns[number]? = some turn) {pending : Pending} {handle : Handle}
    (submits : turn.command.submission? = some pending) (valid : pending.Valid)
    (scheduling : (run.thread number turn.thread).phase = .scheduling)
    (chooses : (run.status number).Chooses pending.request handle)
    (after : run.thread (number + 1) turn.thread =
      (run.thread number turn.thread).save { pending with handle := some handle }) :
    run.Waits (number + 1) turn.thread := by
  have saved : (run.thread (number + 1) turn.thread).saved =
      (run.thread number turn.thread).saved ++ [{ pending with handle := some handle }] := by
    rw [after]
    rfl
  have waiting : run.waiting (number + 1) turn.thread =
      run.waiting number turn.thread ++ [number] := by
    rw [waiting_own taken, queue_of_some submits, saved]
    apply List.take_of_length_le
    simp [waits.length_eq]
  have inside : 0 < (run.thread (number + 1) turn.thread).depth := by
    rw [after]
    exact waits.consistent.inside scheduling
  have still : (run.thread (number + 1) turn.thread).phase = .scheduling := by
    rw [after]
    exact scheduling
  constructor
  · rw [after]
    exact ⟨waits.consistent.phase, fun other => absurd scheduling other⟩
  · rw [waiting]
    exact waits.sorted_append
  · rw [waiting, saved]
    apply List.rel_append
    · apply waits.matched.imp
      intro saved submitted held
      exact held.succ inside still
    · refine .cons ?_ .nil
      have grouped := (Open.single (waits.consistent.inside scheduling)).succ inside
      refine ⟨⟨⟨turn.command, taken, submits, valid⟩, handle, rfl, chooses⟩, Nat.lt_succ_self _,
        grouped, ?_⟩
      intro scene above below
      rcases Nat.le_succ_iff.mp below with earlier | rfl
      · rw [Nat.le_antisymm earlier above]
        exact scheduling
      · exact still

/-- A turn of the thread itself keeps what is known of it. -/
theorem Waits.own (waits : run.Waits number turn.thread)
    (taken : run.turns[number]? = some turn) : run.Waits (number + 1) turn.thread := by
  have consistent := (course taken).consistent waits.consistent
  rcases (course taken).saves waits.consistent with none | ⟨same, scheduling⟩ | more
  · refine ⟨consistent, ?_, ?_⟩
    · rw [waiting_own taken, none]
      simp
    · rw [waiting_own taken, none]
      simp
  · have sameWaiting : run.waiting (number + 1) turn.thread = run.waiting number turn.thread := by
      rw [waiting_own taken, same, waits.length_eq, queue_take]
    refine ⟨consistent, ?_, ?_⟩
    · rw [sameWaiting]
      exact waits.sorted
    · rw [sameWaiting, same]
      apply waits.matched.imp
      intro saved submitted held
      have now := scheduling (held.scheduling number (Nat.le_of_lt held.before) le_rfl)
      exact held.succ (consistent.inside now) now
  · obtain ⟨pending, handle, submits, valid, scheduling, chooses, after⟩ := more
    exact waits.more taken submits valid scheduling chooses after

/-- What is known of a thread holds in every scene. -/
theorem waits (run : Run) (number : Nat) (thread : ThreadId) : run.Waits number thread := by
  induction number with
  | zero => exact ⟨⟨⟨fun _ => rfl, fun _ => rfl⟩, fun _ => rfl⟩, .nil, .nil⟩
  | succ number ih =>
      cases taken : run.turns[number]? with
      | none =>
          apply ih.same (thread_past_end taken thread)
          rw [waiting, taken]
      | some turn =>
          by_cases own : turn.thread = thread
          · subst own
            exact ih.own taken
          · exact ih.same (thread_other taken own) (waiting_other taken own)

/-- The operations that a group falls back with are those submitted by the turns. -/
theorem Waits.owes (waits : run.Waits number thread) {command : Command} {pending : Pending}
    (taken : run.turns[number]? = some ⟨thread, command⟩)
    (submits : command.submission? = some pending) (valid : pending.Valid) :
    List.Forall₂ (run.Owes number thread)
      ((run.thread number thread).saved.map (·.toPending) ++ [pending])
      (run.waiting number thread ++ [number]) := by
  apply List.rel_append
  · rw [List.forall₂_map_left_iff]
    apply waits.matched.imp
    intro saved submitted held
    refine ⟨held.submits, Nat.le_of_lt held.before, ?_, fun _ => held.grouped⟩
    intro outside
    have inside := held.grouped submitted le_rfl (Nat.le_of_lt held.before)
    omega
  · exact .cons ⟨⟨command, taken, submits, valid⟩, le_rfl, fun _ => rfl, .single⟩ .nil

theorem Waits.le_of_present (waits : run.Waits number thread) {submitted : Nat}
    (present : submitted ∈ run.waiting number thread ∨ submitted = number) :
    submitted ≤ number := by
  rcases present with waiting | rfl
  · obtain ⟨_, _, held⟩ := waits.saved waiting
    exact Nat.le_of_lt held.before
  · exact le_rfl

theorem Waits.open_of_present (waits : run.Waits number thread) {submitted : Nat}
    (present : submitted ∈ run.waiting number thread ∨ submitted = number)
    (inside : 0 < (run.thread number thread).depth) : run.Open thread submitted number := by
  rcases present with waiting | rfl
  · obtain ⟨_, _, held⟩ := waits.saved waiting
    exact held.grouped
  · exact .single inside

theorem Waits.none_waiting (waits : run.Waits number thread)
    (other : (run.thread number thread).phase ≠ .scheduling) :
    run.waiting number thread = [] := by
  apply List.eq_nil_of_length_eq_zero
  rw [← waits.length_eq, waits.consistent.empty other]
  rfl

end Run

end Collective
