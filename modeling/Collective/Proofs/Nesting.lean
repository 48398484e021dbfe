import Collective.Proofs.Faults
import Collective.Proofs.Groups
import Mathlib.Data.Nat.Count

/-!
# Groups that nest

The depth of a thread is the number of groups that it has opened less the number of those that it
has closed.  Only a thread in a group saves operations, and each that it saves is valid and has a
slot.  So no group ends for want of a slot, the end of the outermost one leaves nothing behind
however it goes, and an operation that falls back where nothing is saved does so alone.
-/

namespace Collective

open Procedure History

namespace Course

variable {status : Status} {before after : Thread} {later : History} {command : Command}
variable {events : List Event} {pending : Pending}

/-- A thread is one group deeper once it opens one, and one less deep once it closes one. -/
theorem depth_eq (course : Course status before later command after events) :
    before.depth + (if command = .openGroup then 1 else 0) =
      after.depth + (if command = .closeGroup ∧ before.depth ≠ 0 then 1 else 0) := by
  have neither {submitted : Pending} (submits : command.submission? = some submitted) :
      command ≠ .openGroup ∧ command ≠ .closeGroup := by
    constructor
    · rintro rfl
      cases submits
    · rintro rfl
      cases submits
  cases course with
  | opened => simp [Thread.openGroup]
  | forgot => simp
  | inner deep =>
      have inside : before.depth ≠ 0 := by omega
      rw [if_neg (by decide), if_pos ⟨rfl, inside⟩]
      dsimp only
      omega
  | ended outermost | flushed outermost => simp [outermost]
  | launched submits | turned submits | fellBack submits => simp [neither submits]
  | saved submits => simp [neither submits, Thread.save]
  | idle unopened _ outside _ depth =>
      rw [depth, if_neg unopened, if_neg]
      rintro ⟨closes, inside⟩
      exact inside (outside closes)

/-- Where a thread saves nothing, it executes no more than what it submits. -/
theorem executes_alone (course : Course status before later command after events)
    (consistent : before.Consistent) (other : before.phase ≠ .scheduling)
    (submits : command.submission? = some pending) :
    events.length ≤ 1 ∧ ∀ event ∈ events, pending.ExecutedBy event := by
  have empty := consistent.empty other
  cases course with
  | opened | forgot | inner | ended | flushed => cases submits
  | launched submitted _ _ _ served =>
      cases submitted.symm.trans submits
      obtain ⟨most, launched⟩ := served.single
      refine ⟨most, fun event member => ?_⟩
      obtain ⟨launch, answer, same, request, comm, stream, _⟩ := launched event member
      exact .inl ⟨launch, answer, same, request, comm, stream⟩
  | saved _ _ scheduling | turned _ _ scheduling => exact absurd scheduling other
  | fellBack submitted _ _ served =>
      cases submitted.symm.trans submits
      rw [empty] at served
      obtain ⟨most, ran⟩ := served.single
      exact ⟨most, fun event member => .inr (ran event member)⟩
  | idle => simp

end Course

/-- A group that nobody has opened cannot be closed, and nothing changes. -/
theorem Machine.run_closeGroup_outside {env : Environment} {machine : Machine} {history : History}
    {thread : ThreadId} (config : Config) (outside : (machine.threads thread).depth = 0) :
    (perform config thread .closeGroup).run env machine history =
      ⟨.error (.misuse .unmatchedGroupEnd), machine, history⟩ := by
  apply Ensures.run_eq_error
  unfold perform closeGroup onThread Thread.closeGroup
  simp only [ensures_bind, ensures_within, ensures_get, ensures_ite, ensures_throw, outside,
    if_true, setThread_eta, and_self]

namespace Run

/-- A turn opens a group of a thread. -/
def Opens (run : Run) (thread : ThreadId) (number : Nat) : Prop :=
  run.turns[number]? = some ⟨thread, .openGroup⟩

/-- A turn closes a group of a thread, which is in one. -/
def Closes (run : Run) (thread : ThreadId) (number : Nat) : Prop :=
  run.turns[number]? = some ⟨thread, .closeGroup⟩ ∧ (run.thread number thread).depth ≠ 0

instance (run : Run) (thread : ThreadId) : DecidablePred (run.Opens thread) :=
  fun number => inferInstanceAs (Decidable (run.turns[number]? = _))

instance (run : Run) (thread : ThreadId) : DecidablePred (run.Closes thread) :=
  fun _ => inferInstanceAs (Decidable (_ ∧ _))

/-- What holds of the groups of a thread after any turns of any threads, whether they fail or
not. -/
structure GroupsKept (run : Run) (number : Nat) (thread : ThreadId) : Prop where
  /-- The depth is what was opened less what was closed. -/
  depth : Nat.count (run.Opens thread) number =
    Nat.count (run.Closes thread) number + (run.thread number thread).depth
  outside : (run.thread number thread).phase = .noGroup ↔ (run.thread number thread).depth = 0
  saving : (run.thread number thread).saved ≠ [] → (run.thread number thread).phase = .scheduling
  /-- Every saved operation has a slot. -/
  slot : ∀ saved ∈ (run.thread number thread).saved, saved.handle.isSome = true
  /-- The lists of counts of a saved operation reach every rank. -/
  counts : ∀ saved ∈ (run.thread number thread).saved, ∀ counts,
    saved.request.operation.peerCounts = some counts →
      counts.Reaches saved.request.numRanks.toNat
  /-- To close a group outside all groups fails, and it changes nothing. -/
  unmatched : (run.thread number thread).depth = 0 →
    run.outcome (run.scene number) ⟨thread, .closeGroup⟩ =
      ⟨.error (.misuse .unmatchedGroupEnd), (run.scene number).machine, run.history number⟩
  /-- Whether or not the launches succeed, the end of the outermost group leaves nothing behind. -/
  outermost : (run.thread number thread).depth = 1 →
    let after := (run.outcome (run.scene number) ⟨thread, .closeGroup⟩).state.threads thread
    after.depth = 0 ∧ after.phase = .noGroup ∧ after.saved = []
  /-- No command fails because a saved operation has no slot. -/
  ordinary : ∀ command, (run.outcome (run.scene number) ⟨thread, command⟩).result ≠
    .error (.misuse .savedWithoutHandle)
  /-- Where the thread saves no operations, one that falls back is run alone. -/
  alone : (run.thread number thread).phase ≠ .scheduling → ∀ pending env history,
    (Thread.fallBack pending).run env (run.thread number thread) history =
      (Thread.asCaller (Thread.runPlain pending)).run env (run.thread number thread) history
  /-- Nor does the whole submission execute anything but the operation that is submitted. -/
  single : (run.thread number thread).phase ≠ .scheduling → ∀ operation comm stream,
    ∃ events, Executes (run.history number) events
        (run.outcome (run.scene number) ⟨thread, .submit operation comm stream⟩).history ∧
      events.length ≤ 1 ∧
      ∀ event ∈ events, Pending.ExecutedBy ⟨comm.request operation, comm, stream⟩ event

variable {run : Run} {number : Nat} {thread : ThreadId}

/-- What one turn does to the depth of a thread. -/
theorem depth_succ (run : Run) (number : Nat) (thread : ThreadId) :
    (run.thread number thread).depth + (if run.Opens thread number then 1 else 0) =
      (run.thread (number + 1) thread).depth + (if run.Closes thread number then 1 else 0) := by
  cases taken : run.turns[number]? with
  | none => simp [Opens, Closes, taken, thread_past_end taken]
  | some turn =>
      obtain ⟨owner, command⟩ := turn
      by_cases own : owner = thread
      · subst own
        simpa [Opens, Closes, taken] using (course taken).depth_eq
      · simp [Opens, Closes, taken, own, thread_other taken own]

/-- The groups that a thread has opened are those that it has closed and those that it is in. -/
theorem opened_eq (run : Run) (number : Nat) (thread : ThreadId) :
    Nat.count (run.Opens thread) number =
      Nat.count (run.Closes thread) number + (run.thread number thread).depth := by
  induction number with
  | zero => rfl
  | succ number ih =>
      have step := run.depth_succ number thread
      rw [Nat.count_succ, Nat.count_succ, ih]
      omega

/-- Every open group has taken a turn.  So a word of the machine holds the depth in every run of
fewer than 2^64 turns. -/
theorem depth_le (run : Run) (number : Nat) (thread : ThreadId) :
    (run.thread number thread).depth ≤ number := by
  have opened := run.opened_eq number thread
  have most : Nat.count (run.Opens thread) number ≤ number := Nat.count_le _
  omega

/-- What a thread saves was submitted by a turn, and a slot was chosen for it. -/
theorem Waits.chosen (waits : run.Waits number thread) {saved : SavedOperation}
    (member : saved ∈ (run.thread number thread).saved) :
    ∃ submitted, run.Chosen thread saved submitted := by
  obtain ⟨submitted, _, held⟩ := exists_of_mem_left waits.matched member
  exact ⟨submitted, held.toChosen⟩

theorem Chosen.isSome {saved : SavedOperation} {submitted : Nat}
    (chosen : run.Chosen thread saved submitted) : saved.handle.isSome = true := by
  obtain ⟨handle, slot, _⟩ := chosen.chosen
  rw [slot]
  rfl

theorem Chosen.valid {saved : SavedOperation} {submitted : Nat}
    (chosen : run.Chosen thread saved submitted) : saved.toPending.Valid := by
  obtain ⟨_, _, _, valid⟩ := chosen.submits
  exact valid

theorem Waits.isSome (waits : run.Waits number thread) :
    ∀ saved ∈ (run.thread number thread).saved, saved.handle.isSome = true := by
  intro saved member
  obtain ⟨_, chosen⟩ := waits.chosen member
  exact chosen.isSome

/-- Whatever a turn fails with, it is not that a saved operation has no slot. -/
theorem ordinary_of_failed {turn : Turn} {error : Error}
    (failed : (run.outcome (run.scene number) turn).result = .error error) :
    error.ordinary = true := by
  obtain ⟨thread, command⟩ := turn
  by_cases closes : command = .closeGroup
  · subst closes
    have given := (run.waits number thread).isSome
    exact (Machine.ensures_closeGroup_ordinary run.config thread given).failure failed
  · have fails := Machine.fails_perform run.config thread closes
    exact (fails run.env (run.scene number).machine (run.history number)).failure failed

/-- In every scene, the groups of every thread are kept. -/
theorem groups_kept (run : Run) (number : Nat) (thread : ThreadId) :
    run.GroupsKept number thread where
  depth := run.opened_eq number thread
  outside := (run.waits number thread).consistent.phase.symm
  saving := by
    intro saves
    by_contra other
    exact saves ((run.waits number thread).consistent.empty other)
  slot := (run.waits number thread).isSome
  counts := by
    intro saved member
    obtain ⟨_, chosen⟩ := (run.waits number thread).chosen member
    exact Request.validate_eq_ok_iff.mp chosen.valid
  unmatched := Machine.run_closeGroup_outside run.config
  outermost := by
    intro outermost
    obtain ⟨_, _, course⟩ := (run.turning number ⟨thread, .closeGroup⟩).course
    exact course.outermost (run.waits number thread).consistent outermost
  ordinary := by
    intro command failed
    exact Error.ordinary_iff.mp (ordinary_of_failed failed) rfl
  alone := by
    intro other pending env history
    exact Thread.run_fallBack_alone ((run.waits number thread).consistent.empty other) pending
  single := by
    intro other operation comm stream
    obtain ⟨events, executes, course⟩ :=
      (run.turning number ⟨thread, .submit operation comm stream⟩).course
    refine ⟨events, executes, ?_⟩
    exact course.executes_alone (run.waits number thread).consistent other rfl

end Run

namespace Sample

/-- The runtime refuses to launch what a group has saved. -/
def balky : Run where
  config := (run .allReduce []).config
  env := .inOrder fun
    | _, .launch _ => .error "refused"
    | history, call => (Environment.obliging (algorithm .allReduce)).answer history call
  turns := [⟨0, .join (comm 1 0)⟩, ⟨0, .openGroup⟩, ⟨0, .submit allReduce (comm 1 0) ⟨0⟩⟩]

/-- The end of the group fails, and the thread is outside all groups and has forgotten the
operation. -/
theorem closed_though_refused :
    (balky.thread 3 0).saved.length = 1 ∧
      (balky.outcome (balky.scene 3) ⟨0, .closeGroup⟩).result =
        .error (.collaborator "refused") ∧
      let after := (balky.outcome (balky.scene 3) ⟨0, .closeGroup⟩).state.threads 0
      after.depth = 0 ∧ after.phase = .noGroup ∧ after.saved = [] := by
  have deep : (balky.thread 3 0).depth = 1 := by decide +kernel
  exact ⟨by decide +kernel, by decide +kernel, (Run.groups_kept balky 3 0).outermost deep⟩

end Sample

end Collective
