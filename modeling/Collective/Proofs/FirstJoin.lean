import Collective.Proofs.Accounting
import Collective.Proofs.Footprint
import Collective.Proofs.Groups

/-!
# First attempts that fail

While nothing is up nothing is launched, and only a communicator that is prepared brings
something up.  Where that fails all is undone and nothing is up; but the kernels of the
device are prepared last, when all is up already, and what their refusal ends is not
undone.
-/

namespace Collective

open Procedure History

theorem History.mem_executions_iff {history : History} {event : Event} :
    event ∈ executions history ↔ event ∈ history ∧ event.call.executes = true := by
  simp [executions]

theorem Event.executes_of_launches {event : Event} (launches : event.launches = true) :
    event.call.executes = true := by
  obtain ⟨call, answer⟩ := event
  cases call <;> first | rfl | cases launches

/-- Preparing kernels provides nothing. -/
theorem Event.not_provides {event : Event} (refused : event.refusesKernels = true) :
    event.provides = false := by
  obtain ⟨call, answer⟩ := event
  cases call <;> first | rfl | cases refused

/-- No thread launches anything while launches are impossible. -/
theorem Course.launches_nothing {status : Status} {before after : Thread} {later : History}
    {command : Command} {events : List Event}
    (course : Course status before later command after events) (closed : status.ready = false) :
    ∀ event ∈ events, event.launches = false := by
  have plain {items : List Pending} (served : Served (Pending.FellBack true) items events) :
      ∀ event ∈ events, event.launches = false := by
    intro event member
    obtain ⟨call, answer, rfl⟩ := Thread.RanPlain.fellBack_isPlain served member
    rfl
  cases course with
  | opened | forgot | inner | ended | saved | idle => simp
  | flushed _ _ served =>
      generalize before.saved = items at served
      cases served with
      | stop => simp
      | next ran =>
          obtain ⟨_, _, _, _, _, _, _, up, _⟩ := ran
          rw [up] at closed
          cases closed
  | launched _ _ _ chooses =>
      rw [chooses.ready] at closed
      cases closed
  | turned _ _ _ served | fellBack _ _ _ served => exact plain served

namespace Machine

variable {env : Environment} {machine : Machine} {history : History}
variable {good : UInt32 → Machine → History → Prop} {bad : Error → Machine → History → Prop}

/-- While nothing is up a fit communicator is prepared, and then the kernels are; a preparation
that fails is undone. -/
theorem ensures_joinDown (config : Config) (comm : Communicator)
    (down : machine.status.ready = false) :
    (join config comm).Ensures env machine history good bad ↔
      let marked := machine.mark comm (fit config comm)
      if fit config comm then
        (Status.prepare config comm).Ensures env machine.status history
          (fun needed status past => (adjustStack config comm).Ensures env
            { marked with status } past (fun _ => good needed) bad)
          (fun error status past =>
            let undone := fun status => bad error { marked with status }
            Status.release.Ensures env status past (fun _ => undone) (fun _ => undone))
      else good 0 marked history := by
  have same : (machine.mark comm (fit config comm)).status = machine.status := rfl
  unfold join onStatus Status.bringUp
  simp only [ensures_bind, ensures_modify, ensures_ite, ensures_pure, ensures_get,
    ensures_within, ensures_tryCatch, ensures_attempt, ensures_throw, same, down, if_true,
    Bool.not_false, Bool.false_eq_true, if_false]
  cases fit config comm with
  | true => rfl
  | false => rfl

/-- What holds of the status once it is prepared, or once a preparation that failed is undone, a
join ensures while nothing is up. -/
theorem ensures_joinDown_status {holds : Status → Prop} {config : Config} {comm : Communicator}
    (down : machine.status.ready = false)
    (unfit : fit config comm = false → holds machine.status)
    (fits : fit config comm = true → (Status.prepare config comm).Ensures env machine.status history
      (fun _ after _ => holds after)
      (fun _ failed past => Status.release.Ensures env failed past
        (fun _ after _ => holds after) (fun _ after _ => holds after))) :
    (join config comm).Ensures env machine history (fun _ after _ => holds after.status)
      (fun _ after _ => holds after.status) := by
  rw [ensures_joinDown config comm down]
  dsimp only
  split
  next fit_ =>
    apply (fits fit_).mono
    · intro needed status past reached
      have adjusted := @ensures_adjustStack env past Machine
        { machine.mark comm (fit config comm) with status } config comm
      apply adjusted.mono
      · intro _ after _ asked
        rw [asked.1]
        exact reached
      · intro _ after _ refused
        rw [refused.1.1]
        exact reached
    · exact fun _ _ _ undone => undone
  next other => exact unfit (by simpa using other)

/-- What a first preparation that succeeds ensures of the status, a join ensures where it leaves
all up. -/
theorem ensures_joinFirst_of_prepare {holds : Status → Prop} {config : Config}
    {comm : Communicator} (settled : machine.status.Settled)
    (down : machine.status.ready = false)
    (prepared : (Status.prepare config comm).Ensures env machine.status history
      (fun _ after _ => holds after) (fun _ _ _ => True)) :
    let raised := fun (after : Machine) (_ : History) =>
      after.status.ready = true → holds after.status
    (join config comm).Ensures env machine history (fun _ => raised) (fun _ => raised) := by
  intro raised
  have closed {after : Status} (same : after.ready = false) (up : after.ready = true) :
      holds after := by
    rw [same] at up
    cases up
  apply @ensures_joinDown_status _ _ _ (fun status => status.ready = true → holds status) _ _ down
  · exact fun _ => closed down
  · intro _
    apply (prepared.and (Status.ensures_prepare config comm settled)).mono
    · exact fun _ _ _ both _ => both.1
    · intro error status past both
      apply Status.ensures_release.mono
      · exact fun _ _ _ released => closed (released.2.trans (both.2.2.trans down))
      · exact fun _ _ _ released => closed (released.2.trans (both.2.2.trans down))

/-- A first attempt that fails was undone, with the kernels left alone, or it has brought
all up and the kernels were refused. -/
theorem ensures_firstJoin (config : Config) (comm : Communicator)
    (settled : machine.status.Settled) (closed : machine.status.ready = false) :
    (join config comm).Ensures env machine history (fun _ _ _ => True)
      (fun _ after later =>
        (after.status.ready = false ∧ Only Event.provides history later) ∨
        (after.available config = true ∧ KernelsRefused history later)) := by
  unfold join onStatus
  simp only [ensures_bind, ensures_modify, ensures_ite, ensures_pure, ensures_get,
    ensures_within]
  split
  next => trivial
  next fits =>
    have enabled : config.enabled = true := by
      simp only [fit, Bool.not_eq_true', Bool.not_eq_false, Bool.and_eq_true] at fits
      exact fits.1.1
    refine ((Status.ensures_bringUp config comm settled).only
      (Status.makes_bringUp config comm)).mono ?_ ?_
    · rintro _ status past ⟨⟨_, up, _⟩, made⟩
      have first : (!(machine.mark comm (fit config comm)).status.ready) = true := by
        show (!machine.status.ready) = true
        rw [closed]
        rfl
      rw [if_pos first]
      -- All is up by now, and nothing undoes it where the kernels are refused.
      refine (ensures_adjustStack config comm).mono (fun _ _ _ _ => trivial) ?_
      rintro _ _ _ ⟨⟨rfl, _⟩, event, earlier, rfl, since, refused⟩
      obtain ⟨events, rfl, _⟩ := made
      refine .inr ⟨?_, event, earlier, rfl, (List.suffix_append events _).trans since, refused⟩
      show (config.enabled && status.ready) = true
      rw [enabled, up]
      rfl
    · rintro _ _ _ ⟨⟨_, same⟩, made⟩
      exact .inl ⟨same.trans closed, made⟩

end Machine

namespace Run

variable {run : Run} {number first last : Nat}

/-- The kernels of the device were refused during a turn. -/
def RefusesKernels (run : Run) (number : Nat) : Prop :=
  ∃ event ∈ run.between number (number + 1), event.refusesKernels = true

/-- A turn prepares a communicator, and succeeds or is refused the kernels. -/
def Raises (run : Run) (number : Nat) : Prop :=
  ∃ thread comm, run.turns[number]? = some ⟨thread, .join comm⟩ ∧
    ((∃ reply, (run.outcome (run.scene number) ⟨thread, .join comm⟩).result = .ok reply) ∨
      run.RefusesKernels number)

/-- How a turn fails that prepares a communicator while nothing is up. -/
theorem failed_first_join {thread : ThreadId} {comm : Communicator} {error : Error}
    (taken : run.turns[number]? = some ⟨thread, .join comm⟩)
    (closed : (run.status number).ready = false)
    (failed : (run.outcome (run.scene number) ⟨thread, .join comm⟩).result = .error error) :
    ((run.status (number + 1)).ready = false ∧ ¬ run.RefusesKernels number) ∨
    ((run.scene (number + 1)).machine.available run.config = true ∧
      run.RefusesKernels number) := by
  have ensured : (Machine.perform run.config thread (.join comm)).Ensures run.env
      (run.scene number).machine (run.history number) (fun _ _ _ => True)
      (fun _ after later =>
        (after.status.ready = false ∧ Only Event.provides (run.history number) later) ∨
        (after.available run.config = true ∧ KernelsRefused (run.history number) later)) := by
    simp only [Machine.perform, ensures_bind, ensures_pure]
    exact Machine.ensures_firstJoin run.config comm (run.settled number) closed
  rcases after_error ensured taken failed with
    ⟨down, events, grown, provided⟩ | ⟨up, event, earlier, grown, since, refused⟩
  · refine .inl ⟨down, ?_⟩
    rintro ⟨event, member, refused⟩
    rw [between_of_append grown] at member
    have provides := provided event member
    rw [Event.not_provides refused] at provides
    cases provides
  · exact .inr ⟨up, event, mem_between_of_latest grown since, refused⟩

/-- While nothing is up a turn launches nothing. -/
theorem launches_nothing (closed : (run.status number).ready = false) :
    ∀ event ∈ run.between number (number + 1), event.launches = false := by
  intro event member
  cases taken : run.turns[number]? with
  | none =>
      rw [@between_of_append run number (number + 1) [] (history_past_end taken)] at member
      cases member
  | some turn =>
      by_contra other
      have launches : event.launches = true := by simpa using other
      have executed : event ∈ run.executed number :=
        mem_executions_iff.mpr ⟨member, Event.executes_of_launches launches⟩
      have never := (course taken).launches_nothing closed event executed
      rw [launches] at never
      cases never

/-- Only a turn that raises brings something up. -/
theorem stays_down (closed : (run.status number).ready = false) (calm : ¬ run.Raises number) :
    (run.status (number + 1)).ready = false := by
  cases taken : run.turns[number]? with
  | none =>
      rw [status_past_end taken]
      exact closed
  | some turn =>
      by_contra other
      have up : (run.status (number + 1)).ready = true := by simpa using other
      obtain ⟨thread, command⟩ := turn
      obtain ⟨comm, same⟩ := (turned taken).raised closed up
      dsimp only at same
      subst same
      apply calm
      refine ⟨thread, comm, taken, ?_⟩
      cases result : (run.outcome (run.scene number) ⟨thread, .join comm⟩).result with
      | ok reply => exact .inl ⟨reply, rfl⟩
      | error error =>
          rcases failed_first_join taken closed result with ⟨down, _⟩ | ⟨_, refused⟩
          · rw [up] at down
            cases down
          · exact .inr refused

/-- Until a turn raises, nothing is up and nothing is launched. -/
theorem quiet_until_raised (closed : (run.status first).ready = false) (order : first ≤ last)
    (calm : ∀ number, first ≤ number → number < last → ¬ run.Raises number) :
    (run.status last).ready = false ∧ ∀ event ∈ run.between first last, event.launches = false := by
  induction last, order using Nat.le_induction with
  | base =>
      have between : run.between first first = [] := between_of_append rfl
      rw [between]
      exact ⟨closed, by simp⟩
  | succ number order ih =>
      obtain ⟨down, earlier⟩ := ih fun other above below =>
        calm other above (Nat.lt_succ_of_lt below)
      refine ⟨stays_down down (calm number order (Nat.lt_succ_self number)), ?_⟩
      rw [between_append order (Nat.le_succ number)]
      intro event member
      rcases List.mem_append.mp member with now | before
      · exact launches_nothing down event now
      · exact earlier event before

/-- A turn that prepares a communicator while nothing is up, and fails, leaves operations
available exactly if the kernels of the device were refused.  Otherwise it leaves nothing
up: nothing is loaded, held or listed, all that was taken was given back, and nothing is
available or launched until a later turn prepares a communicator and succeeds or is refused
the kernels. -/
theorem failed_join_undone {thread : ThreadId} {comm : Communicator} {error : Error}
    (taken : run.turns[number]? = some ⟨thread, .join comm⟩)
    (closed : (run.status number).ready = false)
    (failed : (run.outcome (run.scene number) ⟨thread, .join comm⟩).result = .error error) :
    ((run.scene (number + 1)).machine.available run.config = true ↔ run.RefusesKernels number) ∧
    (¬ run.RefusesKernels number →
      (run.status (number + 1)).Dormant ∧
      History.algorithms (run.history (number + 1)) = 0 ∧
      History.buffers (run.history (number + 1)) = 0 ∧
      ∀ last, number < last →
        (∀ other, number < other → other < last → ¬ run.Raises other) →
        (run.scene last).machine.available run.config = false ∧
        ∀ event ∈ run.between number last, event.launches = false) := by
  have unavailable {reached : Nat} (down : (run.status reached).ready = false) :
      (run.scene reached).machine.available run.config = false := by
    show (run.config.enabled && (run.status reached).ready) = false
    rw [down, Bool.and_false]
  rcases failed_first_join taken closed failed with ⟨down, accepted⟩ | ⟨up, refused⟩
  · refine ⟨?_, fun _ => ?_⟩
    · rw [unavailable down]
      simp [accepted]
    · have dormant := (run.settled (number + 1)).2 down
      have balanced := (run.accounted (number + 1)).balanced
      refine ⟨dormant, ?_, ?_, ?_⟩
      · rw [balanced.held_algorithms, dormant.algorithms]
      · rw [balanced.held_buffers, dormant.buffers]
      · intro last after calm
        -- The failed turn itself has raised nothing.
        have still (other : Nat) (above : number ≤ other) (below : other < last) :
            ¬ run.Raises other := by
          rcases Nat.eq_or_lt_of_le above with rfl | later
          · rintro ⟨_, _, again, ⟨reply, ended⟩ | refused⟩
            · rw [taken] at again
              cases again
              rw [failed] at ended
              cases ended
            · exact accepted refused
          · exact calm other later below
        obtain ⟨closedStill, nothing⟩ := quiet_until_raised closed (Nat.le_of_lt after) still
        exact ⟨unavailable closedStill, nothing⟩
  · exact ⟨⟨fun _ => refused, fun _ => up⟩, fun accepted => absurd refused accepted⟩

end Run

/-- The same environment, but that it refuses to prepare kernels. -/
def Environment.refusingKernels (env : Environment) : Environment :=
  { env with
    answer := fun
      | _, .initKernels _ => .error "no kernels"
      | history, call => env.answer history call }

namespace Sample

/-- A communicator is prepared where the kernels are refused, and an operation is
submitted. -/
def unprepared : Run :=
  let prepared := run .allReduce
    [⟨0, .join (comm 1 0)⟩, ⟨0, .submit allReduce (comm 1 0) ⟨0⟩⟩]
  { prepared with env := prepared.env.refusingKernels }

/-- The communicator is refused, and the operation is launched nevertheless. -/
theorem launched_unprepared :
    (unprepared.outcome (unprepared.scene 0) ⟨0, .join (comm 1 0)⟩).result =
      .error (.collaborator "no kernels") ∧
    (unprepared.scene 1).machine.available unprepared.config = true ∧
    ∃ event ∈ unprepared.between 1 2, event.launches = true := by
  have failed : (unprepared.outcome (unprepared.scene 0) ⟨0, .join (comm 1 0)⟩).result =
      .error (.collaborator "no kernels") := by decide +kernel
  have refused : unprepared.RefusesKernels 0 := by
    unfold Run.RefusesKernels
    decide +kernel
  have undone := @Run.failed_join_undone unprepared 0 _ _ _ rfl rfl failed
  refine ⟨failed, undone.1.mpr refused, ?_⟩
  decide +kernel

end Sample

end Collective
