import Collective.Proofs.Selection

/-!
# Operations outside groups

An operation that is submitted outside all groups is executed at once, whatever the other
threads have done before: it is launched on what the catalog chooses, and what the catalog
chooses is loaded; or it runs on its plain collective.  It fails only where a call fails
that its execution needs, and the error passes that on.
-/

namespace Collective

open Procedure History

namespace Thread

variable {env : Environment} {thread : Thread} {history : History}

/-- Where nothing is saved, one operation is run on its plain collective. -/
theorem ensures_fallBackAlone {pending : Pending} (empty : thread.saved = [])
    (able : pending.hasPlain = true) :
    (fallBack pending).Ensures env thread history
      (fun _ _ later => ∃ event, later = event :: history ∧ pending.FellBack true event)
      (fun error _ later => error.Blames history later) := by
  rw [ensures_congr (run_fallBack_alone empty pending), ensures_asCaller]
  refine (ensures_runPlain pending).mono ?_ ?_
  · rintro _ _ _ ⟨_, ran⟩
    exact ran
  · rintro _ _ _ ⟨_, ⟨absent, _⟩ | ⟨_, _, _, _, blames⟩⟩
    · rw [Pending.hasPlain, absent] at able
      cases able
    · exact blames

end Thread

namespace Status

variable {env : Environment} {status : Status} {history : History}

/-- What the catalog chooses is loaded. -/
theorem Chooses.holds {pending : Pending} {handle : Handle}
    (chooses : status.Chooses pending.request handle) (coherent : status.Coherent)
    (internal : status.isExternal = false) :
    status.Holds { pending with handle := some handle } := by
  obtain ⟨algorithm, selects⟩ := chooses.selects coherent internal
  exact ⟨handle, algorithm, rfl, selects.loaded⟩

/-- An operation is launched on what the catalog chooses. -/
theorem ensures_launchChosen {asCaller : Bool} {pending : Pending} {handle : Handle}
    (chooses : status.Chooses pending.request handle) (coherent : status.Coherent)
    (internal : status.isExternal = false) :
    (launch asCaller pending handle).Ensures env status history
      (fun _ _ later => ∃ event, Executes history [event] later ∧ pending.ExecutedBy event)
      (fun error _ later => error.Blames history later) := by
  let saved : SavedOperation := { pending with handle := some handle }
  refine (@ensures_launch env status history asCaller coherent saved handle rfl).mono ?_ ?_
  · intro _ after later launched
    obtain ⟨event, executed, launch, answer, same, request, comm, stream, _⟩ := launched.executed
    exact ⟨event, executed, .inl ⟨launch, answer, same, request, comm, stream⟩⟩
  · rintro _ _ _ ⟨_, _, _, _, _, _, blames⟩
    exact blames chooses.ready (chooses.holds coherent internal)

end Status

namespace Machine

variable {env : Environment} {machine : Machine} {history : History} {thread : ThreadId}

/-- An operation outside all groups is executed once, unless a call is refused. -/
theorem ensures_submitAlone (config : Config) {operation : Operation} {comm : Communicator}
    {stream : Stream} (coherent : machine.status.Coherent)
    (internal : machine.status.isExternal = false)
    (outside : (machine.threads thread).phase = .noGroup)
    (empty : (machine.threads thread).saved = [])
    (valid : (comm.request operation).validate = .ok ())
    (able : operation.plain?.isSome = true) :
    (submit config thread operation comm stream).Ensures env machine history
      (fun _ _ later => ∃ event, Executes history [event] later ∧
        Pending.ExecutedBy ⟨comm.request operation, comm, stream⟩ event)
      (fun error _ later => error.Blames history later) := by
  let pending : Pending := ⟨comm.request operation, comm, stream⟩
  unfold submit
  simp only [ensures_bind, ensures_ofExcept, valid, ensures_get, outside]
  refine (ensures_choose config pending).mono ?_ ?_
  · rintro chosen _ past ⟨⟨rfl, quiet⟩, chooses⟩
    cases chosen with
    | none =>
        unfold onThread
        rw [ensures_within]
        have able : pending.hasPlain = true := able
        refine (Thread.ensures_fallBackAlone empty able).mono ?_ ?_
        · rintro _ _ _ ⟨event, rfl, ran⟩
          obtain ⟨arguments, answer, found, rfl⟩ := ran
          exact ⟨_, quiet.executes.trans (.cons rfl past), .inr ⟨arguments, answer, found, rfl⟩⟩
        · exact fun _ _ _ blames => blames.since quiet.executes.suffix
    | some handle =>
        unfold onBehalf onStatus
        rw [ensures_bind, ensures_get, ensures_within]
        refine (Status.ensures_launchChosen (chooses handle rfl) coherent internal).mono ?_ ?_
        · rintro _ _ _ ⟨event, executed, ran⟩
          exact ⟨event, quiet.executes.trans executed, ran⟩
        · exact fun _ _ _ blames => blames.since quiet.executes.suffix
  · rintro _ _ _ ⟨_, foreign⟩
    rw [internal] at foreign
    cases foreign

end Machine

namespace Run

variable {run : Run} {number : Nat} {thread : ThreadId} {operation : Operation}
variable {comm : Communicator} {stream : Stream}

/-- Whatever all threads have done before: an operation with a plain collective that is
submitted outside all groups while the catalog decides succeeds and is executed exactly
once, with its own parameters, unless the runtime, the device or the plain collective
refuses a call meanwhile; and no other error comes out of it. -/
theorem submitted_alone (taken : run.turns[number]? = some ⟨thread, .submit operation comm stream⟩)
    (outside : (run.thread number thread).depth = 0)
    (internal : (run.status number).isExternal = false)
    (valid : (comm.request operation).validate = .ok ())
    (able : operation.plain?.isSome = true) :
    ((∀ event ∈ run.between number (number + 1), event.call.works = true →
        event.refused = false) →
      (run.outcome (run.scene number) ⟨thread, .submit operation comm stream⟩).result =
        .ok .done ∧
      ∃ event, run.executed number = [event] ∧
        Pending.ExecutedBy ⟨comm.request operation, comm, stream⟩ event) ∧
    ∀ error,
      (run.outcome (run.scene number) ⟨thread, .submit operation comm stream⟩).result =
        .error error →
      ∃ reason, error = .collaborator reason := by
  have consistent := (run.waits number thread).consistent
  have phase := consistent.phase.mp outside
  have ensured : (Machine.perform run.config thread (.submit operation comm stream)).Ensures
      run.env (run.scene number).machine (run.history number)
      (fun reply _ later => reply = .done ∧ ∃ event, Executes (run.history number) [event] later ∧
        Pending.ExecutedBy ⟨comm.request operation, comm, stream⟩ event)
      (fun error _ later => error.Blames (run.history number) later) := by
    simp only [Machine.perform, ensures_bind, ensures_pure]
    refine (Machine.ensures_submitAlone run.config (run.settled number).1 internal phase
      (consistent.empty (by simp [phase])) valid able).mono ?_ ?_
    · exact fun _ _ _ executed => ⟨trivial, executed⟩
    · exact fun _ _ _ blames => blames
  constructor
  · intro accepted
    cases result : (run.outcome (run.scene number)
        ⟨thread, .submit operation comm stream⟩).result with
    | ok reply =>
        obtain ⟨rfl, event, executed, ran⟩ := after_reply ensured taken result
        exact ⟨rfl, event, executed_of_executes executed, ran⟩
    | error error =>
        obtain ⟨_, event, earlier, grown, since, works, refused⟩ := after_error ensured taken result
        have meanwhile := mem_between_of_latest grown since
        rw [accepted event meanwhile works] at refused
        cases refused
  · intro error failed
    exact (after_error ensured taken failed).reason

end Run

namespace Sample

/-- A communicator joins and another thread shuts down before an operation on the
communicator is submitted. -/
def raced : Run := run .allReduce [⟨0, .join (comm 1 0)⟩, ⟨1, .shutDown⟩,
  ⟨0, .submit allReduce (comm 1 0) ⟨0⟩⟩]

/-- The operation is executed nevertheless. -/
theorem executed_when_raced :
    (raced.outcome (raced.scene 2) ⟨0, .submit allReduce (comm 1 0) ⟨0⟩⟩).result = .ok .done ∧
      ∃ event, raced.executed 2 = [event] ∧
        Pending.ExecutedBy ⟨(comm 1 0).request allReduce, comm 1 0, ⟨0⟩⟩ event := by
  have outside : (raced.thread 2 0).depth = 0 := by decide +kernel
  have internal : (raced.status 2).isExternal = false := by decide +kernel
  have accepted : ∀ event ∈ raced.between 2 3, event.call.works = true →
      event.refused = false := by decide +kernel
  exact (Run.submitted_alone rfl outside internal (by decide) (by decide)).1 accepted

end Sample

end Collective
