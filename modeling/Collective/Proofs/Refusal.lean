import Collective.Proofs.Narrowing
import Collective.Proofs.Selection

/-!
# Submissions that are turned away

A submission can be turned away before anything is executed for it: its request is not valid, an
external scheduler cannot be asked or answers with a fault, or it names an empty slot for an
operation outside all groups.  All that has happened then is that an external scheduler may have
been asked.  No other error of a submission is of this kind.
-/

namespace Collective

open Procedure History

/-- An error of a submission for which nothing is executed. -/
def Error.rejects : Error → Bool
  | .misuse (.shortCounts _ _ _) | .misuse (.fieldTooLarge _ _) | .misuse (.notLoaded _) => true
  | .externalFailed .select _ => true
  | _ => false

/-- An error of an operation that could not be executed: it has no plain collective, or a
collaborator refused. -/
def Error.Withheld (error : Error) : Prop :=
  (∃ kind, error = .noPlainCollective kind) ∨ ∃ reason, error = .collaborator reason

theorem Error.Withheld.not_rejects {error : Error} (withheld : error.Withheld) :
    error.rejects = false := by
  rcases withheld with ⟨kind, rfl⟩ | ⟨reason, rfl⟩ <;> rfl

namespace Request

variable {request : Request}

theorem validate_eq_error_iff {error : Error} :
    request.validate = .error error ↔
      ∃ fault, request.fault? = some fault ∧ error = .misuse fault := by
  unfold validate
  cases request.fault? with
  | none => simp
  | some fault => simp [eq_comm]

theorem rejects_of_fault? {fault : Misuse} (found : request.fault? = some fault) :
    (Error.misuse fault).rejects = true := by
  unfold fault? at found
  split at found
  next =>
    split at found
    · cases found
      rfl
    · cases found
  next => cases found

theorem rejects_of_block {error : Error} (large : request.block = .error error) :
    error.rejects = true := by
  obtain ⟨field, value, -, rfl⟩ := block_eq_error_iff.mp large
  rfl

end Request

/-! ## External schedulers -/

namespace External

variable {S : Type} {env : Environment} {state : S} {history later : History}
variable {scheduler : External} {asCaller : Bool} {request : Request}

/-- How an external scheduler answers to a request of a thread with or without the mark, and the
calls until then. -/
inductive Answers (scheduler : External) (env : Environment) (history : History) (asCaller : Bool)
    (request : Request) : Except Error (Option Handle) → History → Prop where
  | oversized {error : Error} : request.block = .error error →
      Answers scheduler env history asCaller request (.error error) history
  | refused {block : Block} {verdict : Verdict} : request.block = .ok block →
      env.answer history (.selectExternal scheduler block asCaller) = verdict →
      verdict.code ≠ 0 →
      Answers scheduler env history asCaller request
        (.error (.externalFailed .select verdict.code))
        (⟨.selectExternal scheduler block asCaller, verdict⟩ :: history)
  | told {block : Block} {verdict : Verdict} : request.block = .ok block →
      env.answer history (.selectExternal scheduler block asCaller) = verdict →
      verdict.code = 0 →
      Answers scheduler env history asCaller request (.ok verdict.handle?)
        (⟨.selectExternal scheduler block asCaller, verdict⟩ :: history)

theorem ensures_answers (scheduler : External) (asCaller : Bool) (request : Request) :
    (scheduler.select asCaller request).Ensures env state history
      (fun chosen after later => after = state ∧
        scheduler.Answers env history asCaller request (.ok chosen) later)
      (fun error after later => after = state ∧
        scheduler.Answers env history asCaller request (.error error) later) := by
  unfold select checked
  simp only [ensures_bind, ensures_ofExcept, ensures_ask, ensures_ite, ensures_pure,
    ensures_throw]
  cases made : request.block with
  | error error => exact ⟨trivial, .oversized made⟩
  | ok block =>
      dsimp only
      split
      next accepted => exact ⟨trivial, .told made rfl accepted⟩
      next faulty => exact ⟨trivial, .refused made rfl faulty⟩

/-- An external scheduler that fails to answer does so in one way. -/
theorem Answers.ensures_error {error : Error}
    (answers : scheduler.Answers env history asCaller request (.error error) later) :
    (scheduler.select asCaller request).Ensures env state history (fun _ _ _ => False)
      (fun other after past => other = error ∧ after = state ∧ past = later) := by
  unfold select checked
  simp only [ensures_bind, ensures_ofExcept, ensures_ask, ensures_ite, ensures_pure,
    ensures_throw]
  cases answers with
  | oversized large => simp [large]
  | refused made answered faulty => simp [made, answered, faulty]

/-- An external scheduler that answers does so in one way. -/
theorem Answers.ensures_ok {chosen : Option Handle}
    (answers : scheduler.Answers env history asCaller request (.ok chosen) later) :
    (scheduler.select asCaller request).Ensures env state history
      (fun other after past => other = chosen ∧ after = state ∧ past = later)
      (fun _ _ _ => False) := by
  unfold select checked
  simp only [ensures_bind, ensures_ofExcept, ensures_ask, ensures_ite, ensures_pure,
    ensures_throw]
  cases answers with
  | told made answered accepted => simp [made, answered, accepted]

theorem Answers.rejects {error : Error}
    (answers : scheduler.Answers env history asCaller request (.error error) later) :
    error.rejects = true := by
  cases answers with
  | oversized large => exact Request.rejects_of_block large
  | refused => rfl

/-- An external scheduler is asked once at most. -/
theorem Answers.asked {result : Except Error (Option Handle)}
    (answers : scheduler.Answers env history asCaller request result later) :
    later = history ∨ ∃ scheduler block verdict,
      later = ⟨.selectExternal scheduler block asCaller, verdict⟩ :: history := by
  cases answers with
  | oversized => exact .inl rfl
  | refused | told => exact .inr ⟨_, _, _, rfl⟩

end External

/-! ## Operations that cannot be executed -/

namespace Thread

variable {env : Environment} {thread : Thread} {history : History}

theorem ensures_runPlain_withheld (pending : Pending) :
    (runPlain pending).Ensures env thread history (fun _ _ _ => True)
      (fun error _ _ => error.Withheld) := by
  unfold runPlain
  dsimp only
  cases pending.request.operation.plain? with
  | none => exact .inl ⟨_, rfl⟩
  | some arguments =>
      rw [ensures_bind, ensures_get, ensures_bind, ensures_ask, ensures_accepted]
      generalize env.answer history _ = answer
      cases answer with
      | ok => trivial
      | error reason => exact .inr ⟨reason, rfl⟩

theorem ensures_runEachPlain_withheld (items : List Pending) :
    (runEachPlain items).Ensures env thread history (fun _ _ _ => True)
      (fun error _ _ => error.Withheld) := by
  induction items generalizing thread history with
  | nil => trivial
  | cons pending others ih =>
      unfold runEachPlain
      rw [ensures_bind]
      exact (ensures_runPlain_withheld pending).mono (fun _ _ _ _ => ih)
        (fun _ _ _ withheld => withheld)

/-- To fall back fails only for want of a plain collective or where one is refused. -/
theorem ensures_fallBack_withheld (pending : Pending) :
    (fallBack pending).Ensures env thread history (fun _ _ _ => True)
      (fun error _ _ => error.Withheld) := by
  unfold fallBack takeSaved
  simp only [ensures_bind, ensures_get, ensures_set, ensures_pure, ensures_asCaller]
  exact ensures_runEachPlain_withheld _

end Thread

/-- A launch fails only where its slot is empty or a collaborator refuses, if launches are
possible. -/
theorem Status.ensures_launch_withheld {env : Environment} {status : Status} {history : History}
    {asCaller : Bool} (coherent : status.Coherent) (ready : status.ready = true) (pending : Pending)
    (handle : Handle) :
    (launch asCaller pending handle).Ensures env status history (fun _ _ _ => True)
      (fun error after later => error.Withheld ∨ status.store.loaded.get? handle = none ∧
        error = .misuse (.notLoaded handle) ∧ after = status ∧ later = history) := by
  cases loaded : status.store.loaded.get? handle with
  | none =>
      unfold launch
      simp [ready, loaded]
  | some algorithm =>
      let saved : SavedOperation := { pending with handle := some handle }
      refine (ensures_launch coherent saved rfl).mono (fun _ _ _ _ => trivial) ?_
      rintro error _ _ ⟨-, -, -, _, -, -, blames⟩
      exact .inl (.inr (blames ready ⟨handle, algorithm, rfl, loaded⟩).reason)

/-- The catalog chooses no empty slot. -/
theorem Status.Chooses.foreign {status : Status} {request : Request} {handle : Handle}
    (chooses : status.Chooses request handle) (coherent : status.Coherent)
    (empty : status.store.loaded.get? handle = none) : status.isExternal = true := by
  by_contra internal
  obtain ⟨algorithm, selects⟩ := chooses.selects coherent (by simpa using internal)
  rw [selects.loaded] at empty
  cases empty

/-! ## Submissions -/

namespace Machine

variable {env : Environment} {config : Config} {machine : Machine} {history later : History}
variable {thread : ThreadId} {operation : Operation} {comm : Communicator} {stream : Stream}
variable {pending : Pending} {scheduler : External} {error : Error}

/-- An external scheduler is asked about what a thread submits for a communicator. -/
structure Consults (machine : Machine) (config : Config) (thread : ThreadId)
    (comm : Communicator) (scheduler : External) : Prop where
  phase : (machine.threads thread).phase ≠ .fallingBack
  fit : machine.compatible comm = true
  available : machine.available config = true
  decides : machine.status.selector = some (.external scheduler)

theorem Consults.ready (consults : machine.Consults config thread comm scheduler) :
    machine.status.ready = true := by
  have available := consults.available
  unfold Machine.available at available
  rw [Bool.and_eq_true] at available
  exact available.2

/-- What turns a submission away: a fault in the request, an external scheduler that cannot be asked
or fails to answer, and outside all groups an empty slot that it names. -/
inductive Rejects (machine : Machine) (config : Config) (env : Environment) (history : History)
    (thread : ThreadId) (pending : Pending) : Error → History → Prop where
  | invalid {fault : Misuse} : pending.request.fault? = some fault →
      Rejects machine config env history thread pending (.misuse fault) history
  | unanswered {scheduler : External} {error : Error} {later : History} : pending.Valid →
      machine.Consults config thread pending.comm scheduler →
      scheduler.Answers env history (machine.threads thread).isCaller pending.request
        (.error error) later →
      Rejects machine config env history thread pending error later
  | unloaded {scheduler : External} {handle : Handle} {later : History} : pending.Valid →
      machine.Consults config thread pending.comm scheduler →
      (machine.threads thread).phase = .noGroup →
      scheduler.Answers env history (machine.threads thread).isCaller pending.request
        (.ok (some handle)) later →
      machine.status.store.loaded.get? handle = none →
      Rejects machine config env history thread pending (.misuse (.notLoaded handle)) later

theorem Rejects.rejects
    (rejected : machine.Rejects config env history thread pending error later) :
    error.rejects = true := by
  cases rejected with
  | invalid found => exact Request.rejects_of_fault? found
  | unanswered _ _ answers => exact answers.rejects
  | unloaded => rfl

/-- All that is done for a submission that is turned away is to ask an external scheduler. -/
theorem Rejects.asked
    (rejected : machine.Rejects config env history thread pending error later) :
    later = history ∨ ∃ scheduler block verdict,
      later = ⟨.selectExternal scheduler block (machine.threads thread).isCaller, verdict⟩ ::
        history := by
  cases rejected with
  | invalid => exact .inl rfl
  | unanswered _ _ answers | unloaded _ _ _ answers => exact answers.asked

/-- Where an external scheduler is asked, its answer is the choice. -/
theorem Consults.ensures_choose
    (consults : machine.Consults config thread pending.comm scheduler)
    {good : Option Handle → Machine → History → Prop} {bad : Error → Machine → History → Prop} :
    (choose config thread pending).Ensures env machine history good bad ↔
      (scheduler.select (machine.threads thread).isCaller pending.request).Ensures env
        machine.status history
        (fun chosen status => good chosen { machine with status })
        (fun error status => bad error { machine with status }) := by
  unfold choose onBehalf onStatus Status.select
  simp only [ensures_bind, ensures_get, ensures_ite, ensures_within, consults.fit,
    consults.available, consults.decides, Bool.and_self, if_true]

/-- A choice is the slot that an external scheduler answers with, if one decides, and fails only
where that fails to answer. -/
theorem ensures_consulted (config : Config) (pending : Pending)
    (phase : (machine.threads thread).phase ≠ .fallingBack) :
    (choose config thread pending).Ensures env machine history
      (fun chosen _ later => machine.status.isExternal = true → ∀ handle, chosen = some handle →
        ∃ scheduler, machine.Consults config thread pending.comm scheduler ∧
          scheduler.Answers env history (machine.threads thread).isCaller pending.request
            (.ok (some handle)) later)
      (fun error _ later => ∃ scheduler,
        machine.Consults config thread pending.comm scheduler ∧
          scheduler.Answers env history (machine.threads thread).isCaller pending.request
            (.error error) later) := by
  by_cases consulted : ∃ scheduler, machine.Consults config thread pending.comm scheduler
  · obtain ⟨scheduler, consults⟩ := consulted
    rw [consults.ensures_choose]
    refine (scheduler.ensures_answers _ pending.request).mono ?_ ?_
    · rintro _ _ _ ⟨-, answers⟩ - handle rfl
      exact ⟨scheduler, consults, answers⟩
    · rintro _ _ _ ⟨-, answers⟩
      exact ⟨scheduler, consults, answers⟩
  · unfold choose
    simp only [ensures_bind, ensures_get, ensures_ite, ensures_pure]
    split
    next open_ =>
      simp only [Bool.and_eq_true] at open_
      have internal : machine.status.isExternal = false := by
        unfold Status.isExternal
        split
        next scheduler decides =>
          exact absurd ⟨scheduler, phase, open_.1, open_.2, decides⟩ consulted
        next => rfl
      unfold onBehalf onStatus
      rw [ensures_bind, ensures_get, ensures_within]
      refine (Status.ensures_selectSlot pending.request).mono ?_ ?_
      · intro _ _ _ _ foreign
        exact absurd (internal.symm.trans foreign) Bool.false_ne_true
      · rintro _ _ _ ⟨-, foreign⟩
        exact absurd (internal.symm.trans foreign) Bool.false_ne_true
    next => simp

/-- A submission that is turned away ends so, with nothing changed. -/
theorem Rejects.ensures_submit
    (rejected : machine.Rejects config env history thread
      { request := comm.request operation, comm, stream } error later) :
    (submit config thread operation comm stream).Ensures env machine history
      (fun _ _ _ => False)
      (fun other after past => other = error ∧ after = machine ∧ past = later) := by
  unfold submit
  rw [ensures_bind, ensures_ofExcept]
  cases rejected with
  | invalid found =>
      rw [Request.validate_eq_error_iff.mpr ⟨_, found, rfl⟩]
      exact ⟨rfl, rfl, rfl⟩
  | @unanswered scheduler _ _ valid consults answers =>
      have unanswered {next : Option Handle → Procedure Machine Unit} :
          (choose config thread { request := comm.request operation, comm, stream } >>=
            next).Ensures env machine history (fun _ _ _ => False)
            (fun other after past => other = error ∧ after = machine ∧ past = later) := by
        rw [ensures_bind, consults.ensures_choose]
        refine answers.ensures_error.mono (fun _ _ _ never => never.elim) ?_
        rintro _ _ _ ⟨rfl, rfl, rfl⟩
        exact ⟨rfl, rfl, rfl⟩
      rw [valid]
      simp only [ensures_bind, ensures_get]
      cases phase : (machine.threads thread).phase with
      | noGroup | scheduling => exact unanswered
      | fallingBack => exact absurd phase consults.phase
  | @unloaded scheduler handle _ valid consults phase answers empty =>
      rw [valid]
      simp only [ensures_bind, ensures_get, phase]
      rw [consults.ensures_choose]
      refine answers.ensures_ok.mono ?_ (fun _ _ _ never => never.elim)
      rintro _ _ _ ⟨rfl, rfl, rfl⟩
      unfold onBehalf onStatus Status.launch
      simp [consults.ready, empty]

/-- Every error of a submission turns it away, with nothing changed, or is that of an operation that
could not be executed. -/
theorem ensures_turnedAway (config : Config) (operation : Operation) (comm : Communicator)
    (stream : Stream) (settled : machine.status.Settled) :
    (submit config thread operation comm stream).Ensures env machine history
      (fun _ _ _ => True)
      (fun error after later => error.Withheld ∨ after = machine ∧
        machine.Rejects config env history thread
          { request := comm.request operation, comm, stream } error later) := by
  unfold submit
  rw [ensures_bind, ensures_ofExcept]
  let pending : Pending := { request := comm.request operation, comm, stream }
  have falls {machine : Machine} {history : History} {post : Error → Machine → History → Prop} :
      (onThread thread (Thread.fallBack pending)).Ensures env machine history
        (fun _ _ _ => True) (fun error after later => error.Withheld ∨ post error after later) := by
    unfold onThread
    rw [ensures_within]
    exact (Thread.ensures_fallBack_withheld pending).mono (fun _ _ _ _ => trivial)
      (fun _ _ _ withheld => .inl withheld)
  -- Outside groups that fall back, a choice goes on with what was chosen, or it turns away.
  have chooses (valid : pending.Valid) (phase : (machine.threads thread).phase ≠ .fallingBack)
      {next : Option Handle → Procedure Machine Unit}
      (rest : ∀ chosen later,
        (∀ handle, chosen = some handle → machine.status.Chooses pending.request handle) →
        (machine.status.isExternal = true → ∀ handle, chosen = some handle →
          ∃ scheduler, machine.Consults config thread pending.comm scheduler ∧
            scheduler.Answers env history (machine.threads thread).isCaller pending.request
              (.ok (some handle)) later) →
        (next chosen).Ensures env machine later (fun _ _ _ => True)
          (fun error after later => error.Withheld ∨ after = machine ∧
            machine.Rejects config env history thread pending error later)) :
      (choose config thread pending >>= next).Ensures env machine history (fun _ _ _ => True)
        (fun error after later => error.Withheld ∨ after = machine ∧
          machine.Rejects config env history thread pending error later) := by
    rw [ensures_bind]
    refine ((ensures_choose config pending).and
      (ensures_consulted config pending phase)).mono ?_ ?_
    · rintro chosen _ later ⟨⟨⟨rfl, -⟩, choice⟩, answered⟩
      exact rest chosen later choice answered
    · rintro error _ later ⟨⟨⟨rfl, -⟩, -⟩, scheduler, consults, answers⟩
      exact .inr ⟨rfl, .unanswered valid consults answers⟩
  cases validated : (comm.request operation).validate with
  | error error =>
      obtain ⟨fault, found, rfl⟩ := Request.validate_eq_error_iff.mp validated
      exact .inr ⟨rfl, .invalid found⟩
  | ok =>
      rw [ensures_bind, ensures_get]
      cases phase : (machine.threads thread).phase with
      | noGroup =>
          refine chooses validated (by simp [phase]) fun chosen later choice answered => ?_
          cases chosen with
          | none => exact falls
          | some handle =>
              have chosen := choice handle rfl
              unfold onBehalf onStatus
              rw [ensures_bind, ensures_get, ensures_within]
              refine (Status.ensures_launch_withheld settled.1 chosen.ready pending handle).mono
                (fun _ _ _ _ => trivial) ?_
              rintro error _ _ (withheld | ⟨empty, rfl, rfl, rfl⟩)
              · exact .inl withheld
              · have foreign := chosen.foreign settled.1 empty
                obtain ⟨scheduler, consults, answers⟩ := answered foreign handle rfl
                exact .inr ⟨rfl, .unloaded validated consults phase answers empty⟩
      | scheduling =>
          refine chooses validated (by simp [phase]) fun chosen later _ _ => ?_
          cases chosen with
          | none =>
              rw [ensures_bind]
              unfold onThread
              rw [ensures_within, ensures_modify]
              exact falls
          | some handle =>
              unfold onThread
              rw [ensures_within, ensures_modify]
              trivial
      | fallingBack => exact falls

end Machine

namespace Run

/-- In every scene of a run and whatever group is open, a submission is turned away for the causes
of `Machine.Rejects` and for no other, and by one of them exactly if its error says so.  Then
nothing at all has changed, in the thread, in the other threads and in what they share, and nothing
was called but perhaps an external scheduler to select.  All other errors are about operations that
have no plain collective or that a collaborator refuses. -/
theorem turned_away_unchanged (run : Run) (number : Nat) (thread : ThreadId)
    (operation : Operation) (comm : Communicator) (stream : Stream) :
    let before := run.scene number
    let ended := run.outcome before ⟨thread, .submit operation comm stream⟩
    let rejects := before.machine.Rejects run.config run.env before.history thread
      { request := comm.request operation, comm, stream }
    ∀ error,
      (ended.result = .error error ∧ error.rejects = true ↔ ∃ later, rejects error later) ∧
      (ended.result = .error error → error.rejects = true ∨ error.Withheld) ∧
      (ended.result = .error error → error.rejects = true →
        ended.state = before.machine ∧
        (ended.history = before.history ∨ ∃ scheduler block verdict,
          ended.history =
            ⟨.selectExternal scheduler block (before.machine.threads thread).isCaller, verdict⟩ ::
              before.history)) := by
  intro before ended rejects error
  have turnedAway : (Machine.perform run.config thread
      (.submit operation comm stream)).Ensures run.env before.machine before.history
        (fun _ _ _ => True)
        (fun error after later => error.Withheld ∨ after = before.machine ∧
          before.machine.Rejects run.config run.env before.history thread
            { request := comm.request operation, comm, stream } error later) := by
    unfold Machine.perform
    rw [ensures_bind]
    exact Machine.ensures_turnedAway run.config operation comm stream (run.settled number)
  have ends {later : History} (rejected : rejects error later) :
      ended = ⟨.error error, before.machine, later⟩ := by
    apply Ensures.run_eq_error
    unfold Machine.perform
    rw [ensures_bind]
    exact rejected.ensures_submit.mono (fun _ _ _ never => never.elim) fun _ _ _ same => same
  refine ⟨⟨?_, ?_⟩, ?_, ?_⟩
  · rintro ⟨failed, kind⟩
    rcases turnedAway.failure failed with withheld | ⟨-, rejected⟩
    · rw [withheld.not_rejects] at kind
      cases kind
    · exact ⟨_, rejected⟩
  · rintro ⟨later, rejected⟩
    exact ⟨by rw [ends rejected], rejected.rejects⟩
  · intro failed
    rcases turnedAway.failure failed with withheld | ⟨-, rejected⟩
    · exact .inr withheld
    · exact .inl rejected.rejects
  · intro failed kind
    rcases turnedAway.failure failed with withheld | ⟨same, rejected⟩
    · rw [withheld.not_rejects] at kind
      cases kind
    · exact ⟨same, rejected.asked⟩

end Run

namespace Sample

/-- An external scheduler is installed that puts every operation on one slot, which is empty. -/
def misled : Run where
  config := {}
  env := .inOrder fun
    | _, .selectExternal _ _ _ => { scheduled := true, handle := 5 }
    | history, call => (Environment.obliging (algorithm .allReduce)).answer history call
  turns := [⟨0, .install 0⟩, ⟨0, .join (comm 1 0)⟩]

/-- An operation is turned away, for which the external scheduler was asked only. -/
theorem misled_unchanged :
    let ended := misled.outcome (misled.scene 2) ⟨0, .submit allReduce (comm 1 0) ⟨0⟩⟩
    ended.result = .error (.misuse (.notLoaded ⟨5⟩)) ∧ ended.state = (misled.scene 2).machine := by
  intro ended
  have failed : ended.result = .error (.misuse (.notLoaded ⟨5⟩)) := by decide +kernel
  obtain ⟨-, -, unchanged⟩ := Run.turned_away_unchanged misled 2 0 allReduce (comm 1 0) ⟨0⟩
    (.misuse (.notLoaded ⟨5⟩))
  exact ⟨failed, (unchanged failed rfl).1⟩

end Sample

end Collective
