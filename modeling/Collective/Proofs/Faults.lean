import Collective.Proofs.Refusal
import Collective.Proofs.ShutDown

/-!
# Errors that a call can end with

`Procedure.Fails` bounds the errors with which a procedure can end, in every environment and from
every state.  That a saved operation has no slot is said by the launches of saved operations alone,
and only where one has none, so no other command ends with this error.
-/

namespace Collective

open Procedure History

/-- An error other than that a saved operation has no slot. -/
def Error.ordinary : Error → Bool
  | .misuse .savedWithoutHandle => false
  | _ => true

namespace Error

variable {error : Error}

theorem ordinary_iff : error.ordinary = true ↔ error ≠ .misuse .savedWithoutHandle := by
  cases error with
  | misuse cause => cases cause <;> simp [ordinary]
  | _ => simp [ordinary]

theorem Withheld.ordinary (withheld : error.Withheld) : error.ordinary = true := by
  rcases withheld with ⟨kind, rfl⟩ | ⟨reason, rfl⟩ <;> rfl

/-- A submission is turned away for ordinary errors only. -/
theorem ordinary_of_rejects (turnedAway : error.rejects = true) : error.ordinary = true := by
  apply ordinary_iff.mpr
  rintro rfl
  cases turnedAway

end Error

/-- What goes wrong while things are given back is ordinary. -/
theorem History.ordinary_of_verdict {events : List Event} {error : Error}
    (failed : verdict events = .error error) : error.ordinary = true := by
  unfold verdict at failed
  cases first : events.findSome? Event.fault? with
  | none =>
      rw [first] at failed
      cases failed
  | some fault =>
      rw [first] at failed
      cases failed
      obtain ⟨⟨call, answer⟩, -, found⟩ := List.exists_of_findSome?_eq_some first
      unfold Event.fault? at found
      split at found
      · cases found
        rfl
      · cases found
        rfl
      · split at found
        · cases found
        · cases found
          rfl
      · cases found

namespace Procedure

variable {S T α β : Type} {kind : Error → Bool}

/-- However a procedure ends, an error that it ends with is of one kind. -/
def Fails (kind : Error → Bool) (procedure : Procedure S α) : Prop :=
  ∀ env state history, procedure.Ensures env state history (fun _ _ _ => True)
    (fun error _ _ => kind error = true)

namespace Fails

protected theorem pure (value : α) : (pure value : Procedure S α).Fails kind :=
  fun _ _ _ => trivial

protected theorem throw {error : Error} (right : kind error = true) :
    (throw error : Procedure S α).Fails kind :=
  fun _ _ _ => right

protected theorem get : (get : Procedure S S).Fails kind := fun _ _ _ => trivial

protected theorem set (new : S) : (set new : Procedure S PUnit).Fails kind :=
  fun _ _ _ => trivial

protected theorem modify (change : S → S) : (modify change : Procedure S PUnit).Fails kind :=
  fun _ _ _ => trivial

theorem executableDirectory : (executableDirectory : Procedure S (Option Path)).Fails kind :=
  fun _ _ _ => trivial

theorem ask (call : Call) : @Fails S (no_index call.Answer) kind (Procedure.ask call) :=
  fun _ _ _ => trivial

theorem accepted (right : ∀ reason, kind (.collaborator reason) = true) (answer : Fallible α) :
    (accepted answer : Procedure S α).Fails kind := by
  cases answer with
  | ok value => exact .pure value
  | error reason => exact .throw (right reason)

protected theorem ofExcept {result : Except Error α}
    (right : ∀ error, result = .error error → kind error = true) :
    (Procedure.ofExcept result : Procedure S α).Fails kind := by
  cases result with
  | ok value => exact .pure value
  | error error => exact .throw (right error rfl)

theorem bind {first : Procedure S α} {next : α → Procedure S β} (before : first.Fails kind)
    (after : ∀ value, (next value).Fails kind) : (first >>= next).Fails kind := by
  intro env state history
  rw [ensures_bind]
  apply (before env state history).mono
  · exact fun value middle past _ => after value env middle past
  · exact fun _ _ _ right => right

theorem tryCatch {first : Procedure S α} {next : Error → Procedure S α}
    (before : first.Fails kind) (after : ∀ error, kind error = true → (next error).Fails kind) :
    (MonadExcept.tryCatch first next).Fails kind := by
  intro env state history
  rw [ensures_tryCatch]
  apply (before env state history).mono
  · exact fun _ _ _ _ => trivial
  · exact fun error middle past right => after error right env middle past

/-- What is attempted does not fail. -/
theorem attempt (procedure : Procedure S α) : procedure.attempt.Fails kind := by
  intro env state history
  apply Ensures.attempt
  exact Keeps.always True procedure env state history trivial

theorem within {part : S → T} {replace : S → T → S} {procedure : Procedure T α}
    (fails : procedure.Fails kind) : (within part replace procedure).Fails kind := by
  intro env state history
  rw [ensures_within]
  exact fails env (part state) history

end Fails

end Procedure

/-! ## Where all errors are ordinary -/

namespace External

variable {S : Type}

theorem fails_checked (step : ExternalStep) (code : Int32) :
    (checked step code : Procedure S Unit).Fails Error.ordinary := by
  unfold checked
  split
  · exact .pure _
  · exact .throw rfl

theorem fails_start (scheduler : External) :
    (scheduler.start : Procedure S Unit).Fails Error.ordinary :=
  .bind (.ask _) fun code => fails_checked .start code

theorem fails_stop (scheduler : External) :
    (scheduler.stop : Procedure S Unit).Fails Error.ordinary :=
  .bind (.ask _) fun code => fails_checked .shutdown code

theorem fails_select (scheduler : External) {asCaller : Bool} (request : Request) :
    (scheduler.select asCaller request : Procedure S _).Fails Error.ordinary := by
  intro env state history
  apply (scheduler.ensures_answers asCaller request).mono
  · exact fun _ _ _ _ => trivial
  · exact fun _ _ _ answered => Error.ordinary_of_rejects answered.2.rejects

end External

theorem Selector.fails_discover {S : Type} (config : Config) :
    (Selector.discover config : Procedure S Selector).Fails Error.ordinary := by
  refine .bind (.ask _) fun opens => ?_
  split
  · exact .bind (External.fails_start _) fun _ => .pure _
  · exact .pure _

namespace Catalog

variable {S : Type}

theorem fails_firstOpen (directories : List Path) :
    (firstOpen directories : Procedure S _).Fails Error.ordinary := by
  induction directories with
  | nil => exact .pure _
  | cons directory others ih =>
      refine .bind (.ask _) fun opens => ?_
      split
      · exact .pure _
      · exact ih

theorem fails_filesIn (directory : Path) :
    (filesIn directory : Procedure S _).Fails Error.ordinary := by
  refine .bind (.ask _) fun listed => ?_
  cases listed with
  | ok entries => exact .pure _
  | error reason => exact .throw rfl

theorem fails_parseAll (files : List Path) :
    (parseAll files : Procedure S _).Fails Error.ordinary := by
  induction files with
  | nil => exact .pure _
  | cons file others ih =>
      refine .bind (.ask _) fun parsed => ?_
      cases parsed with
      | ok algorithm => exact .bind ih fun _ => .pure _
      | error reason => exact .throw rfl

theorem fails_discover (config : Config) : (discover config).Fails Error.ordinary := by
  refine .bind .get fun catalog => ?_
  split
  · exact .pure _
  · refine .bind .executableDirectory fun directory => ?_
    refine .bind (fails_firstOpen _) fun found => ?_
    split
    · exact .throw rfl
    · exact .bind (fails_filesIn _) fun files => .bind (fails_parseAll files) fun _ => .set _

end Catalog

namespace Store

theorem fails_takeSlot : takeSlot.Fails Error.ordinary := by
  refine .bind .get fun store => ?_
  split
  · exact .throw rfl
  · exact .bind (.modify _) fun _ => .pure _

theorem fails_provideImage (handle : Handle) (algorithm : Instance) :
    (provideImage handle algorithm).Fails Error.ordinary := by
  unfold provideImage
  split
  · exact .pure _
  · refine .bind (.ask _) fun allocated => ?_
    cases allocated with
    | ok image => exact .modify _
    | error reason => exact .bind (.modify _) fun _ => .bind (.ask _) fun _ => .throw rfl

theorem fails_load (file : Path) (rank : UInt64) : (load file rank).Fails Error.ordinary := by
  refine .bind fails_takeSlot fun handle => ?_
  refine .bind (.ask _) fun loaded => ?_
  cases loaded with
  | error reason => exact .bind (.modify _) fun _ => .throw rfl
  | ok report =>
      refine .bind (fails_provideImage _ _) fun _ => ?_
      exact .bind (.modify _) fun _ => .pure _

theorem fails_connect (handle : Handle) (comm : Communicator) :
    (connect handle comm).Fails Error.ordinary := by
  refine .bind .get fun store => ?_
  split
  · exact .pure _
  · split
    · exact .throw rfl
    · refine .bind (.ask _) fun answer => ?_
      exact .bind (.accepted (fun _ => rfl) answer) fun _ => .modify _

theorem fails_assign (index : Nat) (algorithm : Metadata) (rank : UInt64) :
    (assign index algorithm rank).Fails Error.ordinary := by
  refine .bind .get fun store => ?_
  split
  · exact .pure _
  · refine .bind (fails_load _ _) fun handle => ?_
    exact .bind (.modify _) fun _ => .pure _

theorem fails_prepareFrom (comm : Communicator) (index : Nat) (entries : List Metadata) :
    (prepareFrom comm index entries).Fails Error.ordinary := by
  induction entries generalizing index with
  | nil => exact .pure _
  | cons entry others ih =>
      unfold prepareFrom
      split
      · refine .bind (fails_assign _ _ _) fun handle => ?_
        exact .bind (fails_connect _ _) fun _ => ih (index + 1)
      · exact ih (index + 1)

end Store

namespace Status

theorem fails_install (scheduler : External) : (install scheduler).Fails Error.ordinary := by
  refine .bind .get fun status => ?_
  split
  · exact .throw rfl
  · exact .bind (External.fails_start _) fun _ => .modify _

theorem fails_select {asCaller : Bool} (request : Request) :
    (select asCaller request).Fails Error.ordinary := by
  refine .bind .get fun status => ?_
  split
  · exact .pure _
  · split
    · exact .pure _
    · exact .pure _
  · exact External.fails_select _ _

theorem fails_ensureSelector (config : Config) : (ensureSelector config).Fails Error.ordinary := by
  refine .bind .get fun status => ?_
  split
  · exact .pure _
  · refine .bind (Selector.fails_discover _) fun selector => ?_
    exact .bind (.modify _) fun _ => .pure _

theorem fails_channels (config : Config) (comm : Communicator) (selector : Selector) :
    (channels config comm selector).Fails Error.ordinary := by
  cases selector with
  | internal =>
      refine .bind (.within (Catalog.fails_discover _)) fun _ => ?_
      exact .bind .get fun _ => .pure _
  | external scheduler => exact .pure _

theorem fails_startLaunches : startLaunches.Fails Error.ordinary := by
  refine .bind (.modify _) fun _ => ?_
  refine .bind (.ask _) fun answer => ?_
  exact .bind (.accepted (fun _ => rfl) answer) fun _ => .modify _

theorem fails_prepare (config : Config) (comm : Communicator) :
    (prepare config comm).Fails Error.ordinary := by
  have serve (selector : Selector) {rest : Procedure Status UInt32}
      (fails : rest.Fails Error.ordinary) :
      Fails Error.ordinary (do
        if selector = .internal then
          onStore (Store.prepare (← get).catalog comm)
        rest) := by
    split
    · refine .bind .get fun status => ?_
      exact .bind (.within (Store.fails_prepareFrom comm 0 _)) fun _ => fails
    · exact fails
  refine .bind (fails_ensureSelector _) fun selector => ?_
  refine .bind (fails_channels _ _ _) fun needed => ?_
  refine .bind .get fun status => ?_
  cases status.ready with
  | true => exact serve selector (.pure _)
  | false =>
      refine .bind (.modify _) fun _ => serve selector ?_
      exact .bind fails_startLaunches fun _ => .pure _

theorem fails_bringUp (config : Config) (comm : Communicator) :
    (bringUp config comm).Fails Error.ordinary := by
  refine .bind .get fun status => ?_
  split
  · exact fails_prepare config comm
  · refine .tryCatch (fails_prepare config comm) fun error right => ?_
    exact .bind (.attempt release) fun _ => .throw right

theorem fails_shutDown : shutDown.Fails Error.ordinary := by
  intro env status history
  by_cases up : status.ready = true
  · apply (ensures_shutDownUp up).mono
    · exact fun _ _ _ _ => trivial
    · rintro error _ _ ⟨_, _, -, -, -, _, -, -, failed, -⟩
      exact ordinary_of_verdict failed.symm
  · unfold shutDown
    simp only [ensures_bind, ensures_get, ensures_ite, up, Bool.false_eq_true, if_false]
    split
    · cases status.selector with
      | none => trivial
      | some selector =>
          cases selector with
          | internal => trivial
          | external scheduler =>
              exact Fails.bind (.modify _) (fun _ => scheduler.fails_stop) env status history
    · trivial

theorem fails_load (file : Path) (rank : UInt64) : (load file rank).Fails Error.ordinary := by
  refine .bind .get fun status => ?_
  split
  · exact .throw rfl
  · exact .within (Store.fails_load file rank)

theorem fails_ensureScratch (bytes : UInt64) : (ensureScratch bytes).Fails Error.ordinary := by
  have stretch : Fails Error.ordinary (do
      let buffer ← accepted (← ask (.allocate .scratch bytes))
      modify fun status : Status => { status with scratch := some buffer }) := by
    refine .bind (.ask _) fun answer => ?_
    exact .bind (.accepted (fun _ => rfl) answer) fun _ => .modify _
  refine .bind .get fun status => ?_
  split
  · exact .pure _
  · split
    · refine .bind (.modify _) fun _ => ?_
      refine .bind (.ask _) fun answer => ?_
      exact .bind (.accepted (fun _ => rfl) answer) fun _ => stretch
    · exact stretch

theorem fails_launch {asCaller : Bool} (pending : Pending) (handle : Handle) :
    (launch asCaller pending handle).Fails Error.ordinary := by
  refine .bind .get fun status => ?_
  dsimp only
  split
  · exact .throw rfl
  · split
    · exact .throw rfl
    · refine .bind (.ask _) fun bytes => ?_
      refine .bind (fails_ensureScratch bytes) fun _ => ?_
      refine .bind .get fun status => ?_
      split
      · exact .throw rfl
      · refine .bind (.ask _) fun answer => ?_
        exact .bind (.accepted (fun _ => rfl) answer) fun _ => .modify _

/-- To launch operations that all have a slot fails for ordinary errors only. -/
theorem fails_launchEach {asCaller : Bool} {operations : List SavedOperation}
    (given : ∀ saved ∈ operations, saved.handle.isSome = true) :
    (launchEach asCaller operations).Fails Error.ordinary := by
  induction operations with
  | nil => exact .pure _
  | cons operation others ih =>
      obtain ⟨handle, slot⟩ :=
        Option.isSome_iff_exists.mp (given operation List.mem_cons_self)
      unfold launchEach
      rw [slot]
      refine .bind (fails_launch _ handle) fun _ => ih ?_
      exact fun saved member => given saved (List.mem_cons_of_mem operation member)

end Status

theorem Thread.fails_fallBack (pending : Pending) :
    (Thread.fallBack pending).Fails Error.ordinary := by
  intro env thread history
  apply (Thread.ensures_fallBack_withheld pending).mono
  · exact fun _ _ _ _ => trivial
  · exact fun _ _ _ withheld => withheld.ordinary

namespace Machine

theorem fails_join (config : Config) (comm : Communicator) :
    (join config comm).Fails Error.ordinary := by
  have adjusts : (adjustStack config comm : Procedure Machine Unit).Fails Error.ordinary := by
    refine .bind (.ask _) fun limit => ?_
    refine .bind (.ask _) fun kernels => ?_
    refine .bind (.accepted (fun _ => rfl) kernels) fun needed => ?_
    generalize (_ && config.setStackSize) = raises
    cases raises with
    | true => exact .bind (.ask _) fun _ => .pure _
    | false => exact .pure _
  refine .bind (.modify _) fun _ => ?_
  split
  · exact .pure _
  · refine .bind .get fun machine => ?_
    refine .bind (.within (Status.fails_bringUp config comm)) fun channels => ?_
    split
    · exact .bind adjusts fun _ => .pure _
    · exact .pure _

theorem fails_submit (config : Config) (thread : ThreadId) (operation : Operation)
    (comm : Communicator) (stream : Stream) :
    (submit config thread operation comm stream).Fails Error.ordinary := by
  have invalid (error : Error) (failed : (comm.request operation).validate = .error error) :
      error.ordinary = true := by
    obtain ⟨fault, found, rfl⟩ := Request.validate_eq_error_iff.mp failed
    exact Error.ordinary_of_rejects (Request.rejects_of_fault? found)
  have chooses (pending : Pending) : (choose config thread pending).Fails Error.ordinary := by
    refine .bind .get fun machine => ?_
    split
    · exact .bind .get fun _ => .within (Status.fails_select _)
    · exact .pure _
  refine .bind (.ofExcept invalid) fun _ => .bind .get fun machine => ?_
  split
  · refine .bind (chooses _) fun choice => ?_
    cases choice with
    | some handle => exact .bind .get fun _ => .within (Status.fails_launch _ handle)
    | none => exact .within (Thread.fails_fallBack _)
  · refine .bind (chooses _) fun choice => ?_
    cases choice with
    | some handle => exact .within (.modify _)
    | none => exact .bind (.within (.modify _)) fun _ => .within (Thread.fails_fallBack _)
  · exact .within (Thread.fails_fallBack _)

/-- Every command but the end of a group fails for ordinary errors only. -/
theorem fails_perform (config : Config) (thread : ThreadId) {command : Command}
    (other : command ≠ .closeGroup) :
    (perform config thread command).Fails Error.ordinary := by
  cases command with
  | closeGroup => exact absurd rfl other
  | install key => exact .bind (.within (Status.fails_install _)) fun _ => .pure _
  | join comm => exact .bind (fails_join config comm) fun _ => .pure _
  | shutDown =>
      have forgets : (onThread thread (modify fun state => { state with saved := [] })).Fails
          Error.ordinary := .within (.modify _)
      exact .bind (.bind forgets fun _ => .within Status.fails_shutDown) fun _ => .pure _
  | submit operation comm stream =>
      exact .bind (fails_submit config thread operation comm stream) fun _ => .pure _
  | select request =>
      exact .bind (.bind .get fun _ => .within (Status.fails_select request)) fun _ => .pure _
  | load file rank => exact .bind (.within (Status.fails_load file rank)) fun _ => .pure _
  | connect handle comm =>
      exact .bind (.within (.within (Store.fails_connect handle comm))) fun _ => .pure _
  | openGroup | setCaller | clearCaller | pushGuard =>
      exact .bind (.within (.modify _)) fun _ => .pure _
  | popGuard =>
      refine .bind (.within (.bind .get fun state => ?_)) fun _ => .pure _
      split
      · exact .pure _
      · exact .bind (.set _) fun _ => .pure _

/-- The end of a group fails for ordinary errors only, if all that is saved has a slot. -/
theorem ensures_closeGroup_ordinary {env : Environment} {machine : Machine} {history : History}
    (config : Config) (thread : ThreadId)
    (given : ∀ saved ∈ (machine.threads thread).saved, saved.handle.isSome = true) :
    (perform config thread .closeGroup).Ensures env machine history (fun _ _ _ => True)
      (fun error _ _ => error.ordinary = true) := by
  unfold perform closeGroup onThread Thread.closeGroup onBehalf onStatus
  simp only [ensures_bind, ensures_within, ensures_get, ensures_ite, ensures_throw, ensures_set,
    ensures_pure]
  split
  · rfl
  · split
    · trivial
    · split
      · exact Status.fails_launchEach given env machine.status history
      · trivial

end Machine

end Collective
