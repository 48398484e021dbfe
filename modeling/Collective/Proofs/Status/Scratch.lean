import Collective.Proofs.Attempts
import Collective.Proofs.Execution

/-!
# The working memory

The status holds the working memory that its history tells of: it is grown for a launch that asks
for more, freed by a shutdown, and left alone by everything else.
-/

namespace Collective

open Procedure History

namespace Status

variable {env : Environment} {status after : Status} {history later : History}

/-! ## What is held -/

theorem scratchSize_eq (status : Status) : status.scratchSize = Buffer.sizeOf status.scratch := by
  unfold scratchSize Buffer.sizeOf
  cases status.scratch <;> rfl

theorem Move.holds (moved : Move status history after later)
    (held : status.scratch = history.scratch?) : after.scratch = later.scratch? := by
  cases moved with
  | growth grown =>
      cases grown with
      | call quiet => rw [held, scratch?_cons_of_quiet quiet]
      | choose | list | refill => exact held
      | reset _ none => rw [← held, none]
      | start | drop | stretch => first | exact held | rfl
      | store _ stored =>
          cases stored with
          | call quiet => exact held.trans (scratch?_cons_of_quiet quiet).symm
          | undo | connect => exact held
          | load algorithm image | assign algorithm image =>
              cases image <;> exact held
  | launch answer =>
      cases answer <;> exact held
  | plain => exact held

theorem moving_holds (moving : Along Move status history after later)
    (held : status.scratch = history.scratch?) : after.scratch = later.scratch? :=
  moving.keeps (fun reached past => reached.scratch = past.scratch?) Move.holds held

/-! ## Launches -/

/-- The calls that make the working memory large enough. -/
inductive Stretched (status : Status) (history : History) (bytes : UInt64) :
    Status → History → Prop where
  | enough : bytes ≤ Buffer.sizeOf status.scratch → Stretched status history bytes status history
  | grown (buffer : Buffer) : Buffer.sizeOf status.scratch < bytes →
      Stretched status history bytes { status with scratch := some buffer }
        (⟨.allocate .scratch bytes, .ok buffer⟩ :: (freed status.scratch ++ history))

/-- The calls that fail to make the working memory large enough. -/
inductive Unstretched (status : Status) (history : History) (bytes : UInt64) :
    Error → History → Prop where
  | unfreed {old : Buffer} (reason : String) : status.scratch = some old → old.size < bytes →
      Unstretched status history bytes (.collaborator reason)
        (⟨.free .scratch old, .error reason⟩ :: history)
  | unallocated (reason : String) : Buffer.sizeOf status.scratch < bytes →
      Unstretched status history bytes (.collaborator reason)
        (⟨.allocate .scratch bytes, .error reason⟩ :: (freed status.scratch ++ history))

theorem ensures_stretched (bytes : UInt64) :
    (ensureScratch bytes).Ensures env status history
      (fun _ => status.Stretched history bytes)
      (fun error _ => status.Unstretched history bytes error) := by
  unfold ensureScratch
  simp only [ensures_bind, ensures_get, ensures_ite, ensures_pure, scratchSize_eq]
  split
  next enough => exact .enough enough
  next short =>
    have less : Buffer.sizeOf status.scratch < bytes := UInt64.not_le.mp short
    have allocates {past : History} (released : past = freed status.scratch ++ history) :
        Ensures (do
            let buffer ← accepted (← ask (.allocate .scratch bytes))
            modify fun status => { status with scratch := some buffer }) env
          { status with scratch := none } past (fun _ => status.Stretched history bytes)
          (fun error _ => status.Unstretched history bytes error) := by
      subst released
      simp only [ensures_bind, ensures_ask, ensures_accepted, ensures_modify]
      cases env.answer _ (.allocate .scratch bytes) with
      | ok buffer => exact .grown buffer less
      | error reason => exact .unallocated reason less
    cases held : status.scratch with
    | none =>
        have same : { status with scratch := none } = status := by rw [← held]
        rw [same] at allocates
        exact allocates (by rw [held]; rfl)
    | some old =>
        rw [ensures_bind, ensures_modify, ensures_bind, ensures_ask, ensures_bind,
          ensures_accepted]
        cases env.answer history (.free .scratch old) with
        | error reason => exact .unfreed reason held (by rwa [held] at less)
        | ok => exact allocates (by rw [held]; rfl)

/-- A launch is supplied with the working memory that it asks for, or it fails. -/
theorem supplies_launch {asCaller : Bool} (coherent : status.Coherent)
    (held : status.scratch = history.scratch?) (pending : Pending) (handle : Handle) :
    (launch asCaller pending handle).Supplies (status.ready = true) env status history := by
  unfold Supplies launch
  simp only [ensures_bind, ensures_get, ensures_ite, ensures_throw]
  split
  next => exact .inl .refl
  next opened =>
    have up : status.ready = true := by simpa using opened
    cases loaded : status.store.loaded.get? handle with
    | none => exact .inl .refl
    | some algorithm =>
        obtain ⟨flags, flagged⟩ : ∃ flags, status.syncFlags = some flags := by
          apply Option.isSome_iff_exists.mp
          rw [← coherent.flags, up]
        rw [ensures_bind, ensures_ask, ensures_bind]
        generalize env.answer history (.scratchBytes algorithm pending.request) = bytes
        refine (ensures_stretched bytes).mono ?_ ?_
        · rintro _ _ _ (enough | ⟨buffer, short⟩)
          all_goals
            simp only [ensures_bind, ensures_get, flagged, ensures_ask, ensures_accepted,
              ensures_modify]
            generalize env.answer _ (.launch _) = answer
          · cases answer with
            | ok => exact .attempt .refl (.enough (.ok ()) (held ▸ enough) held)
            | error reason =>
                exact .inl (.attempt .refl (.enough (.error reason) (held ▸ enough) held))
          · rw [held] at short ⊢
            cases answer with
            | ok => exact .attempt .refl (.grown (.ok ()) short rfl)
            | error reason => exact .inl (.attempt .refl (.grown (.error reason) short rfl))
        · rintro error _ _ unstretched
          refine .inr ⟨up, _, .refl, ?_⟩
          cases unstretched with
          | unfreed reason same short => exact .unfreed reason (held ▸ same) short
          | unallocated reason short =>
              rw [held] at short ⊢
              exact .unallocated reason short

/-- Of some launches all are supplied with what they ask for, or the last one fails. -/
theorem supplies_launchEach {asCaller : Bool} (coherent : status.Coherent)
    (held : status.scratch = history.scratch?) (operations : List SavedOperation) :
    (launchEach asCaller operations).Supplies (status.ready = true) env status history := by
  induction operations generalizing status history with
  | nil => exact .refl
  | cons operation others ih =>
      unfold launchEach
      cases given : operation.handle with
      | none => exact .inl .refl
      | some handle =>
          rw [Supplies, ensures_bind]
          have launched :=
            @ensures_launch env status history asCaller coherent operation handle given
          have supplies := @supplies_launch env status history asCaller coherent held
            operation.toPending handle
          refine (launched.and supplies).mono ?_ (fun _ _ _ ended => ended.2)
          rintro _ middle past ⟨⟨moved, steady, -⟩, provided⟩
          have rest := ih (moving_coherent moved coherent) (moving_holds moved held)
          rw [steady.ready] at rest
          exact rest.since provided

/-! ## Releases -/

/-- A release frees the working memory that is held. -/
theorem Released.givesUp (released : Released status history after later)
    (held : status.scratch = history.scratch?) : GivesUp history later := by
  obtain ⟨loaded, images, -, -, -, adds⟩ := released
  rw [returning, List.append_assoc] at adds
  obtain ⟨middle, stored, rest⟩ := adds.split
  obtain ⟨between, freed, others⟩ := rest.split
  have apart {calls : List Call} {past now : History} (adds : Adds past calls now)
      (all : ∀ call ∈ calls, call.concern ≠ .scratch ∧ call.concern ≠ .launches) :
      Only Event.unscratched past now := by
    obtain ⟨events, rfl, all⟩ := adds.exists_events all
    refine ⟨events, rfl, fun event member => ?_⟩
    simpa [Event.unscratched, about] using all event member
  refine ⟨middle, between, apart stored ?_, held ▸ freed, apart others ?_⟩
  · intro call member
    simp only [Store.returning, List.mem_append, List.mem_map] at member
    rcases member with ⟨_, _, rfl⟩ | ⟨_, _, rfl⟩ <;> simp [Call.concern]
  · intro call member
    simp only [List.mem_append, List.mem_map] at member
    rcases member with ⟨_, _, rfl⟩ | stopped
    · simp [Call.concern]
    · unfold stopping at stopped
      split at stopped
      · rw [List.mem_singleton.mp stopped]
        simp [Call.concern]
      · cases stopped

theorem Effect.holds (effect : Effect Move status history after later)
    (held : status.scratch = history.scratch?) : after.scratch = later.scratch? := by
  cases effect with
  | grown grown => exact moving_holds grown.along held
  | released along released =>
      rw [(released.givesUp (moving_holds along held)).scratch?_eq]
      obtain ⟨_, _, _, _, rfl, _⟩ := released
      rfl

/-- To shut down is to free the working memory that is held. -/
theorem ensures_shutDown_givesUp (settled : status.Settled)
    (held : status.scratch = history.scratch?) :
    shutDown.Ensures env status history (fun _ _ => GivesUp history)
      (fun _ _ => GivesUp history) := by
  unfold shutDown
  simp only [ensures_bind, ensures_get, ensures_ite, ensures_pure]
  split
  next =>
    refine (Ensures.attempt ensures_release).mono ?_ (fun _ _ _ failed => failed)
    rintro result after later ⟨released, -⟩
    rw [ensures_modify]
    exact @ensures_ofExcept_of _ _ _ _ _ (fun _ => GivesUp history) result
      (released.givesUp held)
  next closed =>
    have dormant := settled.2 (by simpa using closed)
    split
    next chosen =>
      refine (ensures_dismiss rfl).mono ?_ ?_
      · rintro _ _ _ ⟨-, stopped⟩
        exact (dormant.released stopped.adds).givesUp held
      · rintro _ _ _ ⟨-, stopped⟩
        exact (dormant.released stopped.adds).givesUp held
    next =>
      have nothing : history.scratch? = none := held ▸ dormant.scratch
      refine ⟨history, history, .refl _ _, ?_, .refl _ _⟩
      rw [nothing]
      exact .nil history

/-! ## Preparations -/

/-- No launch is attempted for a communicator that joins, and the working memory is left alone. -/
theorem supplies_bringUp {possible : Prop} (config : Config) (comm : Communicator)
    (settled : status.Settled) (held : status.scratch = history.scratch?) :
    (bringUp config comm).Supplies possible env status history := by
  unfold Supplies bringUp
  rw [ensures_bind, ensures_get, ensures_ite]
  split
  next => exact (makes_prepare config comm).supplies rfl
  next closed =>
    have down : status.ready = false := by simpa using closed
    rw [ensures_tryCatch]
    refine ((ensures_prepare config comm settled).only (makes_prepare config comm)).mono ?_ ?_
    · rintro _ _ _ ⟨-, made⟩
      exact (made.unscratched rfl).provided
    · rintro error middle past ⟨⟨along, -⟩, made⟩
      have apart := made.unscratched rfl
      have nothing : past.scratch? = none := by
        rw [apart.scratch?_eq, ← held, settled.1.scratch down]
      have still := moving_holds (growing_moves along) held
      rw [ensures_bind]
      refine (Ensures.attempt ensures_release).mono ?_ (fun _ _ _ failed => failed)
      rintro _ _ _ ⟨released, -⟩
      exact .inl (apart.provided.trans ((released.givesUp still).provided nothing))

end Status

end Collective
