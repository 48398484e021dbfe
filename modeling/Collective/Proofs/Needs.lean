import Collective.Proofs.FirstJoin
import Collective.Proofs.Frame
import Collective.Proofs.Period
import Collective.Proofs.Selection
import Collective.Proofs.Store.Slots

/-!
# What loaded algorithms need

The store notes whether an algorithm that it loads needs a proxy or a fence.  While all is up the
notes tell of what is loaded.  A release unloads everything and leaves the notes as they are, and
only the next first preparation starts them again; until then they tell of what was released.
-/

namespace Collective

open Procedure History

namespace Store

variable {algorithms : List Metadata} {store after : Store} {history later : History}

/-- Whether a proxy and whether a fence is noted as needed. -/
def needs (store : Store) : Bool × Bool := (store.needsProxy, store.needsFence)

/-- Something is loaded of which the runtime has reported this. -/
def Reports (store : Store) (what : LoadReport → Bool) : Prop :=
  ∃ algorithm ∈ store.contents, what algorithm.report = true

/-- The notes tell of what is loaded. -/
structure Tells (store : Store) : Prop where
  proxy : store.needsProxy = true ↔ store.Reports LoadReport.needsProxy
  fence : store.needsFence = true ↔ store.Reports LoadReport.needsFence

/-- Of nothing there is nothing to tell. -/
theorem Vacant.tells_iff (vacant : store.Vacant) : store.Tells ↔ store.needs = (false, false) := by
  have nothing (what : LoadReport → Bool) : ¬ store.Reports what := by
    intro reported
    obtain ⟨algorithm, member, _⟩ := reported
    rw [contents, vacant.loaded] at member
    cases member
  constructor
  · intro tells
    have proxy := mt tells.proxy.mp (nothing _)
    have fence := mt tells.fence.mp (nothing _)
    rw [needs, Bool.eq_false_iff.mpr proxy, Bool.eq_false_iff.mpr fence]
  · intro forgotten
    obtain ⟨proxy, fence⟩ := Prod.mk.inj forgotten
    constructor
    · simp [proxy, nothing]
    · simp [fence, nothing]

theorem refill_tells (vacant : store.Vacant) : store.refill.Tells := by
  have still : store.refill.Vacant :=
    ⟨vacant.loaded, vacant.images, vacant.assigned, vacant.connected⟩
  exact still.tells_iff.mpr rfl

theorem Tells.occupy {handle : Handle} {others : List Handle} (tells : store.Tells)
    (sound : store.Sound algorithms) (next : store.free = handle :: others)
    (algorithm : Instance) (image : Option Buffer) :
    (store.occupy others handle algorithm image).Tells := by
  have reported (what : LoadReport → Bool) :
      (store.occupy others handle algorithm image).Reports what ↔
        store.Reports what ∨ what algorithm.report = true := by
    unfold Reports
    rw [sound.contents_occupy next algorithm image]
    simp [or_and_right, exists_or]
  constructor
  · rw [reported, ← tells.proxy]
    exact Bool.or_eq_true_iff
  · rw [reported, ← tells.fence]
    exact Bool.or_eq_true_iff

/-- A move notes what it loads. -/
theorem Growth.tells (grown : Growth algorithms store history after later)
    (sound : store.Sound algorithms) (before : store.Tells) : after.Tells := by
  cases grown with
  | call | undo | connect => exact ⟨before.proxy, before.fence⟩
  | load algorithm image next => exact before.occupy sound next algorithm image
  | assign algorithm image next =>
      have noted := before.occupy sound next algorithm image
      exact ⟨noted.proxy, noted.fence⟩

theorem growing_tells (grown : Along (Growth algorithms) store history after later)
    (sound : store.Sound algorithms) (before : store.Tells) : after.Tells := by
  have both : after.Sound algorithms ∧ after.Tells := by
    apply grown.keeps fun reached _ => reached.Sound algorithms ∧ reached.Tells
    · intro _ _ _ _ moved reached
      exact ⟨moved.sound reached.1, moved.tells reached.1 reached.2⟩
    · exact ⟨sound, before⟩
  exact both.2

end Store

namespace Status

variable {env : Environment} {status after : Status} {history later : History}

/-- While all is up every move notes what it loads. -/
theorem Move.tells (moved : Move status history after later) (up : status.ready = true)
    (before : status.store.Tells) : after.store.Tells := by
  cases moved with
  | growth grown =>
      cases grown with
      | refill closed | reset closed | start _ closed =>
          rw [up] at closed
          cases closed
      | store sound grown => exact grown.tells sound before
      | call | choose | list | drop | stretch => exact before
  | launch answer => cases answer <;> exact before
  | plain => exact before

/-- A first preparation starts the notes again before it loads anything, unless it does not come
so far. -/
theorem Dormant.ensures_prepare_tells (config : Config) (comm : Communicator)
    (dormant : status.Dormant) :
    (prepare config comm).Ensures env status history
      (fun _ after _ => after.store.Tells)
      (fun _ after _ => after.store.Tells ∨ after.store = status.store) := by
  have started (state : Status) (past : History) (tells : state.store.Tells) :
      startLaunches.Ensures env state past (fun _ after _ => after.store.Tells)
        (fun _ after _ => after.store.Tells ∨ after.store = status.store) := by
    rw [ensures_startLaunches_iff]
    dsimp only
    cases env.answer past (.allocate .syncFlags syncFlagBytes) with
    | ok flags => exact tells
    | error reason => exact .inl tells
  apply ensures_prepareDown dormant.closed
  · exact fun _ _ _ same => .inr same
  · intro selector needed middle past same _
    have vacant : middle.store.Vacant := by
      rw [same]
      exact dormant.store
    have refilled := Store.refill_tells vacant
    have sound := vacant.refill_sound middle.catalog.algorithms
    simp only [onStore, ensures_bind, ensures_get, ensures_ite, ensures_pure, ensures_within]
    split
    · apply (Store.ensures_prepare middle.catalog comm sound).mono
      · intro _ store later served
        exact started _ later (Store.growing_tells served.1 sound refilled)
      · intro _ store later grown
        exact .inl (Store.growing_tells grown sound refilled)
    · exact started _ past refilled

section Kept

variable {needs : Bool × Bool}

theorem keeps_needs_dismiss (selector : Option Selector) :
    (dismiss selector).Keeps fun status _ => status.store.needs = needs := by
  unfold dismiss
  split
  · refine .bind (.modify fun _ _ same => same) fun _ => ?_
    exact .bind (.ask fun _ _ _ same => same) fun code => External.keeps_checked .shutdown code
  · exact .modify fun _ _ same => same

/-- A release leaves the notes as they are. -/
theorem keeps_needs_release : release.Keeps fun status _ => status.store.needs = needs := by
  intro env status history same
  have kept {after : Status} {later : History}
      (released : Released status history { after with ready := false } later) :
      after.store.needs = needs := by
    obtain ⟨loaded, images, -, -, emptied, -⟩ := released
    have store := congrArg (fun status => status.store.needs) emptied
    exact store.trans same
  apply ensures_release.mono
  · exact fun _ _ _ released => kept released.1
  · exact fun _ _ _ released => kept released.1

theorem keeps_needs_shutDown : shutDown.Keeps fun status _ => status.store.needs = needs := by
  refine .bind .get fun status => ?_
  split
  · refine .bind (.attempt keeps_needs_release) fun result => ?_
    exact .bind (.modify fun _ _ same => same) fun _ => .ofExcept result
  · split
    · exact keeps_needs_dismiss _
    · exact .pure _

end Kept

end Status

namespace Machine

variable {config : Config} {thread : ThreadId} {needs : Bool × Bool}

/-- What a join has prepared while nothing is up, as far as it came. -/
def attempt (config : Config) (comm : Communicator) (env : Environment) (status : Status)
    (history : History) : Status :=
  if fit config comm then ((Status.prepare config comm).run env status history).state else status

/-- What is prepared is told of, unless nothing was. -/
theorem attempt_tells (config : Config) (comm : Communicator) (env : Environment)
    {status : Status} (history : History) (dormant : status.Dormant) :
    (attempt config comm env status history).store.Tells ∨
      (attempt config comm env status history).store = status.store := by
  let told := fun (after : Status) (_ : History) => after.store.Tells ∨ after.store = status.store
  unfold attempt
  split
  · have prepared := @Status.Dormant.ensures_prepare_tells env status history config comm dormant
    have either : (Status.prepare config comm).Ensures env status history (fun _ => told)
        (fun _ => told) := prepared.mono (fun _ _ _ tells => .inl tells) fun _ _ _ told => told
    exact either.outcome
  · exact .inr rfl

/-- Where a join leaves nothing up, it leaves the notes that its preparation has made. -/
theorem ensures_joinDown_needs {env : Environment} {machine : Machine} {history : History}
    (config : Config) (comm : Communicator) (settled : machine.status.Settled)
    (down : machine.status.ready = false) :
    let left := fun (after : Machine) (_ : History) => after.status.ready = false →
      after.status.store.needs = (attempt config comm env machine.status history).store.needs
    (join config comm).Ensures env machine history (fun _ => left) (fun _ => left) := by
  intro left
  let Left (after : Status) : Prop := after.ready = false →
    after.store.needs = (attempt config comm env machine.status history).store.needs
  apply @ensures_joinDown_status env machine history Left config comm down
  · intro unfit _
    rw [attempt, unfit]
    rfl
  · intro fits
    have reached : attempt config comm env machine.status history =
        ((Status.prepare config comm).run env machine.status history).state := if_pos fits
    apply ((ensures_run _).and (Status.ensures_prepare config comm settled)).mono
    · intro _ status _ both closed
      rw [both.2.2.1] at closed
      cases closed
    · intro _ status past both
      have same : attempt config comm env machine.status history = status :=
        reached.trans (congrArg Outcome.state both.1)
      have kept := Status.keeps_needs_release env status past
        (congrArg (fun status => status.store.needs) same.symm)
      apply kept.mono
      · exact fun _ _ _ still _ => still
      · exact fun _ _ _ still _ => still

/-- Only a join and a load change the notes. -/
theorem keeps_needs (command : Command) (elsewise : ∀ comm, command ≠ .join comm)
    (unloading : ∀ file rank, command ≠ .load file rank) :
    (perform config thread command).Keeps fun machine _ =>
      machine.status.store.needs = needs := by
  by_cases shuts : command = .shutDown
  · subst shuts
    refine .bind (.bind ?_ fun _ => keeps_onStatus Status.keeps_needs_shutDown) fun _ => .pure _
    exact @keeps_onThread _ thread (fun status => status.store.needs = needs) _
  · refine @keeps_core config thread (fun core => core.2.2.needs = needs) command elsewise shuts
      ?_ ?_ ?_
    · exact fun key _ => Status.keeps_install _ fun _ _ same => same
    · exact fun file rank same => absurd same (unloading file rank)
    · intro handle comm _
      refine .within (fun _ => rfl) fun status => ?_
      exact Store.keeps_connect handle comm fun _ _ same => same

end Machine

namespace Run

variable {run : Run} {number : Nat} {turn : Turn}

/-- What a command prepares while nothing is up, as far as it gets. -/
def attempt (run : Run) (number : Nat) : Command → Status
  | .join comm => Machine.attempt run.config comm run.env (run.status number) (run.history number)
  | _ => run.status number

/-- While all is up the notes tell of what is loaded. -/
theorem tells_of_ready (ready : (run.status number).ready = true) :
    (run.status number).store.Tells := by
  obtain ⟨first, period⟩ := exists_period ready
  obtain ⟨thread, comm, taken⟩ := period.joined
  have prepared := (@Status.Dormant.ensures_prepare_tells run.env _ (run.history first)
    run.config comm period.dormant).weaken fun _ _ _ tells => tells
  have joined := Machine.ensures_joinFirst_of_prepare (run.settled first) period.closed prepared
  apply period.keeps fun status _ => status.store.Tells
  · exact after_join joined taken period.opened
  · exact Status.Move.tells

theorem attempt_of_other {command : Command} (other : ∀ comm, command ≠ .join comm) :
    run.attempt number command = run.status number := by
  cases command with
  | join comm => exact absurd rfl (other comm)
  | _ => rfl

/-- While nothing is up nothing is loaded without a join. -/
theorem needs_of_load {thread : ThreadId} {file : Path} {rank : UInt64}
    (taken : run.turns[number]? = some ⟨thread, .load file rank⟩)
    (down : (run.status number).ready = false) :
    (run.status (number + 1)).store.needs = (run.status number).store.needs := by
  have shut : (run.scene number).machine.status.ready = false := down
  have refused : (Machine.perform run.config thread (.load file rank)).Ensures run.env
      (run.scene number).machine (run.history number)
      (fun _ after _ => after.status = (run.scene number).machine.status)
      (fun _ after _ => after.status = (run.scene number).machine.status) := by
    simp only [Machine.perform, Machine.onStatus, Status.load, ensures_bind, ensures_within,
      ensures_get, ensures_ite, ensures_throw, shut, Bool.not_false, if_true]
  exact congrArg (fun status => status.store.needs) (after_turn refused taken)

/-- A turn that leaves nothing up leaves the notes that it has come to. -/
theorem needs_of_closed (taken : run.turns[number]? = some turn)
    (closed : (run.status (number + 1)).ready = false) :
    (run.status (number + 1)).store.needs = (run.attempt number turn.command).store.needs := by
  obtain ⟨thread, command⟩ := turn
  have down (open_ : command ≠ .shutDown) : (run.status number).ready = false := by
    cases up : (run.status number).ready with
    | false => rfl
    | true => exact ((turned taken).up open_ up).symm.trans closed
  by_cases joins : ∃ comm, command = .join comm
  · obtain ⟨comm, rfl⟩ := joins
    have joined := @Machine.ensures_joinDown_needs run.env _ (run.history number) run.config comm
      (run.settled number) (down (by simp))
    exact after_join joined taken closed
  · have other (comm : Communicator) : command ≠ .join comm := fun same => joins ⟨comm, same⟩
    rw [attempt_of_other other]
    by_cases loads : ∃ file rank, command = .load file rank
    · obtain ⟨file, rank, rfl⟩ := loads
      exact needs_of_load taken (down (by simp))
    · have unloading (file : Path) (rank : UInt64) : command ≠ .load file rank :=
        fun same => loads ⟨file, rank, same⟩
      exact after_turn (Machine.keeps_needs command other unloading run.env
        (run.scene number).machine _ rfl) taken

/-- What a turn that leaves nothing up has come to is told of, unless there was nothing up and it
changed nothing. -/
theorem attempt_tells (taken : run.turns[number]? = some turn)
    (closed : (run.status (number + 1)).ready = false) :
    (run.attempt number turn.command).store.Tells ∨ (run.status number).ready = false ∧
      (run.attempt number turn.command).store = (run.status number).store := by
  obtain ⟨thread, command⟩ := turn
  cases up : (run.status number).ready with
  | true =>
      have shuts : command = .shutDown := by
        by_contra open_
        exact Bool.false_ne_true (closed.symm.trans ((turned taken).up open_ up))
      rw [shuts]
      exact .inl (tells_of_ready up)
  | false =>
      by_cases joins : ∃ comm, command = .join comm
      · obtain ⟨comm, rfl⟩ := joins
        have prepared := Machine.attempt_tells run.config comm run.env (run.history number)
          ((run.settled number).2 up)
        exact prepared.imp_right fun same => ⟨rfl, same⟩
      · rw [attempt_of_other fun comm same => joins ⟨comm, same⟩]
        exact .inr ⟨rfl, rfl⟩

/-- Of what was loaded the runtime has reported what it needs. -/
theorem reported_of_loaded {algorithm : Instance} {history : History}
    (loaded : algorithm ∈ loads history) :
    ⟨.load algorithm.file algorithm.rank, .ok algorithm.report⟩ ∈ history := by
  obtain ⟨event, member, same⟩ := List.mem_filterMap.mp (Multiset.mem_coe.mp loaded)
  obtain ⟨call, answer⟩ := event
  cases call with
  | load file rank =>
      cases answer with
      | ok report =>
          cases same
          exact member
      | error reason => cases same
  | _ => cases same

/-- While all is up the notes tell of what is loaded: a proxy is noted as needed exactly if some
loaded algorithm was reported to need one, and so is a fence.  While nothing is up nothing is
loaded, so the notes tell of it exactly if neither is noted; but a release leaves them as they
are.  A turn that leaves nothing up leaves the notes of what it has released: of all that was
loaded, where somebody shuts down; of all that was loaded for a communicator that joins in vain,
unless that fails before anything could be loaded; and what was noted before, where there was
nothing to release. -/
theorem needs_outlive_release (run : Run) (number : Nat) :
    ((run.status number).store.Tells ↔ (run.status number).ready = true ∨
      (run.status number).store.needs = (false, false)) ∧
    ((run.status number).ready = false → (run.status number).store.contents = []) ∧
    (∀ algorithm ∈ (run.status number).store.contents,
      ⟨.load algorithm.file algorithm.rank, .ok algorithm.report⟩ ∈ run.history number) ∧
    ∀ turn, run.turns[number]? = some turn → (run.status (number + 1)).ready = false →
      (run.status (number + 1)).store.needs = (run.attempt number turn.command).store.needs ∧
      ((run.attempt number turn.command).store.Tells ∨
        (run.status number).ready = false ∧
          (run.attempt number turn.command).store = (run.status number).store) := by
  refine ⟨?_, ?_, ?_, ?_⟩
  · cases ready : (run.status number).ready with
    | true => simp [tells_of_ready ready]
    | false =>
        have vacant := ((run.settled number).2 ready).store
        simp [vacant.tells_iff]
  · intro closed
    have vacant := ((run.settled number).2 closed).store
    rw [Store.contents, vacant.loaded]
    rfl
  · intro algorithm member
    exact reported_of_loaded (loads_of_held (Multiset.mem_coe.mpr member))
  · intro turn taken closed
    exact ⟨needs_of_closed taken closed, attempt_tells taken closed⟩

end Run

namespace Sample

/-- An algorithm that needs a proxy is loaded for a communicator, and somebody shuts down. -/
def forgetful : Run where
  config := (run .allReduce []).config
  env := .inOrder fun
    | _, .load _ _ => .ok { needsProxy := true }
    | history, call => (Environment.obliging (algorithm .allReduce)).answer history call
  turns := [⟨0, .join (comm 1 0)⟩, ⟨0, .shutDown⟩]

/-- The need is told of while the algorithm is loaded, and after it was unloaded. -/
theorem told_of_nothing :
    (forgetful.status 1).store.Tells ∧ (forgetful.status 2).store.contents = [] ∧
    (forgetful.status 2).store.needsProxy = true ∧ ¬ (forgetful.status 2).store.Tells := by
  have up : (forgetful.status 1).ready = true := by decide +kernel
  have down : (forgetful.status 2).ready = false := by decide +kernel
  have needed : (forgetful.status 2).store.needsProxy = true := by decide +kernel
  obtain ⟨before, _⟩ := Run.needs_outlive_release forgetful 1
  obtain ⟨after, empty, _⟩ := Run.needs_outlive_release forgetful 2
  refine ⟨before.mpr (.inl up), empty down, needed, ?_⟩
  intro tells
  rcases after.mp tells with ready | forgotten
  · rw [down] at ready
    cases ready
  · have proxy := congrArg Prod.fst forgotten
    rw [Store.needs, needed] at proxy
    cases proxy

end Sample

end Collective
