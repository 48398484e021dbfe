import Collective.Proofs.Numbering
import Collective.Proofs.Status.Scratch

/-!
# The working memory of a run

Whatever the threads do and whatever the device refuses, every launch gets as much working memory
as it asks for, or it is not made.  The buffer is replaced only for a launch that asks for more
than is held, and given up only by a shutdown.
-/

namespace Collective

open Procedure History

/-- A failed attempt launches nothing. -/
theorem History.Stuck.streams_eq {past later : History} {error : Error}
    (stuck : Stuck past error later) : streams later = streams past := by
  have freeing (history : History) :
      streams (freed past.scratch? ++ history) = streams history := by
    cases past.scratch? <;> rfl
  cases stuck with
  | unfreed => rfl
  | unallocated => exact freeing _

namespace Machine

variable {env : Environment} {config : Config} {machine : Machine} {history : History}
variable {thread : ThreadId}

theorem supplies_onBehalf {α : Type} {possible : Prop} {procedure : Bool → Procedure Status α}
    (supplies : ∀ asCaller, (procedure asCaller).Supplies possible env machine.status history) :
    (onBehalf thread procedure).Supplies possible env machine history := by
  unfold Supplies onBehalf
  rw [ensures_bind, ensures_get]
  exact Supplies.within (supplies _)

/-- A choice attempts nothing and leaves all as it is. -/
theorem supplies_choose {α : Type} {possible : Prop} {next : Option Handle → Procedure Machine α}
    (config : Config) (pending : Pending)
    (rest : ∀ chosen later, Only Event.unscratched history later →
      (next chosen).Supplies possible env machine later) :
    (choose config thread pending >>= next).Supplies possible env machine history := by
  have chooses := (@ensures_choose env machine history thread config pending).only
    (makes_choose config thread pending fun _ => Status.makes_select _)
  unfold Supplies
  rw [ensures_bind]
  refine chooses.mono ?_ (fun _ _ _ ended => .inl (ended.2.unscratched rfl).provided)
  rintro chosen _ later ⟨⟨⟨rfl, -⟩, -⟩, made⟩
  have apart := made.unscratched rfl
  exact (rest chosen later apart).since apart.provided

theorem supplies_submit (config : Config) (thread : ThreadId) (operation : Operation)
    (comm : Communicator) (stream : Stream) (coherent : machine.status.Coherent)
    (held : machine.status.scratch = history.scratch?) :
    (submit config thread operation comm stream).Supplies (machine.status.ready = true) env
      machine history := by
  let pending : Pending := { request := comm.request operation, comm, stream }
  have falls : (onThread thread (Thread.fallBack pending)).Makes (about [.plain]) :=
    .within (Thread.makes_fallBack pending)
  unfold submit
  rw [Supplies, ensures_bind, ensures_ofExcept]
  cases (comm.request operation).validate with
  | error error => exact .inl .refl
  | ok =>
      rw [ensures_bind, ensures_get]
      cases (machine.threads thread).phase with
      | noGroup =>
          refine supplies_choose config pending fun chosen later apart => ?_
          cases chosen with
          | none => exact falls.supplies rfl
          | some handle =>
              have still := held.trans apart.scratch?_eq.symm
              exact supplies_onBehalf fun _ =>
                Status.supplies_launch coherent still pending handle
      | scheduling =>
          refine supplies_choose config pending fun chosen later _ => ?_
          cases chosen with
          | none => exact (Makes.bind (.within (.modify _)) fun _ => falls).supplies rfl
          | some handle => exact .refl
      | fallingBack => exact falls.supplies rfl

theorem supplies_closeGroup (thread : ThreadId) (coherent : machine.status.Coherent)
    (held : machine.status.scratch = history.scratch?) :
    (closeGroup thread).Supplies (machine.status.ready = true) env machine history := by
  unfold Supplies closeGroup onThread Thread.closeGroup
  simp only [ensures_bind, ensures_within, ensures_get, ensures_ite, ensures_throw, ensures_set,
    ensures_pure]
  split
  next => exact .inl .refl
  next =>
    split
    next => exact .refl
    next =>
      split
      next => exact supplies_onBehalf fun _ => Status.supplies_launchEach coherent held _
      next => exact .refl

theorem supplies_join (config : Config) (comm : Communicator)
    (settled : machine.status.Settled) (held : machine.status.scratch = history.scratch?) :
    (join config comm).Supplies (machine.status.ready = true) env machine history := by
  unfold Supplies join
  rw [ensures_bind, ensures_modify, ensures_ite]
  split
  next => exact .refl
  next =>
    rw [ensures_bind, ensures_get]
    have raises := @Status.supplies_bringUp env machine.status history
      (machine.status.ready = true) config comm settled held
    refine Supplies.bind (.within raises) fun channels machine history => ?_
    have adjusts : Makes (about [.kernels]) (do
        adjustStack config comm
        return channels : Procedure Machine UInt32) :=
      .bind (makes_adjustStack config comm) fun _ => .pure _
    split
    · exact adjusts.supplies rfl
    · exact .refl

/-- Whatever a command is but a shutdown, every launch that it attempts is supplied with working
memory, but for the last one where the command fails. -/
theorem supplies_perform (config : Config) (thread : ThreadId) (command : Command)
    (open_ : command ≠ .shutDown) (settled : machine.status.Settled)
    (held : machine.status.scratch = history.scratch?) :
    (perform config thread command).Supplies (machine.status.ready = true) env machine history := by
  have makes := makes_perform config thread command
  cases command with
  | shutDown => exact absurd rfl open_
  | join comm =>
      exact (supplies_join config comm settled held).bind fun _ _ _ => .refl
  | closeGroup =>
      exact (supplies_closeGroup thread settled.1 held).bind fun _ _ _ => .refl
  | submit operation comm stream =>
      have submits := @supplies_submit env machine history config thread operation comm
        stream settled.1 held
      exact submits.bind fun _ _ _ => .refl
  | install | select | load | connect => exact makes.supplies rfl
  | openGroup | setCaller | clearCaller | pushGuard | popGuard => exact makes.supplies rfl

theorem ensures_shutDown_givesUp (config : Config) (thread : ThreadId)
    (settled : machine.status.Settled) (held : machine.status.scratch = history.scratch?) :
    (perform config thread .shutDown).Ensures env machine history (fun _ _ => GivesUp history)
      (fun _ _ => GivesUp history) := by
  unfold perform shutDown onThread onStatus
  simp only [ensures_bind, ensures_within, ensures_modify, ensures_pure]
  exact Status.ensures_shutDown_givesUp settled held

end Machine

namespace Run

variable {run : Run} {number last : Nat} {turn : Turn}

theorem holds_scratch (run : Run) (number : Nat) :
    (run.status number).scratch = (run.history number).scratch? := by
  refine run.keeps (fun number => (run.status number).scratch = (run.history number).scratch?) 0
    rfl ?_ ?_ (Nat.zero_le number)
  · exact fun _ _ _ taken held => (turned taken).effect.holds held
  · intro _ _ same held
    unfold status history at held ⊢
    rw [same]
    exact held

/-- A turn that replies has supplied all the launches that it attempted. -/
theorem provided_in_turn (taken : run.turns[number]? = some turn)
    (open_ : turn.command ≠ .shutDown) {reply : Reply}
    (replied : (run.outcome (run.scene number) turn).result = .ok reply) :
    Provided (run.history number) (run.history (number + 1)) :=
  after_reply (Machine.supplies_perform run.config turn.thread turn.command open_
    (run.settled number) (run.holds_scratch number)) taken replied

theorem interrupted_in_turn (taken : run.turns[number]? = some turn)
    (open_ : turn.command ≠ .shutDown) {error : Error}
    (failed : (run.outcome (run.scene number) turn).result = .error error) :
    Interrupted ((run.status number).ready = true) (run.history number) error
      (run.history (number + 1)) :=
  after_error (Machine.supplies_perform run.config turn.thread turn.command open_
    (run.settled number) (run.holds_scratch number)) taken failed

/-- A call with which somebody who shuts down frees the working memory that is held. -/
def FreedByShutDown (run : Run) (last : Nat) (event : Event) (past : History) : Prop :=
  ∃ number thread buffer, number < last ∧ run.turns[number]? = some ⟨thread, .shutDown⟩ ∧
    run.history number <:+ past ∧ event :: past <:+ run.history (number + 1) ∧
    event.call = .free .scratch buffer ∧ past.scratch? = some buffer

theorem FreedByShutDown.mono {event : Event} {past : History}
    (freed : run.FreedByShutDown number event past) (order : number ≤ last) :
    run.FreedByShutDown last event past := by
  obtain ⟨shutting, thread, buffer, before, rest⟩ := freed
  exact ⟨shutting, thread, buffer, before.trans_le order, rest⟩

/-- Every call that is about the working memory or about launches is part of an attempt at a
launch, but for those with which somebody shuts down. -/
theorem attempted_or_freed (run : Run) (last : Nat) {event : Event} {past : History}
    (made : event :: past <:+ run.history last) : event.unscratched = true ∨
      Attempted event past (run.history last) ∨ run.FreedByShutDown last event past := by
  induction last with
  | zero => cases List.suffix_nil.mp made
  | succ last ih =>
      have grown := run.history_suffix (Nat.le_succ last)
      rcases before_or_after made grown with sooner | since
      · rcases ih sooner with apart | attempted | freed
        · exact .inl apart
        · exact .inr (.inl (attempted.mono grown))
        · exact .inr (.inr (freed.mono (Nat.le_succ last)))
      have never : ¬ event :: past <:+ run.history last := not_suffix_of_since since
      cases taken : run.turns[last]? with
      | none =>
          rw [history_past_end taken] at made
          exact absurd made never
      | some turn =>
          by_cases shuts : turn.command = .shutDown
          · obtain ⟨thread, command⟩ := turn
            obtain rfl : command = .shutDown := shuts
            have gone := after_turn (Machine.ensures_shutDown_givesUp run.config thread
              (run.settled last) (run.holds_scratch last)) taken
            rcases gone.within made with sooner | apart | ⟨buffer, frees, held⟩
            · exact absurd sooner never
            · exact .inl apart
            · exact .inr (.inr ⟨last, thread, buffer, Nat.lt_succ_self last, taken, since, made,
                frees, held⟩)
          · have inTurn : event :: past <:+ run.history last ∨ event.unscratched = true ∨
                Attempted event past (run.history (last + 1)) := by
              cases result : (run.outcome (run.scene last) turn).result with
              | ok => exact (provided_in_turn taken shuts result).attempted made
              | error => exact (interrupted_in_turn taken shuts result).attempted made
            rcases inTurn with sooner | apart | attempted
            · exact absurd sooner never
            · exact .inl apart
            · exact .inr (.inl attempted)

/-- No call about the working memory is refused in some turns. -/
def Yields (run : Run) (first last : Nat) : Prop :=
  ∀ event ∈ run.between first last, about [.scratch] event = true → event.refused = false

theorem Yields.split {first middle : Nat} (yields : run.Yields first last)
    (before : first ≤ middle) (after : middle ≤ last) :
    run.Yields first middle ∧ run.Yields middle last := by
  unfold Yields at yields
  rw [between_append before after] at yields
  constructor
  · exact fun event member => yields event (List.mem_append_right _ member)
  · exact fun event member => yields event (List.mem_append_left _ member)

/-- Unless somebody shuts down or a call about the working memory is refused, all launches that
are attempted are supplied. -/
theorem provided_between {first : Nat} (order : first ≤ last) (steady : run.Steady first last)
    (yields : run.Yields first last) : Provided (run.history first) (run.history last) := by
  induction last, order using Nat.le_induction with
  | base => exact .refl
  | succ number order ih =>
      obtain ⟨before, now⟩ := yields.split order (Nat.le_succ number)
      refine (ih (steady.mono le_rfl (Nat.le_succ number)) before).trans ?_
      cases taken : run.turns[number]? with
      | none =>
          rw [history_past_end taken]
          exact .refl
      | some turn =>
          have open_ := steady number turn order (Nat.lt_succ_self number) taken
          cases result : (run.outcome (run.scene number) turn).result with
          | ok => exact provided_in_turn taken open_ result
          | error =>
              rcases interrupted_in_turn taken open_ result with provided | ⟨-, _, since, stuck⟩
              · exact provided
              · obtain ⟨_, event, earlier, -, ended, before, sizes, refused⟩ := stuck.refused
                have member := mem_between_of_latest ended (since.suffix.trans before)
                rw [now event member sizes] at refused
                cases refused

theorem size_between {first : Nat} (order : first ≤ last) (steady : run.Steady first last)
    (yields : run.Yields first last) (sized : (run.history last).Sized) :
    (run.status last).scratchSize.toNat =
      max (run.status first).scratchSize.toNat (largest (run.between first last)) := by
  obtain ⟨added, grown, size⟩ := (provided_between order steady yields).size sized
  rw [between_of_append grown, Status.scratchSize_eq, Status.scratchSize_eq, run.holds_scratch last,
    run.holds_scratch first, size]

/-- A turn that attempts a launch in vain leaves the numbers as the launches before it have. -/
theorem numbers_of_stuck {launched : History} {error : Error}
    (taken : run.turns[number]? = some turn) (open_ : turn.command ≠ .shutDown)
    (up : (run.status number).ready = true)
    (stuck : Stuck (launched ++ run.history number) error (run.history (number + 1))) :
    (run.status (number + 1)).workIndex =
        (run.status number).workIndex + .ofNat (streams launched).length ∧
      (run.status (number + 1)).lastStream =
        (streams launched).head?.or (run.status number).lastStream := by
  obtain ⟨first, period⟩ := exists_period up
  have next : run.Period first (number + 1) := by
    refine period.next fun other same => ?_
    obtain rfl : turn = other := Option.some.inj (taken.symm.trans same)
    exact open_
  obtain ⟨events, grown, -, index, stream⟩ := period.numbered
  obtain ⟨more, further, -, nextIndex, nextStream⟩ := next.numbered
  have same : streams more = streams launched ++ streams events := by
    have counted := stuck.streams_eq
    rw [further, grown] at counted
    simp only [streams, List.filterMap_append, ← List.append_assoc] at counted
    exact List.append_cancel_right counted
  rw [nextIndex, nextStream, index, stream, same, List.length_append, List.head?_append]
  refine ⟨?_, rfl⟩
  rw [← UInt64.ofNat_add, Nat.add_right_comm, Nat.add_assoc]

/-- A turn in which working memory cannot be freed or allocated ends with that refusal. -/
theorem stuck_of_refused (taken : run.turns[number]? = some turn) (open_ : turn.command ≠ .shutDown)
    {event : Event} (member : event ∈ run.between number (number + 1))
    (sizes : about [.scratch] event = true) (refused : event.refused = true) :
    ∃ launched reason, (run.status number).ready = true ∧
      Stuck (launched ++ run.history number) (.collaborator reason) (run.history (number + 1)) ∧
      (run.outcome (run.scene number) turn).result = .error (.collaborator reason) := by
  obtain ⟨later, sooner, split⟩ := List.append_of_mem member
  have grown := run.history_between (Nat.le_succ number)
  rw [split, List.append_assoc, List.cons_append] at grown
  have made : event :: (sooner ++ run.history number) <:+ run.history (number + 1) :=
    ⟨later, grown.symm⟩
  have never (provided : Provided (run.history number) (run.history (number + 1))) : False := by
    rcases provided.accepted made sizes with before | accepted
    · exact not_suffix_of_since (List.suffix_append sooner _) before
    · rw [refused] at accepted
      cases accepted
  cases result : (run.outcome (run.scene number) turn).result with
  | ok => exact (never (provided_in_turn taken open_ result)).elim
  | error error =>
      rcases interrupted_in_turn taken open_ result with provided | ⟨up, now, provided, stuck⟩
      · exact (never provided).elim
      · obtain ⟨launched, rfl⟩ := provided.suffix
        obtain ⟨reason, _, _, rfl, -⟩ := stuck.refused
        exact ⟨launched, reason, up, stuck, rfl⟩

/-- How the launches of a run are provided with working memory. -/
structure ScratchOnDemand (run : Run) (last : Nat) : Prop where
  /-- What is held is what the calls tell. -/
  held : (run.status last).scratch = (run.history last).scratch?
  /-- Every launch ends a complete attempt, so it is made on the buffer that is held then, which is
  as large as was asked for; there is none only if nothing was asked for and none was held. -/
  launched : ∀ work answer past, ⟨.launch work, answer⟩ :: past <:+ run.history last →
    ∃ earlier bytes, Supplied earlier (⟨.launch work, answer⟩ :: past) ∧
      ⟨.scratchBytes work.algorithm work.request, bytes⟩ :: earlier <:+ past ∧
      bytes ≤ Buffer.sizeOf work.scratch ∧
      (work.scratch = none → bytes = 0 ∧ earlier.scratch? = none)
  /-- Every question begins an attempt, which ends with the launch or with a refusal. -/
  asked : ∀ algorithm request bytes past,
    ⟨.scratchBytes algorithm request, bytes⟩ :: past <:+ run.history last →
    ∃ later, ⟨.scratchBytes algorithm request, bytes⟩ :: past <:+ later ∧
      later <:+ run.history last ∧ (Supplied past later ∨ ∃ error, Stuck past error later)
  /-- Working memory is freed and allocated only for a launch that asks for more than is held.
  Apart from launches only a shutdown is about it, which gives back what is held. -/
  resized : ∀ event past, about [.scratch] event = true → event :: past <:+ run.history last →
    Demanded event past ∨ run.FreedByShutDown last event past
  /-- Whenever a buffer is allocated it has the size that was asked for, and the launch is made on
  it. -/
  grown : ∀ bytes buffer past,
    ⟨.allocate .scratch bytes, .ok buffer⟩ :: past <:+ run.history last →
    buffer.size = bytes ∧ ∃ work answer, work.scratch = some buffer ∧
      ⟨.launch work, answer⟩ :: ⟨.allocate .scratch bytes, .ok buffer⟩ :: past <:+
        run.history last
  /-- From a scene in which nothing is up, as at first and after every shutdown, and until somebody
  shuts down or a call about the working memory is refused, the size that is held is the largest
  that was asked for. -/
  size : ∀ first, first ≤ last → (run.status first).ready = false → run.Steady first last →
    run.Yields first last →
    (run.status last).scratchSize.toNat = largest (run.between first last) ∧
      ∀ middle, first ≤ middle → middle ≤ last →
        (run.status middle).scratchSize ≤ (run.status last).scratchSize
  /-- A turn in which such a call is refused ends there with an error and nothing held.  The
  attempt was not launched, it has passed the buffer that was held to be freed once, and only the
  launches before it count. -/
  failed : ∀ number turn event, number < last → run.turns[number]? = some turn →
    turn.command ≠ .shutDown → event ∈ run.between number (number + 1) →
    about [.scratch] event = true → event.refused = true →
    ∃ launched reason, let before := launched ++ run.history number
      Stuck before (.collaborator reason) (run.history (number + 1)) ∧
      (run.outcome (run.scene number) turn).result = .error (.collaborator reason) ∧
      (run.status (number + 1)).scratch = none ∧
      (run.history (number + 1)).frees =
        (before.scratch?.toList : Multiset Buffer) + before.frees ∧
      (run.status (number + 1)).workIndex =
        (run.status number).workIndex + .ofNat (streams launched).length ∧
      (run.status (number + 1)).lastStream =
        (streams launched).head?.or (run.status number).lastStream

/-- In every run whose device gives working memory in the size that is asked for, whatever else
fails: every launch has as much as it asks for, what is held grows on demand only, and a launch for
which it cannot grow is not made and changes nothing else. -/
theorem scratch_on_demand (run : Run) (last : Nat) (sized : (run.history last).Sized) :
    run.ScratchOnDemand last := by
  have attempted {event : Event} {past : History} (made : event :: past <:+ run.history last)
      (apart : event.unscratched = false) (unfreed : event.call.freed? = none) :
      Attempted event past (run.history last) := by
    rcases run.attempted_or_freed last made with other | attempted | freed
    · rw [apart] at other
      cases other
    · exact attempted
    · obtain ⟨_, _, _, _, _, _, _, frees, _⟩ := freed
      rw [frees] at unfreed
      cases unfreed
  refine ⟨run.holds_scratch last, ?_, ?_, ?_, ?_, ?_, ?_⟩
  · intro work answer past made
    obtain ⟨earlier, supplied⟩ := (attempted made rfl rfl).launch
    have before := sized.mono ((List.suffix_cons _ past).trans made)
    obtain ⟨bytes, asked, served⟩ := supplied.serves before
    exact ⟨earlier, bytes, supplied, asked, served⟩
  · exact fun _ _ _ _ made => (attempted made rfl rfl).question
  · intro event past sizes made
    rcases run.attempted_or_freed last made with apart | attempted | freed
    · rw [Event.unscratched_of_sizes sizes] at apart
      cases apart
    · exact .inl (attempted.demanded sizes)
    · exact .inr freed
  · intro bytes buffer past made
    exact ⟨sized.size_eq (made.subset List.mem_cons_self), (attempted made rfl rfl).allocate⟩
  · intro first order down steady yields
    have nothing : (run.status first).scratchSize.toNat = 0 := by
      rw [Status.scratchSize_eq, (run.settled first).1.scratch down]
      rfl
    refine ⟨?_, fun middle since upTo => ?_⟩
    · rw [size_between order steady yields sized, nothing, Nat.zero_max]
    · have later := size_between upTo (steady.mono since le_rfl) (yields.split since upTo).2 sized
      rw [UInt64.le_iff_toNat_le, later]
      exact Nat.le_max_left _ _
  · intro number turn event _ taken open_ member sizes refused
    obtain ⟨launched, reason, up, stuck, result⟩ :=
      stuck_of_refused taken open_ member sizes refused
    have empty := run.holds_scratch (number + 1)
    rw [stuck.scratch?_eq] at empty
    exact ⟨launched, reason, stuck, result, empty, stuck.frees_eq,
      numbers_of_stuck taken open_ up stuck⟩

end Run

namespace Sample

/-- An operation that asks for as many bytes of working memory as it has elements. -/
def sizedReduce (count : UInt64) : Operation := .allReduce ⟨1⟩ ⟨2⟩ count .float32 .sum

/-- A device has no sixteen bytes to give.  Four operations ask for eight, sixteen, four and two. -/
def strained : Run where
  config := (run .allReduce []).config
  env := .inOrder fun
    | _, .scratchBytes _ request => request.operation.count
    | history, .allocate use bytes =>
        if bytes = 16 then .error "no memory"
        else (Environment.obliging (algorithm .allReduce)).answer history (.allocate use bytes)
    | history, call => (Environment.obliging (algorithm .allReduce)).answer history call
  turns := [⟨0, .join (comm 1 0)⟩, ⟨0, .submit (sizedReduce 8) (comm 1 0) ⟨1⟩⟩,
    ⟨0, .submit (sizedReduce 16) (comm 1 0) ⟨2⟩⟩, ⟨0, .submit (sizedReduce 4) (comm 1 0) ⟨3⟩⟩,
    ⟨0, .submit (sizedReduce 2) (comm 1 0) ⟨4⟩⟩]

/-- The second operation fails and takes the buffer of the first one with it; the third one gets
another, on which the fourth one is launched too. -/
theorem strained_recovers :
    (strained.history 5).Sized ∧ strained.ScratchOnDemand 5 ∧
      (List.range 6).map (fun number => (strained.status number).scratchSize) =
        [0, 0, 8, 0, 4, 4] ∧
      (List.range 6).map (fun number => (strained.status number).workIndex) =
        [0, 1, 2, 2, 3, 4] := by
  have sized : (strained.history 5).Sized := by decide +kernel
  exact ⟨sized, Run.scratch_on_demand strained 5 sized, by decide +kernel, by decide +kernel⟩

end Sample

end Collective
