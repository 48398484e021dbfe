import Collective.Proofs.FirstJoin
import Collective.Proofs.Externals
import Collective.Proofs.Rejoin

/-!
# Who stays in charge

An external scheduler that was installed decides until somebody shuts down, unless a communicator
that joins first is refused the synchronisation flags.  Undoing that attempt gives back more than
the attempt has taken: the scheduler is stopped with it, and the next attempt looks for another.
-/

namespace Collective

open Procedure History

namespace Event

/-- A call for synchronisation flags that was refused. -/
def refusesFlags : Event → Bool
  | ⟨.allocate .syncFlags _, .error _⟩ => true
  | _ => false

/-- A call that neither looks for a scheduler or for algorithms, nor starts or stops a scheduler,
nor is refused the synchronisation flags. -/
def passive (event : Event) : Bool := !about [.catalog, .selector] event && !event.refusesFlags

theorem passive_iff {event : Event} : event.passive = true ↔
    about [.catalog, .selector] event = false ∧ event.refusesFlags = false := by
  simp [passive]

theorem passive_of_about {concerns : List Concern} {event : Event}
    (right : about concerns event = true)
    (apart : concerns.all
      (fun concern => !([.catalog, .selector, .flags].contains concern)) = true) :
    event.passive = true := by
  have other := List.all_eq_true.mp apart _ (List.contains_iff_mem.mp right)
  obtain ⟨call, answer⟩ := event
  cases call with
  | openDirectory | listDirectory | parse => cases other
  | openLibrary | startExternal | stopExternal => cases other
  | allocate use => cases use <;> first | rfl | cases other
  | free use => cases use <;> rfl
  | _ => rfl

end Event

namespace Machine

variable {env : Environment} {machine : Machine} {history : History} {config : Config}
variable {scheduler : External}

/-- An external scheduler is the selector, and nobody was sought, started, stopped or refused the
synchronisation flags. -/
def Retains (scheduler : External) (past : History) (machine : Machine) (now : History) : Prop :=
  machine.status.selector = some (.external scheduler) ∧ Only Event.passive past now

/-- The synchronisation flags were refused, for which an external scheduler was stopped and is
not the selector any more. -/
structure Relieves (scheduler : External) (past : History) (error : Error) (machine : Machine)
    (now : History) : Prop where
  unchosen : machine.status.selector = none
  closed : machine.status.ready = false
  refused : ∃ events reason code, now = events ++ past ∧ error = .collaborator reason ∧
    ⟨.allocate .syncFlags syncFlagBytes, .error reason⟩ ∈ events ∧
    ⟨.stopExternal scheduler, code⟩ ∈ events

/-- What is asked for the kernels of the device leaves an external scheduler in charge. -/
theorem Retains.kernels {after : Machine} {middle later : History}
    (granted : Only Event.passive history middle)
    (same : after.status.selector = some (.external scheduler))
    (made : Only (about [.kernels]) middle later) : Retains scheduler history after later := by
  obtain ⟨events, grown, kernels⟩ := made
  constructor
  · exact same
  · apply granted.trans
    exact ⟨events, grown, fun event member => Event.passive_of_about (kernels event member) rfl⟩

/-- The release that undoes a refusal of the flags stops the external scheduler with the rest. -/
theorem Relieves.of_released {status : Status} {after : Machine} {later : History}
    {reason : String}
    (released : status.Released (⟨.allocate .syncFlags syncFlagBytes, .error reason⟩ :: history)
      { after.status with ready := false } later)
    (chosen : status.selector = some (.external scheduler)) (down : after.status.ready = false) :
    Relieves scheduler history (.collaborator reason) after later := by
  obtain ⟨loaded, images, -, -, emptied, events, rfl, calls⟩ := released
  have stopped : ∃ event ∈ events, event.call = .stopExternal scheduler := by
    have last : Call.stopExternal scheduler ∈ Status.returning status := by
      simp [Status.returning, Status.stopping, chosen]
    have called := List.mem_append_right (Store.returning loaded images) last
    rw [← calls, List.mem_reverse] at called
    exact List.mem_map.mp called
  obtain ⟨⟨call, code⟩, member, same⟩ := stopped
  dsimp only at same
  subst same
  constructor
  · exact congrArg Status.selector emptied
  · exact down
  · refine ⟨events ++ [⟨.allocate .syncFlags syncFlagBytes, .error reason⟩], reason, code, ?_⟩
    simp [member]

/-- A communicator that joins before anything is up leaves an external scheduler in charge, or is
refused the synchronisation flags. -/
theorem ensures_joinDown_foreign (comm : Communicator) (down : machine.status.ready = false)
    (chosen : machine.status.selector = some (.external scheduler)) :
    (join config comm).Ensures env machine history (fun _ => Retains scheduler history)
      (fun error after later =>
        Retains scheduler history after later ∨ Relieves scheduler history error after later) := by
  rw [ensures_joinDown config comm down]
  dsimp only
  split
  next =>
    unfold Status.prepare Status.ensureSelector
    simp only [Status.channels, ensures_bind, ensures_get, ensures_pure, chosen, down,
      Bool.not_false, if_true, ensures_modify, reduceCtorEq, if_false,
      Status.ensures_startLaunches_iff]
    cases env.answer history (.allocate .syncFlags syncFlagBytes) with
    | ok flags =>
        have granted : Only Event.passive history
            (⟨.allocate .syncFlags syncFlagBytes, .ok flags⟩ :: history) := .cons rfl history
        apply ((ensures_adjustStack config comm).only (makes_adjustStack config comm)).mono
        · intro _ after later adjusted
          apply Retains.kernels granted _ adjusted.2
          rw [adjusted.1.1]
        · intro _ after later refused
          apply Or.inl
          apply Retains.kernels granted _ refused.2
          rw [refused.1.1.1]
    | error reason =>
        apply Status.ensures_release.mono
        · intro _ after later released
          exact .inr (.of_released released.1 rfl released.2)
        · intro _ after later released
          exact .inr (.of_released released.1 rfl released.2)
  next => exact ⟨chosen, .refl _ history⟩

/-- While all is up a communicator that joins asks an external scheduler nothing. -/
theorem ensures_joinUp_foreign (comm : Communicator) (coherent : machine.status.Coherent)
    (up : machine.status.ready = true)
    (chosen : machine.status.selector = some (.external scheduler)) :
    (join config comm).Ensures env machine history (fun _ => Retains scheduler history)
      (fun _ => Retains scheduler history) := by
  have foreign : machine.status.isExternal = true := by simp [Status.isExternal, chosen]
  rw [ensures_joinUp config comm coherent up]
  dsimp only
  rw [if_pos foreign]
  split
  · exact ⟨chosen, .refl _ history⟩
  · exact ⟨chosen, .refl _ history⟩

/-- An external scheduler that could be installed is the selector. -/
theorem ensures_installed (thread : ThreadId) (key : Nat) :
    (perform config thread (.install key)).Ensures env machine history
      (fun _ after _ => after.status.selector = some (.external (.installed key)))
      (fun _ _ _ => True) := by
  simp only [perform, onStatus, Status.install, ensures_bind, ensures_within, ensures_get,
    ensures_ite, ensures_throw, ensures_modify, ensures_pure]
  split
  · trivial
  · exact (External.ensures_start (.installed key)).weaken fun _ _ _ _ => trivial

/-- Nobody is installed where an external scheduler is the selector. -/
theorem ensures_install_foreign (thread : ThreadId) (key : Nat)
    (chosen : machine.status.selector = some (.external scheduler)) :
    (perform config thread (.install key)).Ensures env machine history
      (fun _ => Retains scheduler history) (fun _ => Retains scheduler history) := by
  simp only [perform, onStatus, Status.install, ensures_bind, ensures_within, ensures_get, chosen,
    Option.isSome_some, if_true, ensures_throw]
  exact ⟨chosen, .refl _ history⟩

/-- Commands that neither join nor shut down leave an external scheduler in charge. -/
theorem ensures_other_foreign (thread : ThreadId) (command : Command)
    (elsewise : ∀ comm, command ≠ .join comm) (open_ : command ≠ .shutDown)
    (chosen : machine.status.selector = some (.external scheduler)) :
    (perform config thread command).Ensures env machine history
      (fun _ => Retains scheduler history) (fun _ => Retains scheduler history) := by
  by_cases installs : ∃ key, command = .install key
  · obtain ⟨key, rfl⟩ := installs
    exact ensures_install_foreign thread key chosen
  · have apart : command.concerns.all
        (fun concern => !([.catalog, .selector, .flags].contains concern)) = true := by
      cases command with
      | install key => exact absurd ⟨key, rfl⟩ installs
      | join comm => exact absurd rfl (elsewise comm)
      | shutDown => exact absurd rfl open_
      | _ => rfl
    have stored {β : Type} (procedure : Procedure Store β) :
        (Status.onStore procedure).Keeps fun status _ =>
          status.core.1 = some (.external scheduler) := Status.keeps_selector_onStore procedure
    have kept := @keeps_core config thread (fun core => core.1 = some (.external scheduler)) command
      elsewise open_ (fun key same => absurd ⟨key, same⟩ installs) ?_ (fun _ _ _ => stored _)
    · have made := (makes_perform config thread command).mono
        fun event right => Event.passive_of_about right apart
      exact (kept env machine history chosen).only made
    · exact fun file rank _ => Status.keeps_load (stored _)

/-- An external scheduler stays in charge until somebody shuts down, unless a communicator that
joins is refused the synchronisation flags. -/
theorem ensures_perform_foreign (thread : ThreadId) (command : Command)
    (open_ : command ≠ .shutDown) (coherent : machine.status.Coherent)
    (chosen : machine.status.selector = some (.external scheduler)) :
    (perform config thread command).Ensures env machine history
      (fun _ => Retains scheduler history)
      (fun error after later => Retains scheduler history after later ∨
        (∃ comm, command = .join comm) ∧ Relieves scheduler history error after later) := by
  by_cases joins : ∃ comm, command = .join comm
  · obtain ⟨comm, rfl⟩ := joins
    simp only [perform, ensures_bind, ensures_pure]
    cases up : machine.status.ready with
    | true =>
        apply (ensures_joinUp_foreign comm coherent up chosen).mono
        · exact fun _ _ _ retained => retained
        · exact fun _ _ _ retained => .inl retained
    | false =>
        apply (ensures_joinDown_foreign comm up chosen).mono
        · exact fun _ _ _ retained => retained
        · exact fun _ _ _ either => either.imp_right fun relieved => ⟨⟨comm, rfl⟩, relieved⟩
  · have elsewise (comm : Communicator) : command ≠ .join comm := fun same => joins ⟨comm, same⟩
    apply (ensures_other_foreign thread command elsewise open_ chosen).mono
    · exact fun _ _ _ retained => retained
    · exact fun _ _ _ retained => .inl retained

end Machine

namespace Run

variable {run : Run} {scheduler : External} {first number last : Nat}

/-- An external scheduler is in charge from one scene to another: it is the selector in every
scene, nobody else is asked to select, nobody is started or stopped, and no library and no
directory is looked for. -/
structure InCharge (run : Run) (scheduler : External) (first last : Nat) : Prop where
  selects : ∀ number, first ≤ number → number ≤ last →
    (run.status number).selector = some (.external scheduler)
  asked : ∀ other block asCaller verdict,
    ⟨.selectExternal other block asCaller, verdict⟩ ∈ run.between first last → other = scheduler
  sought : ∀ event ∈ run.between first last, about [.catalog, .selector] event = false

/-- The synchronisation flags were refused to nobody. -/
def Granted (run : Run) (first last : Nat) : Prop :=
  ∀ event ∈ run.between first last, event.refusesFlags = false

/-- A communicator that joins is refused the synchronisation flags, for which an external
scheduler is stopped and replaced by nobody. -/
structure Dismisses (run : Run) (scheduler : External) (number : Nat) : Prop where
  refused : ∃ thread comm reason, run.turns[number]? = some ⟨thread, .join comm⟩ ∧
    (run.outcome (run.scene number) ⟨thread, .join comm⟩).result = .error (.collaborator reason) ∧
    ⟨.allocate .syncFlags syncFlagBytes, .error reason⟩ ∈ run.between number (number + 1)
  stopped : ∃ code, ⟨.stopExternal scheduler, code⟩ ∈ run.between number (number + 1)
  unchosen : (run.status (number + 1)).selector = none
  closed : (run.status (number + 1)).ready = false

/-- A turn without a shutdown leaves an external scheduler in charge, or dismisses it. -/
theorem retains_or_dismisses (steady : run.Steady number (number + 1))
    (chosen : (run.status number).selector = some (.external scheduler)) :
    ((run.status (number + 1)).selector = some (.external scheduler) ∧
      ∀ event ∈ run.between number (number + 1), event.passive = true) ∨
    run.Dismisses scheduler number := by
  cases taken : run.turns[number]? with
  | none =>
      rw [status_past_end taken, @between_of_append run number (number + 1) []
        (history_past_end taken)]
      exact .inl ⟨chosen, by simp⟩
  | some turn =>
      have open_ := steady number turn le_rfl (Nat.lt_succ_self number) taken
      have ensured := @Machine.ensures_perform_foreign run.env (run.scene number).machine
        (run.history number) run.config scheduler turn.thread turn.command open_
        (run.settled number).1 chosen
      have retained (retains : Machine.Retains scheduler (run.history number)
          (run.scene (number + 1)).machine (run.history (number + 1))) :
          (run.status (number + 1)).selector = some (.external scheduler) ∧
            ∀ event ∈ run.between number (number + 1), event.passive = true := by
        obtain ⟨same, events, grown, passive⟩ := retains
        rw [between_of_append grown]
        exact ⟨same, passive⟩
      cases ended : (run.outcome (run.scene number) turn).result with
      | ok reply => exact .inl (retained (after_reply ensured taken ended))
      | error error =>
          rcases after_error ensured taken ended with retains | ⟨⟨comm, joins⟩, relieves⟩
          · exact .inl (retained retains)
          · obtain ⟨unchosen, closed, events, reason, code, grown, rfl, refused, stopped⟩ :=
              relieves
            obtain ⟨thread, command⟩ := turn
            dsimp only at joins
            subst joins
            rw [← between_of_append grown] at refused stopped
            exact .inr ⟨⟨thread, comm, reason, taken, ended, refused⟩, ⟨code, stopped⟩, unchosen,
              closed⟩

/-- An external scheduler is in charge for one more turn, if that is passive. -/
theorem InCharge.step (before : run.InCharge scheduler first number) (order : first ≤ number)
    (same : (run.status (number + 1)).selector = some (.external scheduler))
    (passive : ∀ event ∈ run.between number (number + 1), event.passive = true) :
    run.InCharge scheduler first (number + 1) := by
  have parts := @between_append run first number (number + 1) order (Nat.le_succ number)
  constructor
  · intro reached above below
    rcases Nat.of_le_succ below with earlier | rfl
    · exact before.selects reached above earlier
    · exact same
  · intro other block asCaller verdict asked
    rw [parts] at asked
    rcases List.mem_append.mp asked with now | earlier
    · have selects := (selector_of_asked now).symm.trans (before.selects number order le_rfl)
      cases selects
      rfl
    · exact before.asked other block asCaller verdict earlier
  · intro event member
    rw [parts] at member
    rcases List.mem_append.mp member with now | earlier
    · exact (Event.passive_iff.mp (passive event now)).1
    · exact before.sought event earlier

/-- Until somebody shuts down an external scheduler is in charge and nobody is refused the
synchronisation flags, or some turn dismisses it. -/
theorem inCharge_or_dismissed (steady : run.Steady first last)
    (chosen : (run.status first).selector = some (.external scheduler)) (order : first ≤ last) :
    (run.InCharge scheduler first last ∧ run.Granted first last) ∨
    ∃ number, first ≤ number ∧ number < last ∧ run.InCharge scheduler first number ∧
      run.Dismisses scheduler number := by
  induction last, order using Nat.le_induction with
  | base =>
      have nothing : run.between first first = [] := between_of_append rfl
      refine .inl ⟨⟨?_, ?_, ?_⟩, ?_⟩
      · intro number above below
        rw [Nat.le_antisymm below above]
        exact chosen
      · simp [nothing]
      · simp [nothing]
      · simp [Granted, nothing]
  | succ last order ih =>
      rcases ih (steady.mono le_rfl (Nat.le_succ last)) with
        ⟨charged, granted⟩ | ⟨number, above, below, rest⟩
      · rcases retains_or_dismisses (steady.mono order le_rfl)
          (charged.selects last order le_rfl) with ⟨same, passive⟩ | dismisses
        · refine .inl ⟨charged.step order same passive, ?_⟩
          intro event member
          rw [between_append order (Nat.le_succ last)] at member
          rcases List.mem_append.mp member with now | earlier
          · exact (Event.passive_iff.mp (passive event now)).2
          · exact granted event earlier
        · exact .inr ⟨last, order, Nat.lt_succ_self last, charged, dismisses⟩
      · exact .inr ⟨number, above, Nat.lt_succ_of_lt below, rest⟩

/-- Once it is dismissed an external scheduler is not in charge any more, and somebody was refused
the synchronisation flags. -/
theorem Dismisses.ends (dismisses : run.Dismisses scheduler number) (above : first ≤ number)
    (below : number < last) : ¬ run.InCharge scheduler first last ∧ ¬ run.Granted first last := by
  constructor
  · intro charged
    have chosen := charged.selects (number + 1) (Nat.le_succ_of_le above) below
    rw [dismisses.unchosen] at chosen
    cases chosen
  · intro granted
    obtain ⟨thread, comm, reason, _, _, refused⟩ := dismisses.refused
    have member : ⟨.allocate .syncFlags syncFlagBytes, .error reason⟩ ∈ run.between first last := by
      rw [between_append above (Nat.le_of_lt below), between_append (Nat.le_succ number) below]
      simp [refused]
    cases granted _ member

/-- From its installation until somebody shuts down an external scheduler is in charge, whoever
joins, submits, loads and connects and whatever else fails, exactly if no communicator that joins
is refused the synchronisation flags.  The first that is refused them dismisses the scheduler:
it is stopped, and nobody is the selector when that turn ends. -/
theorem in_charge_until_refused {thread : ThreadId} {key : Nat}
    (taken : run.turns[first]? = some ⟨thread, .install key⟩)
    (installed : (run.outcome (run.scene first) ⟨thread, .install key⟩).result = .ok .done)
    (order : first < last) (steady : run.Steady (first + 1) last) :
    (run.InCharge (.installed key) (first + 1) last ↔ run.Granted (first + 1) last) ∧
    (¬ run.InCharge (.installed key) (first + 1) last →
      ∃ number, first < number ∧ number < last ∧
        run.InCharge (.installed key) (first + 1) number ∧
        run.Dismisses (.installed key) number) := by
  have chosen : (run.status (first + 1)).selector = some (.external (.installed key)) :=
    after_reply (Machine.ensures_installed thread key) taken installed
  rcases inCharge_or_dismissed steady chosen order with
    ⟨charged, granted⟩ | ⟨number, above, below, charged, dismisses⟩
  · exact ⟨⟨fun _ => granted, fun _ => charged⟩, fun lost => absurd charged lost⟩
  · obtain ⟨lost, refused⟩ := dismisses.ends above below
    exact ⟨⟨fun charged => absurd charged lost, fun granted => absurd granted refused⟩,
      fun _ => ⟨number, above, below, charged, dismisses⟩⟩

end Run

namespace Sample

/-- An external scheduler is installed, and a communicator joins twice.  At first the
synchronisation flags are refused. -/
def impatient : Run where
  config := (run .allReduce []).config
  env := .inOrder fun
    | [⟨.startExternal _, _⟩], .allocate .syncFlags _ => .error "out of memory"
    | history, call => (Environment.obliging (algorithm .allReduce)).answer history call
  turns := [⟨0, .install 0⟩, ⟨0, .join (comm 1 0)⟩, ⟨0, .join (comm 1 0)⟩]

/-- The scheduler that was installed is in charge until the first attempt, and then the catalog
is. -/
theorem replaced_by_catalog :
    impatient.InCharge (.installed 0) 1 1 ∧ ¬ impatient.InCharge (.installed 0) 1 3 ∧
    impatient.Dismisses (.installed 0) 1 ∧ (impatient.status 3).selector = some .internal := by
  have installed :
      (impatient.outcome (impatient.scene 0) ⟨0, .install 0⟩).result = .ok .done := by
    decide +kernel
  have steady : impatient.Steady 1 3 := by decide +kernel
  have refused : ¬ impatient.Granted 1 3 := by
    unfold Run.Granted
    decide +kernel
  have internal : (impatient.status 3).selector = some .internal := by decide +kernel
  obtain ⟨charged, dismissed⟩ :=
    @Run.in_charge_until_refused impatient 0 3 0 0 rfl installed (by decide) steady
  have lost : ¬ impatient.InCharge (.installed 0) 1 3 := fun stays => refused (charged.mp stays)
  obtain ⟨number, above, below, before, dismisses⟩ := dismissed lost
  -- After the second attempt somebody is the selector, so it was the first that failed.
  have first : number ≠ 2 := by
    intro second
    have unchosen := dismisses.unchosen
    rw [second, internal] at unchosen
    cases unchosen
  obtain rfl : number = 1 := by omega
  exact ⟨before, lost, dismisses, internal⟩

end Sample

end Collective
