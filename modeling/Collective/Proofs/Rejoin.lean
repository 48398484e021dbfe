import Collective.Proofs.Connections
import Collective.Proofs.Frame
import Collective.Proofs.Lifecycle
import Collective.Proofs.Period

/-!
# Joining while all is up

While all is up nothing is discovered, filled or started again: a communicator that joins is
given algorithms and connections where the catalog decides, and nothing where an external
scheduler does.  One that has joined before is given nothing at all.
-/

namespace Collective

open Procedure History

namespace Status

variable {env : Environment} {status : Status} {history : History}
variable {good : UInt32 → Status → History → Prop} {bad : Error → Status → History → Prop}

/-- While all is up a preparation discovers and starts nothing. -/
theorem ensures_prepareUp (config : Config) (comm : Communicator) (coherent : status.Coherent)
    (up : status.ready = true) :
    (prepare config comm).Ensures env status history good bad ↔
      if status.isExternal then good maxChannels status history
      else (Store.prepare status.catalog comm).Ensures env status.store history
        (fun _ store => good (status.catalog.channelsFor comm.numRanks) { status with store })
        (fun error store => bad error { status with store }) := by
  obtain ⟨selector, chosen⟩ := Option.isSome_iff_exists.mp (coherent.chosen up)
  unfold prepare ensureSelector
  rw [ensures_bind, ensures_bind, ensures_get, chosen]
  cases selector with
  | external scheduler =>
      have foreign : status.isExternal = true := by simp [isExternal, chosen]
      simp [channels, up, foreign]
  | internal =>
      have decides : status.isExternal = false := by simp [isExternal, chosen]
      have listed := coherent.listed up chosen
      simp only [channels, onCatalog, Catalog.discover, onStore, ensures_bind, ensures_within,
        ensures_get, ensures_ite, ensures_pure, listed, chosen, up, decides, if_true,
        Bool.not_true, Bool.false_eq_true, if_false]

/-- Once a selector is chosen and the catalog is filled, a preparation changes neither, and it
ends with the number of channels that was found. -/
theorem ensures_prepareLast (selector : Selector) (comm : Communicator) (needed : UInt32) :
    Ensures (do
        let ready := (← get).ready
        if !ready then modify fun status => { status with store := status.store.refill }
        if selector = .internal then
          let catalog := (← get).catalog
          onStore (Store.prepare catalog comm)
        if !ready then startLaunches
        return needed) env status history
      (fun value after _ => value = needed ∧ after.selector = status.selector ∧
        after.catalog = status.catalog)
      (fun _ _ _ => True) := by
  have serve {rest : Procedure Status UInt32} {status : Status}
      (ensured : ∀ store history, rest.Ensures env { status with store } history
        (fun value after _ => value = needed ∧ after.selector = status.selector ∧
          after.catalog = status.catalog) (fun _ _ _ => True)) :
      Ensures (do
          if selector = .internal then
            let catalog := (← get).catalog
            onStore (Store.prepare catalog comm)
          rest) env status history
        (fun value after _ => value = needed ∧ after.selector = status.selector ∧
          after.catalog = status.catalog) (fun _ _ _ => True) := by
    simp only [ensures_ite, ensures_bind, ensures_get]
    split
    · apply (ensures_onStore _).weaken
      rintro _ _ later ⟨store, rfl⟩
      exact ensured store later
    · exact ensured status.store history
  rw [ensures_bind, ensures_get]
  cases status.ready with
  | true => exact serve fun _ _ => ⟨rfl, rfl, rfl⟩
  | false =>
      refine serve fun store later => ?_
      simp only [Bool.not_false, if_true, ensures_bind, ensures_pure, ensures_startLaunches_iff]
      cases env.answer later (.allocate .syncFlags syncFlagBytes) with
      | ok flags => exact ⟨trivial, trivial, trivial⟩
      | error reason => trivial

/-- Where an external scheduler decides, every communicator needs as many channels as one can
have. -/
theorem ensures_prepareForeign (config : Config) (comm : Communicator) :
    (prepare config comm).Ensures env status history
      (fun needed after _ => after.isExternal = true → needed = maxChannels)
      (fun _ _ _ => True) := by
  unfold prepare
  rw [ensures_bind]
  apply (ensures_ensureSelector config).weaken
  rintro selector middle past ⟨-, chosen, -, -⟩
  rw [ensures_bind]
  cases selector with
  | external scheduler =>
      apply (ensures_prepareLast (.external scheduler) comm maxChannels).weaken
      exact fun _ _ _ ended _ => ended.1
  | internal =>
      apply (ensures_channels config comm .internal chosen).weaken
      rintro needed _ _ ⟨-, -, -, still, -, -⟩
      apply (ensures_prepareLast .internal comm needed).weaken
      rintro _ _ _ ⟨-, same, -⟩ foreign
      rw [isExternal, same, still] at foreign
      cases foreign

/-- What a preparation that succeeds ensures, bringing a status up ensures where it succeeds. -/
theorem ensures_bringUp_of_prepare {config : Config} {comm : Communicator}
    (prepared : (prepare config comm).Ensures env status history good (fun _ _ _ => True)) :
    (bringUp config comm).Ensures env status history good (fun _ _ _ => True) := by
  unfold bringUp
  rw [ensures_bind, ensures_get, ensures_ite]
  split
  · exact prepared
  · rw [ensures_tryCatch]
    apply prepared.mono
    · exact fun _ _ _ ended => ended
    · intro error failed past _
      rw [ensures_bind]
      exact (Keeps.always True release.attempt env failed past trivial).weaken
        fun _ _ _ _ => trivial

end Status

namespace Machine

variable {env : Environment} {machine : Machine} {history : History}
variable {good : UInt32 → Machine → History → Prop} {bad : Error → Machine → History → Prop}

/-- While all is up a communicator that joins is given algorithms and connections only. -/
theorem ensures_joinUp (config : Config) (comm : Communicator)
    (coherent : machine.status.Coherent) (up : machine.status.ready = true) :
    (join config comm).Ensures env machine history good bad ↔
      let marked := machine.mark comm (fit config comm)
      if fit config comm then
        if machine.status.isExternal then good maxChannels marked history
        else (Store.prepare machine.status.catalog comm).Ensures env machine.status.store history
          (fun _ store => good (machine.status.catalog.channelsFor comm.numRanks)
            { marked with status := { machine.status with store } })
          (fun error store => bad error
            { marked with status := { machine.status with store } })
      else good 0 marked history := by
  have same : (machine.mark comm (fit config comm)).status = machine.status := rfl
  unfold join onStatus Status.bringUp
  simp only [ensures_bind, ensures_modify, ensures_ite, ensures_pure, ensures_get,
    ensures_within, same, up, if_true, Bool.not_true, Bool.false_eq_true, if_false,
    Status.ensures_prepareUp config comm coherent up]
  cases fit config comm with
  | true => rfl
  | false => rfl

end Machine

/-! ## Communicators that have joined -/

namespace Store

variable {env : Environment} {store : Store} {history : History}

/-- What is connected is not connected again. -/
theorem run_connect_of_linked {handle : Handle} {comm : Communicator}
    (linked : store.isConnected comm.id handle = true) :
    (connect handle comm).run env store history = ⟨.ok (), store, history⟩ := by
  apply Ensures.run_eq
  unfold connect
  rw [ensures_bind, ensures_get]
  simp [linked]

theorem run_assign_of_recorded {index : Nat} {metadata : Metadata} {rank : UInt64}
    {handle : Handle} (recorded : store.handle? index rank = some handle) :
    (assign index metadata rank).run env store history = ⟨.ok handle, store, history⟩ := by
  apply Ensures.run_eq
  unfold assign
  rw [ensures_bind, ensures_get, recorded]
  simp

/-- A communicator that is served is given nothing. -/
theorem run_prepareFrom_of_serves {comm : Communicator} {index : Nat} {entries : List Metadata}
    (serves : store.ServesFrom comm index entries) :
    (prepareFrom comm index entries).run env store history = ⟨.ok (), store, history⟩ := by
  induction entries generalizing index with
  | nil => rfl
  | cons entry others ih =>
      have rest := ih serves.tail
      unfold prepareFrom
      split
      next sized =>
        obtain ⟨handle, recorded, linked⟩ := serves 0 entry rfl sized
        rw [Nat.add_zero] at recorded
        rw [run_bind, run_assign_of_recorded recorded]
        dsimp only
        rw [run_bind, run_connect_of_linked linked]
        exact rest
      next => exact rest

end Store

namespace Machine

section Mark

variable {α : Type} {config : Config} {comm : Communicator}

/-- A communicator is marked as the configuration and its peers demand. -/
def Marked (config : Config) (comm : Communicator) (machine : Machine) (_ : History) : Prop :=
  machine.compatible comm = fit config comm

theorem keeps_mark_onStatus (procedure : Procedure Status α) :
    (onStatus procedure).Keeps (Marked config comm) :=
  .within (fun _ => rfl) fun machine =>
    .always (machine.compatible comm = fit config comm) procedure

theorem keeps_mark_onBehalf (thread : ThreadId) (procedure : Bool → Procedure Status α) :
    (onBehalf thread procedure).Keeps (Marked config comm) :=
  .bind .get fun _ => keeps_mark_onStatus _

theorem keeps_mark_onThread (thread : ThreadId) (procedure : Procedure Thread α) :
    (onThread thread procedure).Keeps (Marked config comm) :=
  .within (fun _ => setThread_eta) fun machine =>
    .always (machine.compatible comm = fit config comm) procedure

theorem keeps_mark_join (other : Communicator) :
    (join config other).Keeps (Marked config comm) := by
  refine .bind (.modify ?_) fun _ => ?_
  · intro machine history before
    show (if comm = other then fit config other else machine.compatible comm) = fit config comm
    split
    next same => rw [same]
    next => exact before
  · split
    · exact .pure _
    · refine .bind .get fun machine => .bind (keeps_mark_onStatus _) fun channels => ?_
      split
      · refine .bind ?_ fun _ => .pure _
        exact fun env state history before =>
          (ensures_adjustStack config other).mono (fun _ _ _ asked => asked.1 ▸ before)
            (fun _ _ _ asked => asked.1.1 ▸ before)
      · exact .pure _

/-- No command changes the mark of a communicator that has joined. -/
theorem keeps_mark (thread : ThreadId) (command : Command) :
    (perform config thread command).Keeps (Marked config comm) := by
  cases command with
  | install | load | connect => exact .bind (keeps_mark_onStatus _) fun _ => .pure _
  | select => exact .bind (keeps_mark_onBehalf thread _) fun _ => .pure _
  | join other => exact .bind (keeps_mark_join other) fun _ => .pure _
  | shutDown =>
      refine .bind (.bind (keeps_mark_onThread thread _) fun _ => ?_) fun _ => .pure _
      exact keeps_mark_onStatus _
  | closeGroup =>
      refine .bind (keeps_closeGroup (keeps_mark_onThread thread _) ?_) fun _ => .pure _
      exact fun operations => keeps_mark_onBehalf thread _
  | submit operation other stream =>
      refine .bind (keeps_submit operation other stream ?_ ?_ ?_ ?_ ?_) fun _ => .pure _
      · exact fun request => keeps_mark_onBehalf thread _
      · exact fun pending handle => keeps_mark_onBehalf thread _
      · exact fun _ => keeps_mark_onThread thread _
      · exact keeps_mark_onThread thread _
      · exact fun pending => keeps_mark_onThread thread _
  | openGroup | setCaller | clearCaller | pushGuard | popGuard =>
      exact .bind (keeps_mark_onThread thread _) fun _ => .pure _

end Mark

end Machine

namespace Machine

variable {env : Environment} {machine : Machine} {history : History}
variable {config : Config} {comm : Communicator}

/-- A communicator that has joined is marked, and where it is unfit or an external scheduler
decides its number of channels is fixed. -/
theorem ensures_joined :
    (join config comm).Ensures env machine history
      (fun needed after later => Marked config comm after later ∧
        (fit config comm = false → needed = 0) ∧
        (fit config comm = true → after.status.isExternal = true → needed = maxChannels))
      (fun _ _ _ => True) := by
  have marked (status : Status) : Marked config comm
      { machine.mark comm (fit config comm) with status } history := if_pos rfl
  unfold join onStatus
  simp only [ensures_bind, ensures_modify, ensures_ite, ensures_pure, ensures_get, ensures_within]
  split
  next unfit =>
    have off : fit config comm = false := by simpa using unfit
    exact ⟨marked machine.status, fun _ => trivial, fun fits => by simp [off] at fits⟩
  next fits =>
    have on : fit config comm = true := by simpa using fits
    apply (Status.ensures_bringUp_of_prepare (Status.ensures_prepareForeign config comm)).weaken
    rintro needed status past foreign
    have joined : Marked config comm { machine.mark comm (fit config comm) with status } past ∧
        (fit config comm = false → needed = 0) ∧
        (fit config comm = true → status.isExternal = true → needed = maxChannels) :=
      ⟨marked status, fun off => by simp [off] at on, fun _ => foreign⟩
    split
    · apply (ensures_adjustStack config comm).weaken
      rintro _ _ _ ⟨rfl, _⟩
      exact joined
    · exact joined

/-- To mark a communicator again changes nothing. -/
theorem mark_eq_self (marked : Marked config comm machine history) :
    machine.mark comm (fit config comm) = machine := by
  obtain ⟨status, threads, compatible⟩ := machine
  have same : (fun other => if other = comm then fit config comm else compatible other) =
      compatible := by
    funext other
    split
    next equal => rw [equal, ← marked]
    next => rfl
  simp [mark, same]

end Machine

namespace Run

variable {run : Run} {comm : Communicator} {joining number : Nat}

/-- A communicator that has joined is marked then, and where it is unfit or an external scheduler
decides its number of channels is fixed. -/
theorem marked_of_join {thread : ThreadId} {channels : UInt32}
    (taken : run.turns[joining]? = some ⟨thread, .join comm⟩)
    (joined : (run.outcome (run.scene joining) ⟨thread, .join comm⟩).result =
      .ok (.channels channels)) :
    Machine.Marked run.config comm (run.scene (joining + 1)).machine (run.history (joining + 1)) ∧
      (Machine.fit run.config comm = false → channels = 0) ∧
      (Machine.fit run.config comm = true → (run.status (joining + 1)).isExternal = true →
        channels = maxChannels) := by
  have ensured : (Machine.perform run.config thread (.join comm)).Ensures run.env
      (run.scene joining).machine (run.history joining)
      (fun reply after later => ∀ needed, reply = .channels needed →
        Machine.Marked run.config comm after later ∧
        (Machine.fit run.config comm = false → needed = 0) ∧
        (Machine.fit run.config comm = true → after.status.isExternal = true →
          needed = maxChannels))
      (fun _ _ _ => True) := by
    simp only [Machine.perform, ensures_bind, ensures_pure]
    apply Machine.ensures_joined.weaken
    rintro _ _ _ ended needed same
    cases same
    exact ended
  exact after_reply ensured taken joined channels rfl

/-- A communicator that has joined stays marked. -/
theorem stays_marked {thread : ThreadId} {channels : UInt32} (order : joining < number)
    (taken : run.turns[joining]? = some ⟨thread, .join comm⟩)
    (joined : (run.outcome (run.scene joining) ⟨thread, .join comm⟩).result =
      .ok (.channels channels)) :
    Machine.Marked run.config comm (run.scene number).machine (run.history number) :=
  keeps_of_commands Machine.keeps_mark (marked_of_join taken joined).1 order

/-- A communicator that has joined is given nothing when it joins again, until somebody shuts
down: it gets the same answer, nobody is called, and all stays as it is. -/
theorem join_again {thread : ThreadId} {channels : UInt32} (order : joining < number)
    (taken : run.turns[joining]? = some ⟨thread, .join comm⟩)
    (joined : (run.outcome (run.scene joining) ⟨thread, .join comm⟩).result =
      .ok (.channels channels))
    (steady : run.Steady (joining + 1) number) (other : ThreadId) :
    run.outcome (run.scene number) ⟨other, .join comm⟩ =
      ⟨.ok (.channels channels), (run.scene number).machine, run.history number⟩ := by
  obtain ⟨-, unfit, foreign⟩ := marked_of_join taken joined
  have marked := stays_marked order taken joined
  have same := Machine.mark_eq_self marked
  apply Ensures.run_eq
  simp only [Machine.perform, ensures_bind, ensures_pure]
  cases fits : Machine.fit run.config comm with
  | false =>
      rw [fits] at same
      refine .of_run_eq (Machine.run_join_unfit fits) ⟨?_, same, rfl⟩
      rw [unfit fits]
  | true =>
      rw [fits] at same
      obtain ⟨up, hosts⟩ := hosts_of_join fits taken joined
      obtain ⟨still, extended⟩ := stays_up steady up order
      have selected := extended.selector ((run.settled (joining + 1)).1.chosen up)
      rw [Machine.ensures_joinUp run.config comm (run.settled number).1 still]
      dsimp only
      rw [if_pos fits, fits, same]
      split
      next external =>
        have before : (run.status (joining + 1)).isExternal = true := by
          unfold Status.isExternal
          rw [← selected]
          exact external
        rw [foreign fits before]
        exact ⟨rfl, rfl, rfl⟩
      next internal =>
        have decides : (run.status number).isExternal = false := Bool.eq_false_iff.mpr internal
        have through : run.Steady joining number := by
          intro reached turn above below next
          rcases Nat.eq_or_lt_of_le above with rfl | later
          · rw [taken] at next
            cases next
            simp
          · exact steady reached turn later below next
        obtain ⟨_, _, hosted⟩ := stays_hosted fits taken joined order through decides
        have serves : (run.status number).store.ServesFrom comm 0
            (run.status number).catalog.algorithms := by
          intro offset metadata found ranks
          rw [Nat.zero_add]
          exact hosted.serves found ranks
        have nothing := @Store.run_prepareFrom_of_serves run.env _ (run.history number) _ _ _ serves
        refine .of_run_eq nothing ⟨?_, ?_, ?_⟩
        · rw [← hosted.channels]
          rfl
        · rfl
        · rfl

end Run

end Collective
