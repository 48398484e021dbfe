import Collective.Proofs.Run

/-!
# All is up, or nothing is

Between two commands the status is up, with all that launches need, or it is empty.  So a
first attempt to bring it up loses nothing: `Status.prepareChecked` refuses to make slots
free while one is in use and to replace a buffer that is held, and it differs from
`Status.prepare` nowhere.
-/

namespace Collective

open Procedure History

namespace Procedure

variable {S α β : Type} {env : Environment} {state : S} {history : History}

/-- Ends with an error unless the state passes a check. -/
def require (fault : Error) (check : S → Bool) : Procedure S Unit := do
  if !check (← get) then throw fault

/-- A check that is passed does nothing. -/
theorem run_require_bind {check : S → Bool} (passes : check state = true) (fault : Error)
    (next : Procedure S β) :
    (require fault check >>= fun _ => next).run env state history =
      next.run env state history := by
  unfold require
  rw [run_bind, run_bind, run_get]
  simp [passes]

/-- What goes on alike wherever a procedure ends is alike. -/
theorem run_bind_congr {first : Procedure S α} {next other : α → Procedure S β}
    {bad : Error → S → History → Prop}
    (alike : first.Ensures env state history (fun value after later =>
      (next value).run env after later = (other value).run env after later) bad) :
    (first >>= next).run env state history = (first >>= other).run env state history := by
  rw [run_bind, run_bind]
  unfold Ensures at alike
  rcases outcome : first.run env state history with ⟨error | value, after, later⟩
  · rfl
  · rw [outcome] at alike
    exact alike

end Procedure

namespace Status

variable {env : Environment} {status : Status} {history : History}

/-- No slot is in use. -/
def idle (status : Status) : Bool := status.store.loaded.size == 0

/-- Neither of the buffers that all launches share is held. -/
def unheld (status : Status) : Bool := status.scratch.isNone && status.syncFlags.isNone

/-- `prepare`, but with an error where it would make the slots free while one is in use, or
replace a buffer that is held. -/
def prepareChecked (fault : Error) (config : Config) (comm : Communicator) :
    Procedure Status UInt32 := do
  let selector ← ensureSelector config
  let needed ← channels config comm selector
  let ready := (← get).ready
  if !ready then
    Procedure.require fault idle
    modify fun status => { status with store := status.store.refill }
  if selector = .internal then
    let catalog := (← get).catalog
    onStore (Store.prepare catalog comm)
  if !ready then
    Procedure.require fault unheld
    startLaunches
  return needed

/-- A procedure on the store changes only the store. -/
theorem ensures_onStore {α : Type} (procedure : Procedure Store α) :
    (onStore procedure).Ensures env status history
      (fun _ after _ => ∃ store, after = { status with store })
      (fun _ after _ => ∃ store, after = { status with store }) := by
  unfold onStore
  rw [ensures_within]
  unfold Ensures
  split
  · exact ⟨_, rfl⟩
  · exact ⟨_, rfl⟩

/-- No first attempt makes slots free while one is in use, or replaces a buffer that is
held. -/
theorem run_prepareChecked (settled : status.Settled) (fault : Error) (config : Config)
    (comm : Communicator) :
    (prepareChecked fault config comm).run env status history =
      (prepare config comm).run env status history := by
  unfold prepareChecked prepare
  apply run_bind_congr
  apply (ensures_ensureSelector config).mono
  · rintro selector first _ ⟨toFirst, firstChosen, firstStore, firstReady⟩
    apply run_bind_congr
    apply (ensures_channels config comm selector firstChosen).mono
    · rintro needed second past ⟨toSecond, _, _, _, secondStore, secondReady⟩
      have coherent := growing_coherent (toFirst.trans toSecond) settled.1
      rw [run_bind, run_bind, run_get]
      dsimp only
      cases ready : second.ready with
      | true => rfl
      | false =>
          simp only [Bool.not_false, if_true]
          have dormant := settled.2 (firstReady.symm.trans (secondReady.symm.trans ready))
          have unused : second.idle = true := by
            unfold idle
            rw [secondStore, firstStore, dormant.store.loaded]
            rfl
          have spare (store : Store) : unheld { second with store } = true := by
            simp [unheld, coherent.scratch ready, coherent.flagless ready]
          rw [run_require_bind unused, run_bind, run_bind, run_modify]
          dsimp only
          split
          next =>
            rw [run_bind, run_bind, run_get]
            apply run_bind_congr
            apply (ensures_onStore _).mono
            · rintro _ _ _ ⟨store, rfl⟩
              exact run_require_bind (spare store) fault _
            · exact fun _ _ _ _ => trivial
          next => exact run_require_bind (spare _) fault _
    · exact fun _ _ _ _ => trivial
  · exact fun _ _ _ _ => trivial

end Status

namespace Run

/-- In every scene of every run, whatever fails: launches are possible exactly if the
synchronisation flags are held; where they are, somebody selects, and the catalog is
filled exactly if the catalog decides; where they are not, nothing is loaded, recorded,
connected, held or listed, and nobody selects but an installed external scheduler.  So no
first attempt makes the slots free while one is in use, or replaces a buffer that is
held. -/
theorem all_or_nothing (run : Run) (number : Nat) :
    ((run.status number).ready = true ↔ (run.status number).syncFlags.isSome = true) ∧
    ((run.status number).ready = true →
      (run.status number).selector.isSome = true ∧
      ((run.status number).catalog.loaded = true ↔
        (run.status number).selector = some .internal)) ∧
    ((run.status number).ready = false →
      (run.status number).store.Vacant ∧ (run.status number).scratch = none ∧
      (run.status number).syncFlags = none ∧ (run.status number).lastStream = none ∧
      (run.status number).catalog.loaded = false ∧
      ((run.status number).selector = none ∨
        ∃ key, (run.status number).selector = some (.external (.installed key)))) ∧
    ∀ fault comm,
      (Status.prepareChecked fault run.config comm).run run.env (run.status number)
          (run.history number) =
        (Status.prepare run.config comm).run run.env (run.status number)
          (run.history number) := by
  obtain ⟨coherent, dormant⟩ := run.settled number
  refine ⟨by rw [coherent.flags], ?_, ?_, ?_⟩
  · intro ready
    refine ⟨coherent.chosen ready, ?_, coherent.listed ready⟩
    intro listed
    by_contra foreign
    rw [coherent.foreign foreign] at listed
    cases listed
  · intro closed
    obtain ⟨_, store, scratch, syncFlags, lastStream, catalog, selector⟩ := dormant closed
    exact ⟨store, scratch, syncFlags, lastStream, by rw [catalog], selector⟩
  · intro fault comm
    exact Status.run_prepareChecked (run.settled number) fault run.config comm

end Run

end Collective
