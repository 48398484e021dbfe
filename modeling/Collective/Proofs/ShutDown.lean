import Collective.Proofs.Run

/-!
# Shutting down

A shutdown makes every call of its list, whatever was refused before, and answers with the
first refusal.  It leaves the same behind whatever was refused, and in whatever order things
were given back, but for the order of the free slots.
-/

namespace Collective

open Procedure History

namespace Status

variable {env : Environment} {status : Status} {history : History}

/-- A shutdown of what is up gives everything back. -/
theorem ensures_shutDownUp (up : status.ready = true) :
    shutDown.Ensures env status history (fun _ => status.GivesBack env history (.ok ()))
      (fun error => status.GivesBack env history (.error error)) := by
  unfold shutDown
  simp only [ensures_bind, ensures_get, ensures_ite, up, if_true]
  refine ensures_attemptRelease.mono ?_ (fun _ _ _ never => never.elim)
  rintro result after later ⟨gone, -⟩
  rw [ensures_modify]
  exact ensures_ofExcept_result result gone

end Status

namespace Machine

variable {env : Environment} {machine : Machine} {history : History}

/-- The machine with another status, where a thread has forgotten its saved operations. -/
def abandon (machine : Machine) (thread : ThreadId) (status : Status) : Machine :=
  { machine.setThread thread { machine.threads thread with saved := [] } with status }

/-- A machine was shut down by a thread, and everything was given back. -/
def ShutDownBy (machine : Machine) (thread : ThreadId) (env : Environment) (history : History)
    (ended : Outcome Machine Reply) : Prop :=
  ∃ result status later, machine.status.GivesBack env history result status later ∧
    ended = ⟨result.map fun _ => .done, machine.abandon thread status, later⟩

theorem run_shutDownUp (config : Config) (thread : ThreadId)
    (up : machine.status.ready = true) :
    machine.ShutDownBy thread env history
      ((perform config thread .shutDown).run env machine history) := by
  apply Ensures.whole
  unfold perform shutDown onThread onStatus
  simp only [ensures_bind, ensures_within, ensures_modify, ensures_pure]
  apply (Status.ensures_shutDownUp up).mono
  · exact fun _ status later gone => ⟨.ok (), status, later, gone, rfl⟩
  · exact fun error status later gone => ⟨.error error, status, later, gone, rfl⟩

end Machine

namespace Run

variable {run : Run} {number : Nat}

/-- While all is up there are flags to be freed. -/
theorem flagged (up : (run.status number).ready = true) :
    ∃ flags, (run.status number).syncFlags = some flags := by
  have same := (run.settled number).1.flags
  rw [up] at same
  exact Option.isSome_iff_exists.mp same.symm

/-- A slot that is given back joins the free ones, so in the end all are free. -/
theorem all_free (up : (run.status number).ready = true) {loaded : List (Handle × Instance)}
    (order : loaded.Perm (run.status number).store.loaded.entries) :
    ((loaded.map Prod.fst).reverse ++ (run.status number).store.free).Perm Handle.all := by
  have sound := (run.settled number).1.sound up
  have used : (loaded.map Prod.fst).Perm (run.status number).store.loaded.keys :=
    order.map Prod.fst
  rw [← sound.slots]
  exact ((List.reverse_perm _).trans used).append_right _

/-- A shutdown of what is up, in any world and after any calls: it unloads each algorithm,
then frees each image, then the working memory if there is one and the flags, and stops the
external scheduler if one is in charge, in this order and whatever is answered.  It answers
with the first fault among the answers, and that it is done if there is none.  Neither the
answers nor the order in which the algorithms and the images are visited have a part in what
is left, but for the order of the free slots, which are all slots. -/
theorem shuts_down_regardless (up : (run.status number).ready = true) (thread : ThreadId)
    (world : Environment) (past : History) :
    ∃ (loaded : List (Handle × Instance)) (images : List (Handle × Buffer)) (flags : Buffer)
      (events : List Event),
      loaded.Perm (run.status number).store.loaded.entries ∧
      images.Perm (run.status number).store.images.entries ∧
      (run.status number).syncFlags = some flags ∧
      events.map Event.call =
        loaded.map (fun entry => .unload entry.2) ++
          images.map (fun entry => .free .image entry.2) ++
          (run.status number).scratch.toList.map (.free .scratch) ++ [.free .syncFlags flags] ++
          Status.stopping (run.status number).selector ∧
      Answered world past events ∧
      ((loaded.map Prod.fst).reverse ++ (run.status number).store.free).Perm Handle.all ∧
      (Machine.perform run.config thread .shutDown).run world (run.scene number).machine past =
        { result := (verdict events).map fun _ => .done
          state := (run.scene number).machine.abandon thread <| (run.status number).emptied <|
            (loaded.map Prod.fst).reverse ++ (run.status number).store.free
          history := events.reverse ++ past } := by
  obtain ⟨flags, flagged⟩ := flagged up
  have returning : (run.status number).returning =
      (run.status number).scratch.toList.map (.free .scratch) ++ [.free .syncFlags flags] ++
        Status.stopping (run.status number).selector := by
    rw [Status.returning, flagged]
    rfl
  obtain ⟨_, _, _, ⟨loaded, images, loadedPerm, imagesPerm, rfl, events, answered, calls, rfl, rfl⟩,
    same⟩ := Machine.run_shutDownUp run.config thread up
  refine ⟨loaded, images, flags, events, loadedPerm, imagesPerm, flagged, ?_, answered,
    all_free up loadedPerm, same⟩
  rw [calls, ← status, returning, Store.returning]
  simp only [List.append_assoc]

end Run

namespace Sample

/-- A communicator has joined, and all is up. -/
def joined : Run := run .allReduce [⟨0, .join (comm 1 0)⟩]

/-- A world that takes nothing back. -/
def stubborn : Environment :=
  .inOrder fun history call =>
    match call with
    | .unload _ => .error "loaded"
    | .free _ _ => .error "in use"
    | call => (Environment.obliging (algorithm .allReduce)).answer history call

/-- A shutdown that is refused everything reports the algorithm, which comes first, and leaves
all slots free nevertheless. -/
theorem shut_down_though_refused :
    ∃ machine later,
      (Machine.perform joined.config 0 .shutDown).run stubborn (joined.scene 1).machine [] =
        ⟨.error (.collaborator "loaded"), machine, later⟩ ∧
      machine.status.ready = false ∧ machine.status.store.free.Perm Handle.all := by
  have up : (joined.status 1).ready = true := by decide +kernel
  obtain ⟨_, _, _, _, _, _, _, _, _, free, ended⟩ := Run.shuts_down_regardless up 0 stubborn []
  have refused : ((Machine.perform joined.config 0 .shutDown).run stubborn
      (joined.scene 1).machine []).result = .error (.collaborator "loaded") := by
    decide +kernel
  rw [ended] at refused ⊢
  exact ⟨_, _, congrArg (Outcome.mk · _ _) refused, rfl, free⟩

end Sample

end Collective
