import Collective.Proofs.Turn

/-!
# Runs

A run is a list of turns, each a command of a thread, in one environment.  It starts
from an empty machine and goes from scene to scene; `Run.scene n` is the scene before
turn `n`.  Every scene is settled, and histories only grow.
-/

namespace Collective

open Procedure History

/-- One command of one thread. -/
structure Turn where
  thread : ThreadId
  command : Command
  deriving DecidableEq

/-- A machine and the calls that were made so far. -/
structure Scene where
  machine : Machine := {}
  history : History := []

/-- An environment that refuses nothing.  It has one algorithm file and no library, and
each algorithm that it loads and each buffer is another. -/
def Environment.obliging (algorithm : Metadata) : Environment :=
  .inOrder fun
    | _, .openDirectory _ => true
    | _, .listDirectory _ => .ok [⟨[0], .file⟩]
    | _, .parse _ => .ok algorithm
    | _, .openLibrary _ => false
    | _, .startExternal _ | _, .stopExternal _ => 0
    | _, .selectExternal _ _ _ => {}
    | history, .load _ _ => .ok { object := history.length }
    | history, .allocate _ size => .ok { address := ⟨history.length.toUInt64⟩, size }
    | _, .scratchBytes _ _ => 0
    | _, .stackLimit | _, .initKernels _ => .ok 0
    | _, .unload _ | _, .connect _ _ | _, .launch _ => .ok ()
    | _, .free _ _ | _, .setStackLimit _ | _, .plain _ => .ok ()

/-- A configuration, an environment, and what the threads do, in order. -/
structure Run where
  config : Config
  env : Environment
  turns : List Turn

namespace Sample

/-- An algorithm for two ranks. -/
def algorithm (kind : Kind) : Metadata where
  kind := kind
  numRanks := 2
  numChannels := 1
  sizeMultiplier := 1
  chunksPerLoop := 1
  inPlace := true
  outOfPlace := true

/-- One of two ranks. -/
def comm (id : UInt32) (rank : UInt64) : Communicator :=
  { id, rank, numRanks := 2, peers := [⟨0, 0⟩, ⟨1, 0⟩] }

def allReduce : Operation := .allReduce ⟨1⟩ ⟨2⟩ 1 .float32 .sum

/-- A run with one algorithm where nothing is refused. -/
def run (kind : Kind) (turns : List Turn) : Run where
  config := { schedulerPath := ⟨[]⟩, algorithmDirectory := some ⟨[]⟩ }
  env := .obliging (algorithm kind)
  turns := turns

end Sample

namespace Run

variable (run : Run)

/-- How a turn ends in a scene. -/
def outcome (scene : Scene) (turn : Turn) : Outcome Machine Reply :=
  (Machine.perform run.config turn.thread turn.command).run run.env scene.machine scene.history

/-- The scene after `number` turns. -/
def scene : Nat → Scene
  | 0 => {}
  | number + 1 =>
      match run.turns[number]? with
      | none => scene number
      | some turn =>
          let ended := run.outcome (scene number) turn
          { machine := ended.state, history := ended.history }

/-- What the threads share after `number` turns. -/
def status (number : Nat) : Status := (run.scene number).machine.status

/-- The calls of the first `number` turns. -/
def history (number : Nat) : History := (run.scene number).history

/-- The state of a thread after `number` turns. -/
def thread (number : Nat) (thread : ThreadId) : Thread :=
  (run.scene number).machine.threads thread

/-- The calls of the turns from one scene to another, the latest first. -/
def between (first last : Nat) : History :=
  (run.history last).take ((run.history last).length - (run.history first).length)

variable {run} {number later : Nat} {turn : Turn}

theorem scene_succ (taken : run.turns[number]? = some turn) :
    run.scene (number + 1) =
      { machine := (run.outcome (run.scene number) turn).state
        history := (run.outcome (run.scene number) turn).history } := by
  rw [scene, taken]

theorem scene_past_end (ended : run.turns[number]? = none) :
    run.scene (number + 1) = run.scene number := by
  rw [scene, ended]

theorem status_past_end (ended : run.turns[number]? = none) :
    run.status (number + 1) = run.status number := by
  rw [status, scene_past_end ended, status]

theorem history_past_end (ended : run.turns[number]? = none) :
    run.history (number + 1) = run.history number := by
  rw [history, scene_past_end ended, history]

theorem thread_past_end (ended : run.turns[number]? = none) (thread : ThreadId) :
    run.thread (number + 1) thread = run.thread number thread := by
  rw [Run.thread, scene_past_end ended, Run.thread]

section Ensured

variable {good : Reply → Machine → History → Prop} {bad : Error → Machine → History → Prop}
variable (ensured : (Machine.perform run.config turn.thread turn.command).Ensures run.env
  (run.scene number).machine (run.history number) good bad)

include ensured

/-- What a command ensures of its reply holds in the scene after a turn that replies. -/
theorem after_reply (taken : run.turns[number]? = some turn) {reply : Reply}
    (replied : (run.outcome (run.scene number) turn).result = .ok reply) :
    good reply (run.scene (number + 1)).machine (run.history (number + 1)) := by
  unfold history at ensured ⊢
  rw [scene_succ taken]
  exact ensured.result replied

/-- What a command ensures of its error holds in the scene after a turn that fails. -/
theorem after_error (taken : run.turns[number]? = some turn) {error : Error}
    (failed : (run.outcome (run.scene number) turn).result = .error error) :
    bad error (run.scene (number + 1)).machine (run.history (number + 1)) := by
  unfold history at ensured ⊢
  rw [scene_succ taken]
  exact ensured.failure failed

end Ensured

/-- What a command ensures however it ends holds in the scene after its turn. -/
theorem after_turn {post : Machine → History → Prop}
    (ensured : (Machine.perform run.config turn.thread turn.command).Ensures run.env
      (run.scene number).machine (run.history number) (fun _ => post) (fun _ => post))
    (taken : run.turns[number]? = some turn) :
    post (run.scene (number + 1)).machine (run.history (number + 1)) := by
  unfold history at ensured ⊢
  rw [scene_succ taken]
  exact ensured.outcome

theorem after_join {post : Machine → History → Prop} {thread : ThreadId} {comm : Communicator}
    (ensured : (Machine.join run.config comm).Ensures run.env (run.scene number).machine
      (run.history number) (fun _ => post) (fun _ => post))
    (taken : run.turns[number]? = some ⟨thread, .join comm⟩) :
    post (run.scene (number + 1)).machine (run.history (number + 1)) := by
  apply after_turn _ taken
  rw [Machine.perform, ensures_bind]
  exact ensured

/-- What one turn of a run has done. -/
theorem turned_of_settled (settled : (run.status number).Settled)
    (taken : run.turns[number]? = some turn) :
    Machine.Turned turn.thread turn.command (run.scene number).machine (run.history number)
      (run.scene (number + 1)).machine (run.history (number + 1)) := by
  have turned := @Machine.ensures_perform run.env (run.scene number).machine
    (run.history number) run.config turn.thread turn.command settled
  exact after_turn turned taken

end Run

namespace Status

theorem Effect.settled {status after : Status} {history later : History}
    (effect : Effect Move status history after later) (settled : status.Settled) :
    after.Settled := by
  cases effect with
  | grown grown => exact ⟨moving_coherent grown.along settled.1, grown.settled⟩
  | released along released =>
      exact (released.dormant (moving_coherent along settled.1)).settled

end Status

namespace Run

variable {run : Run} {number later : Nat} {turn : Turn}

/-- Between two turns all is up, or nothing is. -/
theorem settled (run : Run) (number : Nat) : (run.status number).Settled := by
  induction number with
  | zero => exact Status.dormant_initial.settled
  | succ number ih =>
      cases taken : run.turns[number]? with
      | none =>
          rw [status_past_end taken]
          exact ih
      | some turn => exact (turned_of_settled ih taken).effect.settled ih

/-- What a turn would do that was taken next. -/
theorem turning (run : Run) (number : Nat) (turn : Turn) :
    Machine.Turned turn.thread turn.command (run.scene number).machine (run.history number)
      (run.outcome (run.scene number) turn).state (run.outcome (run.scene number) turn).history :=
  (Machine.ensures_perform run.config turn.thread turn.command (run.settled number)).outcome

theorem turned (taken : run.turns[number]? = some turn) :
    Machine.Turned turn.thread turn.command (run.scene number).machine (run.history number)
      (run.scene (number + 1)).machine (run.history (number + 1)) :=
  turned_of_settled (run.settled number) taken

/-- What every turn keeps, a run keeps. -/
theorem keeps (run : Run) (holds : Nat → Prop) (first : Nat) (initially : holds first)
    (kept : ∀ number turn, first ≤ number → run.turns[number]? = some turn →
      holds number → holds (number + 1))
    (idle : ∀ number, first ≤ number → run.scene (number + 1) = run.scene number →
      holds number → holds (number + 1))
    (order : first ≤ later) : holds later := by
  induction later, order using Nat.le_induction with
  | base => exact initially
  | succ number order ih =>
      cases taken : run.turns[number]? with
      | none => exact idle number order (scene_past_end taken) ih
      | some turn => exact kept number turn order taken ih

/-- What every command keeps, a run keeps. -/
theorem keeps_of_commands {holds : Machine → History → Prop} {first : Nat}
    (kept : ∀ thread command, (Machine.perform run.config thread command).Keeps holds)
    (initially : holds (run.scene first).machine (run.history first)) (order : first ≤ later) :
    holds (run.scene later).machine (run.history later) := by
  refine run.keeps (fun number => holds (run.scene number).machine (run.history number)) first
    initially ?_ ?_ order
  · exact fun number turn _ taken before =>
      after_turn (kept turn.thread turn.command run.env _ _ before) taken
  · intro number _ same before
    unfold history at before ⊢
    rw [same]
    exact before

theorem history_suffix (order : number ≤ later) : run.history number <:+ run.history later := by
  refine run.keeps (fun reached => run.history number <:+ run.history reached) number ?_ ?_ ?_ order
  · exact List.suffix_rfl
  · intro reached turn _ taken before
    obtain ⟨_, executed, _⟩ := (turned taken).course
    exact before.trans executed.suffix
  · intro reached _ same before
    unfold history at *
    rwa [same]

theorem between_of_append {first last : Nat} {added : History}
    (grown : run.history last = added ++ run.history first) : run.between first last = added := by
  unfold between
  rw [grown]
  simp

theorem history_between {first last : Nat} (order : first ≤ last) :
    run.history last = run.between first last ++ run.history first := by
  obtain ⟨added, grown⟩ := history_suffix order
  rw [between_of_append grown.symm]
  exact grown.symm

theorem between_append {first middle last : Nat} (before : first ≤ middle)
    (after : middle ≤ last) :
    run.between first last = run.between middle last ++ run.between first middle := by
  apply between_of_append
  rw [List.append_assoc, ← history_between before, ← history_between after]

/-- The latest call was made between two scenes, if the first scene came before it. -/
theorem mem_between_of_latest {first last : Nat} {event : Event} {earlier : History}
    (grown : run.history last = event :: earlier) (since : run.history first <:+ earlier) :
    event ∈ run.between first last := by
  obtain ⟨added, rfl⟩ := since
  rw [@between_of_append run first last (event :: added) grown]
  exact List.mem_cons_self

/-- Nobody shuts down in some turns. -/
def Steady (run : Run) (first last : Nat) : Prop :=
  ∀ number turn, first ≤ number → number < last → run.turns[number]? = some turn →
    turn.command ≠ .shutDown

instance (first last : Nat) : Decidable (run.Steady first last) :=
  decidable_of_iff (∀ number < last, first ≤ number → ∀ turn ∈ run.turns[number]?,
    turn.command ≠ .shutDown)
    ⟨fun open_ number turn above below taken => open_ number below above turn taken,
      fun steady number below above turn taken => steady number turn above below taken⟩

theorem Steady.mono {first last before after : Nat} (steady : run.Steady first last)
    (lower : first ≤ before) (upper : after ≤ last) : run.Steady before after := by
  intro number turn above below taken
  exact steady number turn (lower.trans above) (below.trans_le upper) taken

/-- A turn that leaves all up has only moved on. -/
theorem moved_of_up (taken : run.turns[number]? = some turn)
    (up : (run.status (number + 1)).ready = true) :
    Along Status.Move (run.status number) (run.history number) (run.status (number + 1))
      (run.history (number + 1)) := by
  cases (turned taken).effect with
  | grown grown => exact grown.along
  | released along released =>
      -- A release would leave nothing up.
      obtain ⟨_, _, _, _, closed, _⟩ := released
      rw [status, closed] at up
      cases up

/-- Unless somebody shuts down, what is up stays up, with all that it holds. -/
theorem stays_up {first last : Nat} (steady : run.Steady first last)
    (up : (run.status first).ready = true) (order : first ≤ last) :
    (run.status last).ready = true ∧ (run.status first).Extends (run.status last) := by
  induction last, order using Nat.le_induction with
  | base => exact ⟨up, .refl _⟩
  | succ number order ih =>
      obtain ⟨before, extended⟩ := ih (steady.mono le_rfl (Nat.le_succ number))
      cases taken : run.turns[number]? with
      | none =>
          rw [status_past_end taken]
          exact ⟨before, extended⟩
      | some turn =>
          have kept := steady number turn order (Nat.lt_succ_self number) taken
          have after : (run.status (number + 1)).ready = true := (turned taken).up kept before
          exact ⟨after, extended.trans (Status.moving_extends (moved_of_up taken after))⟩

end Run

end Collective
