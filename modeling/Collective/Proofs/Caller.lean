import Collective.Proofs.Footprint
import Collective.Proofs.Frame
import Collective.Proofs.Run

/-!
# Threads that call for the scheduler

A thread has its mark set while it calls plain collectives, and however many of them are called and
whichever fails, the mark is then what it was.  What is launched or selected bears the mark that
the thread has anyway.  No other call of the scheduler touches a mark, so only the calls that are
about marks move them: `Command.remark` says how, and guards that are closed in the reverse order
of their opening undo one another.
-/

namespace Collective

open Procedure

/-- The mark of a thread, and those that its open guards restore. -/
def Thread.marks (thread : Thread) : Bool × List Bool := (thread.isCaller, thread.guards)

/-- The marks of all threads. -/
def Machine.marks (machine : Machine) : ThreadId → Bool × List Bool :=
  fun thread => (machine.threads thread).marks

/-- A call that bears the mark it should: a plain collective is called with the mark set, and what
is launched or selected is so with the mark that the calling thread has. -/
def Event.bears (mark : Bool) (event : Event) : Bool :=
  match event.call with
  | .plain call => call.asCaller
  | .launch launch => launch.asCaller == mark
  | .selectExternal _ _ asCaller => asCaller == mark
  | _ => true

/-- Only selections, launches and plain collectives bear marks. -/
theorem Event.bears_of_about {concerns : List Concern} {event : Event} {mark : Bool}
    (right : about concerns event = true)
    (apart : concerns.all
      (fun concern => !([.selection, .launches, .plain].contains concern)) = true) :
    event.bears mark = true := by
  have other := List.all_eq_true.mp apart _ (List.contains_iff_mem.mp right)
  obtain ⟨call, answer⟩ := event
  cases call with
  | plain | launch | selectExternal => cases other
  | _ => rfl

namespace Command

/-- A call of the scheduler, and not of the mark of a thread. -/
def schedules : Command → Bool
  | .setCaller | .clearCaller | .pushGuard | .popGuard => false
  | _ => true

/-- What a command makes of the marks of its thread. -/
def remark : Command → Bool × List Bool → Bool × List Bool
  | .setCaller, (_, guards) => (true, guards)
  | .clearCaller, (_, guards) => (false, guards)
  | .pushGuard, (mark, guards) => (true, mark :: guards)
  | .popGuard, (_, mark :: guards) => (mark, guards)
  | _, marks => marks

/-- Calls of the scheduler and guards around them, each of which ends within the one around it. -/
inductive Nested : List Command → Prop where
  | nil : Nested []
  | call {command : Command} {others : List Command} : command.schedules = true →
      Nested others → Nested (command :: others)
  | guarded {inner others : List Command} : Nested inner → Nested others →
      Nested (.pushGuard :: inner ++ .popGuard :: others)

variable {command : Command}

theorem remark_of_schedules (schedules : command.schedules = true) (marks : Bool × List Bool) :
    command.remark marks = marks := by
  cases command with
  | setCaller | clearCaller | pushGuard | popGuard => cases schedules
  | _ => rfl

/-- Nested guards leave the marks as they were. -/
theorem Nested.remarks {commands : List Command} (nested : Nested commands)
    (marks : Bool × List Bool) :
    commands.foldl (fun marks command => command.remark marks) marks = marks := by
  induction nested generalizing marks with
  | nil => rfl
  | call schedules _ ih =>
      rw [List.foldl_cons, remark_of_schedules schedules]
      exact ih marks
  | @guarded inner others _ _ inside outside =>
      obtain ⟨mark, guards⟩ := marks
      rw [List.cons_append, List.foldl_cons, List.foldl_append, inside, List.foldl_cons]
      exact outside (mark, guards)

end Command

namespace Thread

variable {marks : Bool × List Bool}

theorem keeps_marks_closeGroup : closeGroup.Keeps fun thread _ => thread.marks = marks := by
  intro env thread history same
  unfold closeGroup
  simp only [ensures_bind, ensures_get, ensures_ite, ensures_throw, ensures_set, ensures_pure]
  split
  · exact same
  · split
    · exact same
    · split
      · exact same
      · exact same

/-- A batch of plain collectives restores the mark. -/
theorem keeps_marks_fallBack (pending : Pending) :
    (fallBack pending).Keeps fun thread _ => thread.marks = marks := by
  intro env thread history same
  refine (ensures_fallBack pending).mono ?_ ?_
  · rintro _ _ _ ⟨rfl, _⟩
    exact same
  · rintro _ _ _ ⟨rfl, _⟩
    exact same

/-- A batch of plain collectives is called with the mark set, whatever it was before. -/
theorem bears_fallBack {mark : Bool} (pending : Pending) :
    (fallBack pending).Makes (Event.bears mark) := by
  intro env thread history
  have ran := @Ensures.outcome _ _ env thread history _ _ (ensures_fallBack pending)
  obtain ⟨-, events, grown, served, -⟩ := ran
  refine ⟨events.reverse, grown, fun event member => ?_⟩
  obtain ⟨_, _, _, _, _, rfl⟩ := served.exists_ran (List.mem_reverse.mp member)
  rfl

end Thread

namespace Status

variable {mark : Bool}

theorem bears_select (request : Request) : (select mark request).Makes (Event.bears mark) :=
  makes_select_of fun _ _ _ _ => beq_self_eq_true mark

theorem bears_launch (pending : Pending) (handle : Handle) :
    (launch mark pending handle).Makes (Event.bears mark) := by
  apply makes_launch_of
  · exact fun _ _ => rfl
  · exact fun bytes => (makes_ensureScratch bytes).mono fun _ made => Event.bears_of_about made rfl
  · exact fun _ _ same => beq_iff_eq.mpr same

theorem bears_launchEach (operations : List SavedOperation) :
    (launchEach mark operations).Makes (Event.bears mark) :=
  makes_launchEach_of bears_launch operations

end Status

namespace Machine

variable {α : Type} {config : Config} {thread : ThreadId} {past : History}
variable {marks : ThreadId → Bool × List Bool}

/-- The threads have the marks that they had, and all that was called since bears the mark of one of
them as it should. -/
def Restored (thread : ThreadId) (marks : ThreadId → Bool × List Bool) (past : History)
    (machine : Machine) (now : History) : Prop :=
  machine.marks = marks ∧ History.Only (Event.bears (marks thread).1) past now

theorem marks_setThread (machine : Machine) (state : Thread) :
    (machine.setThread thread state).marks = Function.update machine.marks thread state.marks := by
  funext other
  by_cases same : other = thread
  · subst same
    rw [Function.update_self, marks, setThread_self]
  · rw [Function.update_of_ne same, marks, setThread_other state same, marks]

theorem restores_onStatus {procedure : Procedure Status α}
    (bears : procedure.Makes (Event.bears (marks thread).1)) :
    (onStatus procedure).Keeps (Restored thread marks past) :=
  bears.within.keeps <|
    .within (fun _ => rfl) fun machine => .always (machine.marks = marks) procedure

/-- What bears the mark that it is given bears that of the thread on whose behalf it is done. -/
theorem restores_onBehalf {procedure : Bool → Procedure Status α}
    (bears : ∀ mark, (procedure mark).Makes (Event.bears mark)) :
    (onBehalf thread procedure).Keeps (Restored thread marks past) := by
  intro env machine history restored
  have own : (machine.threads thread).isCaller = (marks thread).1 :=
    congrArg Prod.fst (congrFun restored.1 thread)
  unfold onBehalf
  rw [ensures_bind, ensures_get, own]
  exact restores_onStatus (bears _) env machine history restored

theorem restores_onThread {procedure : Procedure Thread α}
    (bears : procedure.Makes (Event.bears (marks thread).1))
    (kept : ∀ own, procedure.Keeps fun state _ => state.marks = own) :
    (onThread thread procedure).Keeps (Restored thread marks past) := by
  refine bears.within.keeps fun env machine history same => ?_
  have restored {state : Thread} (own : state.marks = (machine.threads thread).marks) :
      (machine.setThread thread state).marks = marks := by
    rw [marks_setThread, own, ← same]
    exact Function.update_eq_self thread machine.marks
  rw [ensures_within]
  apply (kept _ env (machine.threads thread) history rfl).mono
  · exact fun _ _ _ => restored
  · exact fun _ _ _ => restored

theorem restores_join (comm : Communicator) :
    (join config comm).Keeps (Restored thread marks past) := by
  have raises : (Status.bringUp config comm).Makes (Event.bears (marks thread).1) :=
    (Status.makes_bringingUp config comm).mono fun _ made => Event.bears_of_about made rfl
  have adjusts : (adjustStack config comm : Procedure Machine Unit).Makes
      (Event.bears (marks thread).1) :=
    (makes_adjustStack config comm).mono fun _ made => Event.bears_of_about made rfl
  refine .bind (.modify fun _ _ restored => restored) fun _ => ?_
  split
  · exact .pure _
  · refine .bind .get fun machine => .bind (restores_onStatus raises) fun channels => ?_
    split
    · refine .bind (adjusts.keeps (.of_asked fun _ _ _ => ?_)) fun _ => .pure _
      exact (ensures_adjustStack config comm).mono (fun _ _ _ asked => asked) fun _ _ _ => And.left
    · exact .pure _

/-- A call of the scheduler leaves the marks of all threads as they were, and all that it calls
bears the mark of its thread as it should. -/
theorem restores {command : Command} (schedules : command.schedules = true) :
    (perform config thread command).Keeps (Restored thread marks past) := by
  have changed {change : Thread → Thread} (same : ∀ state, (change state).marks = state.marks) :
      (onThread thread (modify change)).Keeps (Restored thread marks past) :=
    restores_onThread (.modify change) fun _ => .modify fun state _ own => (same state).trans own
  have unmarked {α : Type} {concerns : List Concern} {procedure : Procedure Status α}
      (made : procedure.Makes (about concerns))
      (apart : concerns.all
        (fun concern => !([.selection, .launches, .plain].contains concern)) = true) :
      (onStatus procedure).Keeps (Restored thread marks past) :=
    restores_onStatus (made.mono fun _ right => Event.bears_of_about right apart)
  cases command with
  | setCaller | clearCaller | pushGuard | popGuard => cases schedules
  | install key => exact .bind (unmarked (Status.makes_install _) rfl) fun _ => .pure _
  | load file rank => exact .bind (unmarked (Status.makes_load file rank) rfl) fun _ => .pure _
  | connect handle comm =>
      have connects : (Status.onStore (Store.connect handle comm)).Makes (about [.store]) :=
        .within (Store.makes_connect handle comm)
      exact .bind (unmarked connects rfl) fun _ => .pure _
  | join comm => exact .bind (restores_join comm) fun _ => .pure _
  | shutDown =>
      refine .bind (.bind (changed fun _ => rfl) fun _ => ?_) fun _ => .pure _
      exact unmarked Status.makes_shutDown rfl
  | openGroup => exact .bind (changed fun _ => rfl) fun _ => .pure _
  | select request =>
      exact .bind (restores_onBehalf fun _ => Status.bears_select request) fun _ => .pure _
  | closeGroup =>
      refine .bind (keeps_closeGroup ?_ fun _ => ?_) fun _ => .pure _
      · exact restores_onThread Thread.makes_closeGroup fun _ => Thread.keeps_marks_closeGroup
      · exact restores_onBehalf fun _ => Status.bears_launchEach _
  | submit operation comm stream =>
      refine .bind (keeps_submit operation comm stream ?_ ?_ ?_ ?_ ?_) fun _ => .pure _
      · exact fun _ => restores_onBehalf fun _ => Status.bears_select _
      · exact fun _ _ => restores_onBehalf fun _ => Status.bears_launch _ _
      · exact fun _ => changed fun _ => rfl
      · exact changed fun _ => rfl
      · exact fun pending =>
          restores_onThread (Thread.bears_fallBack pending) fun _ =>
            Thread.keeps_marks_fallBack pending

/-- What a command makes of the marks. -/
theorem ensures_marks (thread : ThreadId) (command : Command) (env : Environment)
    (machine : Machine) (history : History) :
    let remarked (after : Machine) : Prop :=
      after.marks = Function.update machine.marks thread (command.remark (machine.marks thread))
    (perform config thread command).Ensures env machine history
      (fun _ after _ => remarked after) (fun _ after _ => remarked after) := by
  intro remarked
  have unchanged {after : Machine} (schedules : command.schedules = true)
      (same : after.marks = machine.marks) : remarked after := by
    show after.marks = _
    rw [same, Command.remark_of_schedules schedules, Function.update_eq_self]
  have changed {state : Thread} (own : state.marks = command.remark (machine.marks thread)) :
      remarked (machine.setThread thread state) := by
    show (machine.setThread thread state).marks = _
    rw [marks_setThread, own]
  cases command with
  | setCaller | clearCaller | pushGuard =>
      simp only [perform, onThread, ensures_bind, ensures_within, ensures_modify, ensures_pure]
      exact changed rfl
  | popGuard =>
      simp only [perform, onThread, Thread.popGuard, ensures_bind, ensures_within, ensures_get]
      cases guards : (machine.threads thread).guards with
      | nil => exact changed (by simp [marks, Thread.marks, guards, Command.remark])
      | cons mark others => exact changed (by simp [marks, Thread.marks, guards, Command.remark])
  | _ =>
      refine (@restores config thread history _ _ rfl env machine history
        ⟨rfl, .refl _ history⟩).mono ?_ ?_
      · exact fun _ _ _ restored => unchanged rfl restored.1
      · exact fun _ _ _ restored => unchanged rfl restored.1

/-- All that a command calls bears the mark of its thread as it should. -/
theorem bears_perform (config : Config) (thread : ThreadId) (command : Command)
    (env : Environment) (machine : Machine) (history : History) :
    History.Only (Event.bears (machine.threads thread).isCaller) history
      ((perform config thread command).run env machine history).history := by
  have unmarked (none : command.concerns = []) :
      History.Only (Event.bears (machine.threads thread).isCaller) history
        ((perform config thread command).run env machine history).history := by
    refine (makes_perform config thread command).mono (fun _ made => ?_) env machine history
    rw [none] at made
    exact Event.bears_of_about made rfl
  cases command with
  | setCaller | clearCaller | pushGuard | popGuard => exact unmarked rfl
  | _ => exact (restores rfl env machine history ⟨rfl, .refl _ history⟩).outcome.2

end Machine

/-- The commands of one thread among the turns of all. -/
def Turn.commandsOf (thread : ThreadId) (turns : List Turn) : List Command :=
  turns.filterMap fun turn => if turn.thread = thread then some turn.command else none

namespace Scene

/-- The scene after some turns that begin in another. -/
def after (config : Config) (env : Environment) (scene : Scene) : List Turn → Scene
  | [] => scene
  | turn :: others =>
      let ended := (Machine.perform config turn.thread turn.command).run env scene.machine
        scene.history
      after config env { machine := ended.state, history := ended.history } others

/-- The marks of a thread are moved by its own commands, in their order. -/
theorem marks_after (config : Config) (env : Environment) (thread : ThreadId) (scene : Scene)
    (turns : List Turn) :
    (scene.after config env turns).machine.marks thread =
      (Turn.commandsOf thread turns).foldl (fun marks command => command.remark marks)
        (scene.machine.marks thread) := by
  induction turns generalizing scene with
  | nil => rfl
  | cons turn others ih =>
      unfold after
      rw [ih, (Machine.ensures_marks turn.thread turn.command env scene.machine _).outcome]
      by_cases own : turn.thread = thread
      · subst own
        simp [Turn.commandsOf]
      · simp [Turn.commandsOf, own, Function.update_of_ne (Ne.symm own)]

/-- Plain collectives are called with the mark of their thread set, and whatever is launched or
selected bears the mark that the thread had before.  However a call of the scheduler ends, each
thread has then the mark and the guards that it had, and nothing that is launched or selected
meanwhile touches them.  So the mark of a thread is the same after any calls in nested guards,
whatever other threads do. -/
theorem caller_restored (config : Config) (env : Environment) (scene : Scene) :
    (∀ turn : Turn,
      History.Only (Event.bears (scene.machine.threads turn.thread).isCaller) scene.history
        (scene.after config env [turn]).history ∧
      (turn.command.schedules = true →
        (scene.after config env [turn]).machine.marks = scene.machine.marks)) ∧
    (∀ thread pending handle, ((Machine.onBehalf thread (Status.launch · pending handle)).run env
      scene.machine scene.history).state.marks = scene.machine.marks) ∧
    (∀ thread operations, ((Machine.onBehalf thread (Status.launchEach · operations)).run env
      scene.machine scene.history).state.marks = scene.machine.marks) ∧
    (∀ thread request, ((Machine.onBehalf thread (Status.select · request)).run env scene.machine
      scene.history).state.marks = scene.machine.marks) ∧
    ∀ thread turns, Command.Nested (Turn.commandsOf thread turns) →
      (scene.after config env turns).machine.marks thread = scene.machine.marks thread := by
  have behalf {α : Type} (thread : ThreadId) {procedure : Bool → Procedure Status α}
      (bears : ∀ mark, (procedure mark).Makes (Event.bears mark)) :
      ((Machine.onBehalf thread procedure).run env scene.machine scene.history).state.marks =
        scene.machine.marks :=
    (Machine.restores_onBehalf bears env scene.machine scene.history
      ⟨rfl, .refl _ scene.history⟩).outcome.1
  refine ⟨fun turn => ⟨?_, fun schedules => ?_⟩, fun thread pending handle => ?_,
    fun thread operations => ?_, fun thread request => ?_, fun thread turns nested => ?_⟩
  · exact Machine.bears_perform config turn.thread turn.command env scene.machine scene.history
  · exact (Machine.restores schedules env scene.machine scene.history
      ⟨rfl, .refl _ scene.history⟩).outcome.1
  · exact behalf thread fun _ => Status.bears_launch pending handle
  · exact behalf thread fun _ => Status.bears_launchEach operations
  · exact behalf thread fun _ => Status.bears_select request
  · rw [marks_after]
    exact nested.remarks _

end Scene

namespace Sample

/-- An environment that refuses plain collectives. -/
def withoutPlain : Environment :=
  .inOrder fun
    | _, .plain _ => .error "refused"
    | history, call => (Environment.obliging (algorithm .allReduce)).answer history call

/-- A thread falls back. -/
def falling : Turn := ⟨0, .submit allReduce (comm 1 0) ⟨0⟩⟩

/-- A thread falls back within a guard, while another clears its own mark. -/
def guarded : List Turn := [⟨0, .pushGuard⟩, falling, ⟨1, .clearCaller⟩, ⟨0, .popGuard⟩]

theorem caller_restored_refused :
    let config := (run .allReduce []).config
    (({} : Scene).after config withoutPlain guarded).history.map (·.refused) = [true] ∧
    (({} : Scene).after config withoutPlain [falling]).machine.marks 0 = (false, []) ∧
    (({} : Scene).after config withoutPlain guarded).machine.marks 0 = (false, []) := by
  intro config
  have nested : Command.Nested [.pushGuard, falling.command, .popGuard] :=
    .guarded (.call rfl .nil) .nil
  have restored := Scene.caller_restored config withoutPlain {}
  exact ⟨by decide, congrFun ((restored.1 falling).2 rfl) 0, restored.2.2.2.2 0 guarded nested⟩

end Sample

end Collective
