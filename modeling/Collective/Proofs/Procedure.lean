import Collective.Procedure
import Collective.Thread

/-!
# What procedures ensure

`Procedure.Ensures` says what holds however a procedure ends: one statement of its
result and one of its error, each about the state and the history it leaves.  Every
way to build a procedure has an equation here, so a statement about a procedure
becomes one about the answers that the environment gives.
-/

namespace Collective.Procedure

variable {S T α β : Type} {env : Environment} {state : S} {history : History}
variable {good : α → S → History → Prop} {bad : Error → S → History → Prop}

/-- However a procedure ends, `good` holds of its result or `bad` of its error,
together with the state and the history that it leaves. -/
def Ensures (procedure : Procedure S α) (env : Environment) (state : S) (history : History)
    (good : α → S → History → Prop) (bad : Error → S → History → Prop) : Prop :=
  match procedure.run env state history with
  | ⟨.ok value, state, history⟩ => good value state history
  | ⟨.error error, state, history⟩ => bad error state history

theorem Ensures.mono {procedure : Procedure S α}
    {good' : α → S → History → Prop} {bad' : Error → S → History → Prop}
    (ensured : procedure.Ensures env state history good bad)
    (good_imp : ∀ value state history, good value state history → good' value state history)
    (bad_imp : ∀ error state history, bad error state history → bad' error state history) :
    procedure.Ensures env state history good' bad' := by
  unfold Ensures at *
  rcases outcome : procedure.run env state history with ⟨value | error, after, later⟩
  · rw [outcome] at ensured
    exact bad_imp _ _ _ ensured
  · rw [outcome] at ensured
    exact good_imp _ _ _ ensured

/-- Where nothing is asked of errors, what follows for every result is ensured. -/
theorem Ensures.weaken {procedure : Procedure S α} {good' : α → S → History → Prop}
    (ensured : procedure.Ensures env state history good bad)
    (good_imp : ∀ value state history, good value state history → good' value state history) :
    procedure.Ensures env state history good' (fun _ _ _ => True) :=
  ensured.mono good_imp fun _ _ _ _ => trivial

/-- What is ensured however a procedure ends holds of its outcome. -/
theorem Ensures.outcome {procedure : Procedure S α} {post : S → History → Prop}
    (ensured : procedure.Ensures env state history (fun _ => post) (fun _ => post)) :
    post (procedure.run env state history).state (procedure.run env state history).history := by
  unfold Ensures at ensured
  rcases outcome : procedure.run env state history with ⟨value | error, after, later⟩ <;>
    rw [outcome] at ensured <;> exact ensured

/-- A procedure ends as it does when it is run. -/
theorem ensures_run (procedure : Procedure S α) :
    procedure.Ensures env state history
      (fun value after later => procedure.run env state history = ⟨.ok value, after, later⟩)
      (fun error after later =>
        procedure.run env state history = ⟨.error error, after, later⟩) := by
  unfold Ensures
  rcases outcome : procedure.run env state history with ⟨error | value, after, later⟩ <;> rfl

/-- What is ensured of every result and every error holds of the outcome as a whole. -/
theorem Ensures.whole {procedure : Procedure S α} {post : Outcome S α → Prop}
    (ensured : procedure.Ensures env state history
      (fun value after later => post ⟨.ok value, after, later⟩)
      (fun error after later => post ⟨.error error, after, later⟩)) :
    post (procedure.run env state history) := by
  unfold Ensures at ensured
  rcases outcome : procedure.run env state history with ⟨value | error, after, later⟩ <;>
    rw [outcome] at ensured <;> exact ensured

/-- What is ensured of a result holds of the result. -/
theorem Ensures.result {procedure : Procedure S α} {value : α}
    (ensured : procedure.Ensures env state history good bad)
    (ended : (procedure.run env state history).result = .ok value) :
    good value (procedure.run env state history).state
      (procedure.run env state history).history := by
  unfold Ensures at ensured
  rcases outcome : procedure.run env state history with ⟨other | error, after, later⟩
  · rw [outcome] at ended
    cases ended
  · rw [outcome] at ensured ended
    cases ended
    exact ensured

/-- What is ensured of an error holds of the error. -/
theorem Ensures.failure {procedure : Procedure S α} {error : Error}
    (ensured : procedure.Ensures env state history good bad)
    (ended : (procedure.run env state history).result = .error error) :
    bad error (procedure.run env state history).state
      (procedure.run env state history).history := by
  unfold Ensures at ensured
  rcases outcome : procedure.run env state history with ⟨other | value, after, later⟩
  · rw [outcome] at ensured ended
    cases ended
    exact ensured
  · rw [outcome] at ended
    cases ended

/-- What is ensured in two ways is ensured at once. -/
theorem Ensures.and {procedure : Procedure S α}
    {good' : α → S → History → Prop} {bad' : Error → S → History → Prop}
    (first : procedure.Ensures env state history good bad)
    (second : procedure.Ensures env state history good' bad') :
    procedure.Ensures env state history
      (fun value after later => good value after later ∧ good' value after later)
      (fun error after later => bad error after later ∧ bad' error after later) := by
  unfold Ensures at *
  rcases outcome : procedure.run env state history with ⟨error | value, after, later⟩ <;>
    rw [outcome] at first second <;> exact ⟨first, second⟩

/-- A procedure of which only one result, state and history are ensured ends with them. -/
theorem Ensures.run_eq {procedure : Procedure S α} {value : α} {after : S} {later : History}
    (ensured : procedure.Ensures env state history
      (fun result reached past => result = value ∧ reached = after ∧ past = later)
      (fun _ _ _ => False)) :
    procedure.run env state history = ⟨.ok value, after, later⟩ := by
  unfold Ensures at ensured
  rcases outcome : procedure.run env state history with ⟨error | result, reached, past⟩
  · rw [outcome] at ensured
    exact ensured.elim
  · rw [outcome] at ensured
    obtain ⟨rfl, rfl, rfl⟩ := ensured
    rfl

/-- A procedure of which only one error, state and history are ensured ends with them. -/
theorem Ensures.run_eq_error {procedure : Procedure S α} {error : Error} {after : S}
    {later : History}
    (ensured : procedure.Ensures env state history (fun _ _ _ => False)
      (fun other reached past => other = error ∧ reached = after ∧ past = later)) :
    procedure.run env state history = ⟨.error error, after, later⟩ := by
  unfold Ensures at ensured
  rcases outcome : procedure.run env state history with ⟨other | value, reached, past⟩
  · rw [outcome] at ensured
    obtain ⟨rfl, rfl, rfl⟩ := ensured
    rfl
  · rw [outcome] at ensured
    exact ensured.elim

/-- What is ensured of a procedure holds of the end that it has. -/
theorem Ensures.ended {procedure : Procedure S α} {value : α} {after : S} {later : History}
    (ensured : procedure.Ensures env state history good bad)
    (ended : procedure.run env state history = ⟨.ok value, after, later⟩) :
    good value after later := by
  unfold Ensures at ensured
  rw [ended] at ensured
  exact ensured

/-- What is ensured of a procedure holds of the end of one that fails. -/
theorem Ensures.broken {procedure : Procedure S α} {error : Error} {after : S} {later : History}
    (ensured : procedure.Ensures env state history good bad)
    (ended : procedure.run env state history = ⟨.error error, after, later⟩) :
    bad error after later := by
  unfold Ensures at ensured
  rw [ended] at ensured
  exact ensured

/-- What holds of the end of a procedure is ensured. -/
theorem Ensures.of_run_eq {procedure : Procedure S α} {value : α} {after : S} {later : History}
    (ended : procedure.run env state history = ⟨.ok value, after, later⟩)
    (holds : good value after later) : procedure.Ensures env state history good bad := by
  unfold Ensures
  rw [ended]
  exact holds

/-- Procedures that end alike ensure the same. -/
theorem ensures_congr {first second : Procedure S α}
    (same : first.run env state history = second.run env state history) :
    first.Ensures env state history good bad ↔ second.Ensures env state history good bad := by
  unfold Ensures
  rw [same]

/-- A chain of moves, each from one state to the next with the calls it makes. -/
inductive Along (move : S → History → S → History → Prop) (start : S) (past : History) :
    S → History → Prop where
  | refl : Along move start past start past
  | step {state after : S} {history later : History} :
      Along move start past state history → move state history after later →
      Along move start past after later

namespace Along

variable {move : S → History → S → History → Prop}
variable {start after : S} {past later : History}

theorem single (moved : move start past after later) : Along move start past after later :=
  .step .refl moved

theorem trans (first : Along move start past state history)
    (second : Along move state history after later) : Along move start past after later := by
  induction second with
  | refl => exact first
  | step _ moved ih => exact .step ih moved

/-- What every move keeps, a chain keeps. -/
theorem keeps (holds : S → History → Prop) (chain : Along move start past after later)
    (kept : ∀ {state history after later}, move state history after later →
      holds state history → holds after later)
    (initially : holds start past) : holds after later := by
  induction chain with
  | refl => exact initially
  | step _ moved ih => exact kept moved ih

/-- Moves of one kind that are chains of another make up one chain. -/
theorem refine {other : S → History → S → History → Prop}
    (chain : Along move start past after later)
    (refined : ∀ {state history after later}, move state history after later →
      Along other state history after later) : Along other start past after later := by
  induction chain with
  | refl => exact .refl
  | step _ moved ih => exact ih.trans (refined moved)

end Along

section Equations

@[simp] theorem ensures_pure (value : α) :
    Ensures (pure value) env state history good bad ↔ good value state history := Iff.rfl

@[simp] theorem ensures_throw (error : Error) :
    Ensures (throw error) env state history good bad ↔ bad error state history := Iff.rfl

@[simp] theorem ensures_bind {good : β → S → History → Prop} (first : Procedure S α)
    (next : α → Procedure S β) :
    Ensures (first >>= next) env state history good bad ↔
      Ensures first env state history
        (fun value state history => Ensures (next value) env state history good bad) bad := by
  unfold Ensures
  rw [run_bind]
  rcases first.run env state history with ⟨_ | _, _, _⟩ <;> rfl

@[simp] theorem ensures_get {good : S → S → History → Prop} :
    Ensures get env state history good bad ↔ good state state history := Iff.rfl

@[simp] theorem ensures_set {good : PUnit → S → History → Prop} (new : S) :
    Ensures (set new) env state history good bad ↔ good ⟨⟩ new history := Iff.rfl

@[simp] theorem ensures_modify {good : PUnit → S → History → Prop} (change : S → S) :
    Ensures (modify change) env state history good bad ↔ good ⟨⟩ (change state) history :=
  Iff.rfl

@[simp] theorem ensures_ask {call : Call} {good : call.Answer → S → History → Prop} :
    @Ensures S (no_index call.Answer) (ask call) env state history good bad ↔
      good (env.answer history call) state (⟨call, env.answer history call⟩ :: history) :=
  Iff.rfl

@[simp] theorem ensures_accepted (answer : Fallible α) :
    Ensures (accepted answer) env state history good bad ↔
      match answer with
      | .ok value => good value state history
      | .error reason => bad (.collaborator reason) state history := by
  cases answer <;> rfl

@[simp] theorem ensures_ofExcept (result : Except Error α) :
    Ensures (ofExcept result) env state history good bad ↔
      match result with
      | .ok value => good value state history
      | .error error => bad error state history := by
  cases result <;> rfl

@[simp] theorem ensures_attempt {good : Except Error α → S → History → Prop}
    (procedure : Procedure S α) :
    Ensures (attempt procedure) env state history good bad ↔
      Ensures procedure env state history (fun value => good (.ok value))
        (fun error => good (.error error)) := by
  unfold Ensures run attempt
  rcases procedure env state history with ⟨_ | _, _, _⟩ <;> rfl

/-- What holds of the result of a procedure holds once it was attempted. -/
theorem Ensures.attempted {procedure : Procedure S Unit}
    {post : Except Error Unit → S → History → Prop} {bad : Error → S → History → Prop}
    (ensured : procedure.Ensures env state history (fun _ => post (.ok ()))
      (fun error => post (.error error))) :
    procedure.attempt.Ensures env state history post bad :=
  (ensures_attempt procedure).mpr ensured

/-- What holds however a procedure ends holds once it was attempted. -/
theorem Ensures.attempt {procedure : Procedure S α} {post : S → History → Prop}
    {bad : Error → S → History → Prop}
    (ensured : procedure.Ensures env state history (fun _ => post) (fun _ => post)) :
    procedure.attempt.Ensures env state history (fun _ => post) bad :=
  (ensures_attempt procedure).mpr ensured

theorem ensures_ofExcept_result {post : Except Error Unit → S → History → Prop}
    (result : Except Error Unit) (holds : post result state history) :
    Ensures (ofExcept result) env state history (fun _ => post (.ok ()))
      (fun error => post (.error error)) := by
  cases result <;> exact holds

theorem ensures_ofExcept_of {post : S → History → Prop} (result : Except Error α)
    (holds : post state history) :
    Ensures (ofExcept result) env state history (fun _ => post) (fun _ => post) := by
  cases result <;> exact holds

@[simp] theorem ensures_tryCatch (first : Procedure S α) (next : Error → Procedure S α) :
    Ensures (tryCatch first next) env state history good bad ↔
      Ensures first env state history good
        (fun error state history => Ensures (next error) env state history good bad) := by
  show Ensures (recover first next) env state history good bad ↔ _
  unfold Ensures run recover
  rcases first env state history with ⟨_ | _, _, _⟩ <;> rfl

@[simp] theorem ensures_within {part : S → T} {replace : S → T → S}
    (procedure : Procedure T α) :
    Ensures (within part replace procedure) env state history good bad ↔
      Ensures procedure env (part state) history
        (fun value inner history => good value (replace state inner) history)
        (fun error inner history => bad error (replace state inner) history) := by
  unfold Ensures
  rw [run_within]
  rcases procedure.run env (part state) history with ⟨_ | _, _, _⟩ <;> rfl

@[simp] theorem ensures_executableDirectory {good : Option Path → S → History → Prop} :
    Ensures executableDirectory env state history good bad ↔
      good env.executableDirectory state history := Iff.rfl

@[simp] theorem ensures_inUnloadOrder {good : List (Handle × Instance) → S → History → Prop}
    (loaded : List (Handle × Instance)) :
    Ensures (inUnloadOrder loaded) env state history good bad ↔
      good (env.unloadOrder history loaded) state history := Iff.rfl

@[simp] theorem ensures_inFreeOrder {good : List (Handle × Buffer) → S → History → Prop}
    (images : List (Handle × Buffer)) :
    Ensures (inFreeOrder images) env state history good bad ↔
      good (env.freeOrder history images) state history := Iff.rfl

@[simp] theorem ensures_ite (condition : Prop) [Decidable condition]
    (first second : Procedure S α) :
    Ensures (if condition then first else second) env state history good bad ↔
      if condition then Ensures first env state history good bad
      else Ensures second env state history good bad := by
  split <;> rfl

end Equations

/-- However a procedure ends, it keeps what held of the state and the calls so far. -/
def Keeps (holds : S → History → Prop) (procedure : Procedure S α) : Prop :=
  ∀ env state history, holds state history →
    procedure.Ensures env state history (fun _ => holds) (fun _ => holds)

namespace Keeps

variable {holds : S → History → Prop}

protected theorem pure (value : α) : (pure value : Procedure S α).Keeps holds :=
  fun _ _ _ before => before

protected theorem throw (error : Error) : (throw error : Procedure S α).Keeps holds :=
  fun _ _ _ before => before

protected theorem get : (get : Procedure S S).Keeps holds := fun _ _ _ before => before

protected theorem modify {change : S → S}
    (kept : ∀ state history, holds state history → holds (change state) history) :
    (modify change : Procedure S PUnit).Keeps holds :=
  fun _ state history before => kept state history before

/-- What depends on neither the state nor the calls stays as it is. -/
theorem always (fact : Prop) (procedure : Procedure S α) :
    procedure.Keeps fun _ _ => fact := by
  intro env state history before
  unfold Ensures
  split <;> exact before

theorem ask {call : Call}
    (kept : ∀ state history answer, holds state history →
      holds state (⟨call, answer⟩ :: history)) :
    @Keeps S (no_index call.Answer) holds (Procedure.ask call) :=
  fun _ state history before => kept state history _ before

theorem accepted (answer : Fallible α) : (accepted answer : Procedure S α).Keeps holds := by
  cases answer with
  | ok => exact .pure _
  | error => exact .throw _

protected theorem ofExcept (result : Except Error α) :
    (Procedure.ofExcept result : Procedure S α).Keeps holds :=
  fun _ _ _ before => ensures_ofExcept_of result before

theorem bind {first : Procedure S α} {next : α → Procedure S β} (before : first.Keeps holds)
    (after : ∀ value, (next value).Keeps holds) : (first >>= next).Keeps holds := by
  intro env state history initially
  rw [ensures_bind]
  apply (before env state history initially).mono
  · exact fun value state history reached => after value env state history reached
  · exact fun _ _ _ reached => reached

theorem tryCatch {first : Procedure S α} {next : Error → Procedure S α}
    (before : first.Keeps holds) (after : ∀ error, (next error).Keeps holds) :
    (MonadExcept.tryCatch first next).Keeps holds := by
  intro env state history initially
  apply (ensures_tryCatch first next).mpr
  apply (before env state history initially).mono
  · exact fun _ _ _ reached => reached
  · exact fun error state history reached => after error env state history reached

theorem attempt {procedure : Procedure S α} (kept : procedure.Keeps holds) :
    procedure.attempt.Keeps holds :=
  fun env state history before => (kept env state history before).attempt

/-- What a procedure keeps of a part of the state, with the rest as it is. -/
theorem within {part : S → T} {replace : S → T → S} {procedure : Procedure T α}
    (same : ∀ state, replace state (part state) = state)
    (kept : ∀ state, procedure.Keeps fun inner => holds (replace state inner)) :
    (within part replace procedure).Keeps holds := by
  intro env state history before
  rw [ensures_within]
  apply kept state env (part state) history
  rw [same]
  exact before

end Keeps

end Collective.Procedure

namespace Collective.Thread

variable {α : Type} {env : Environment} {thread : Thread} {history : History}
variable {good : α → Thread → History → Prop} {bad : Error → Thread → History → Prop}

@[simp] theorem ensures_asCaller (procedure : Procedure Thread α) :
    (asCaller procedure).Ensures env thread history good bad ↔
      procedure.Ensures env { thread with isCaller := true } history
        (fun value after => good value { after with isCaller := thread.isCaller })
        (fun error after => bad error { after with isCaller := thread.isCaller }) := by
  unfold Procedure.Ensures Procedure.run asCaller
  rcases procedure env { thread with isCaller := true } history with ⟨_ | _, _, _⟩ <;> rfl

end Collective.Thread
