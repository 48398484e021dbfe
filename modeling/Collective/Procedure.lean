import Collective.Call

/-!
# Procedures

A procedure changes a state and calls the outside world.  It ends with a result or
an error, and either way with a state and a history: an error does not undo what was
done before it.
-/

namespace Collective

/-- How a procedure ends. -/
structure Outcome (S α : Type) where
  result : Except Error α
  state : S
  history : History

/-- A procedure on a state of type `S` with a result of type `α`. -/
def Procedure (S α : Type) := Environment → S → History → Outcome S α

namespace Procedure

variable {S T α β γ : Type}

/-- Runs a procedure. -/
def run (procedure : Procedure S α) (env : Environment) (state : S) (history : History) :
    Outcome S α :=
  procedure env state history

/-- Ends with a result. -/
def done (value : α) : Procedure S α :=
  fun _ state history => ⟨.ok value, state, history⟩

/-- Ends with an error. -/
def fail (error : Error) : Procedure S α :=
  fun _ state history => ⟨.error error, state, history⟩

/-- Goes on with the result of a procedure, unless that ends with an error. -/
def andThen (first : Procedure S α) (next : α → Procedure S β) : Procedure S β :=
  fun env state history =>
    match first env state history with
    | ⟨.ok value, state, history⟩ => next value env state history
    | ⟨.error error, state, history⟩ => ⟨.error error, state, history⟩

/-- Goes on with the error of a procedure, if it ends with one. -/
def recover (first : Procedure S α) (next : Error → Procedure S α) : Procedure S α :=
  fun env state history =>
    match first env state history with
    | ⟨.ok value, state, history⟩ => ⟨.ok value, state, history⟩
    | ⟨.error error, state, history⟩ => next error env state history

instance : Monad (Procedure S) where
  pure := done
  bind := andThen

instance : MonadExceptOf Error (Procedure S) where
  throw := fail
  tryCatch := recover

instance : MonadStateOf S (Procedure S) where
  get := fun _ state history => ⟨.ok state, state, history⟩
  set := fun state _ _ history => ⟨.ok (), state, history⟩
  modifyGet change := fun _ state history =>
    match change state with
    | (value, state) => ⟨.ok value, state, history⟩

/-- The directory of the running program, if it is known. -/
def executableDirectory : Procedure S (Option Path) :=
  fun env state history => ⟨.ok env.executableDirectory, state, history⟩

/-- Makes a call and records it. -/
def ask (call : Call) : Procedure S call.Answer :=
  fun env state history =>
    let answer := env.answer history call
    ⟨.ok answer, state, ⟨call, answer⟩ :: history⟩

/-- The answer of a call, a refusal being an error. -/
def accepted (answer : Fallible α) : Procedure S α :=
  match answer with
  | .ok value => done value
  | .error reason => fail (.collaborator reason)

/-- Ends as an outcome does that is known already. -/
def ofExcept (result : Except Error α) : Procedure S α :=
  fun _ state history => ⟨result, state, history⟩

/-- The outcome of a procedure as a result, so that what follows happens either way. -/
def attempt (procedure : Procedure S α) : Procedure S (Except Error α) :=
  fun env state history =>
    match procedure env state history with
    | ⟨result, state, history⟩ => ⟨.ok result, state, history⟩

/-- Runs a procedure on a part of the state. -/
def within (part : S → T) (replace : S → T → S) (procedure : Procedure T α) :
    Procedure S α :=
  fun env state history =>
    match procedure env (part state) history with
    | ⟨result, inner, history⟩ => ⟨result, replace state inner, history⟩

/-- The loaded algorithms in the order in which they are released. -/
def inUnloadOrder (loaded : List (Handle × Instance)) :
    Procedure S (List (Handle × Instance)) :=
  fun env state history => ⟨.ok (env.unloadOrder history loaded), state, history⟩

/-- The device images in the order in which they are freed. -/
def inFreeOrder (images : List (Handle × Buffer)) :
    Procedure S (List (Handle × Buffer)) :=
  fun env state history => ⟨.ok (env.freeOrder history images), state, history⟩

section Equations

variable (env : Environment) (state : S) (history : History)

@[simp] theorem run_pure (value : α) :
    run (pure value) env state history = ⟨.ok value, state, history⟩ := rfl

theorem run_bind (first : Procedure S α) (next : α → Procedure S β) :
    run (first >>= next) env state history =
      match run first env state history with
      | ⟨.ok value, state, history⟩ => run (next value) env state history
      | ⟨.error error, state, history⟩ => ⟨.error error, state, history⟩ := rfl

@[simp] theorem run_get :
    run (get : Procedure S S) env state history = ⟨.ok state, state, history⟩ := rfl

@[simp] theorem run_set (new : S) :
    run (set new : Procedure S PUnit) env state history = ⟨.ok ⟨⟩, new, history⟩ := rfl

@[simp] theorem run_modify (change : S → S) :
    run (modify change : Procedure S PUnit) env state history =
      ⟨.ok ⟨⟩, change state, history⟩ := rfl

theorem run_within (part : S → T) (replace : S → T → S) (procedure : Procedure T α) :
    run (within part replace procedure) env state history =
      match run procedure env (part state) history with
      | ⟨result, inner, history⟩ => ⟨result, replace state inner, history⟩ := rfl

end Equations

theorem id_map_eq (procedure : Procedure S α) : id <$> procedure = procedure := by
  funext env state history
  show (match procedure env state history with
    | ⟨.ok value, state, history⟩ => ⟨.ok (id value), state, history⟩
    | ⟨.error error, state, history⟩ => ⟨.error error, state, history⟩ : Outcome S α) = _
  rcases procedure env state history with ⟨_ | _, _, _⟩ <;> rfl

theorem bind_bind (procedure : Procedure S α) (first : α → Procedure S β)
    (second : β → Procedure S γ) :
    procedure >>= first >>= second = procedure >>= fun value => first value >>= second := by
  funext env state history
  show andThen (andThen procedure first) second env state history =
    andThen procedure (fun value => andThen (first value) second) env state history
  unfold andThen
  rcases procedure env state history with ⟨_ | _, _, _⟩ <;> rfl

instance : LawfulMonad (Procedure S) :=
  LawfulMonad.mk' _ id_map_eq (fun _ _ => rfl) bind_bind

end Procedure

end Collective
