import Collective.Proofs.Procedure

/-!
# One procedure from two states

`Procedure.Agrees` compares the runs of one procedure from two states that are alike: they end
with one result after the same calls, in states that are alike again.  The rules follow the ways
to build a procedure, so it is enough to see that no step looks at what may differ.
-/

namespace Collective

variable {S T α β : Type}

/-- Two outcomes have one result and one history, and their states are related by `good` where
the result is a value and by `bad` where it is an error. -/
inductive Outcome.Agree (good bad : S → S → Prop) : Outcome S α → Outcome S α → Prop where
  | ok {first second : S} (value : α) (history : History) :
      good first second → Agree good bad ⟨.ok value, first, history⟩ ⟨.ok value, second, history⟩
  | error {first second : S} (error : Error) (history : History) :
      bad first second →
      Agree good bad ⟨.error error, first, history⟩ ⟨.error error, second, history⟩

namespace Procedure

/-- From two states that are alike a procedure has outcomes that agree. -/
def Agrees (alike good bad : S → S → Prop) (procedure : Procedure S α) : Prop :=
  ∀ env first second history, alike first second →
    (procedure.run env first history).Agree good bad (procedure.run env second history)

namespace Agrees

variable {alike middle good bad : S → S → Prop}

/-- From one state there is one outcome. -/
theorem of_eq (procedure : Procedure S α) : procedure.Agrees Eq Eq Eq := by
  rintro env first _ history rfl
  rcases procedure.run env first history with ⟨error | value, state, reached⟩
  · exact .error error reached rfl
  · exact .ok value reached rfl

theorem mono {alike' good' bad' : S → S → Prop} {procedure : Procedure S α}
    (agrees : procedure.Agrees alike good bad)
    (start : ∀ first second, alike' first second → alike first second)
    (good_imp : ∀ first second, good first second → good' first second)
    (bad_imp : ∀ first second, bad first second → bad' first second) :
    procedure.Agrees alike' good' bad' := by
  intro env first second history related
  have agree := agrees env first second history (start _ _ related)
  generalize procedure.run env first history = left at agree ⊢
  generalize procedure.run env second history = right at agree ⊢
  cases agree with
  | ok value past ended => exact .ok value past (good_imp _ _ ended)
  | error error past ended => exact .error error past (bad_imp _ _ ended)

section Steps

protected theorem pure (value : α) : (pure value : Procedure S α).Agrees alike alike bad :=
  fun _ _ _ _ related => .ok _ _ related

protected theorem throw (error : Error) : (throw error : Procedure S α).Agrees alike good alike :=
  fun _ _ _ _ related => .error _ _ related

protected theorem modify {change : S → S}
    (kept : ∀ first second, alike first second → good (change first) (change second)) :
    (modify change : Procedure S PUnit).Agrees alike good bad :=
  fun _ _ _ _ related => .ok _ _ (kept _ _ related)

theorem ask {call : Call} :
    @Agrees S (no_index call.Answer) alike alike bad (Procedure.ask call) :=
  fun _ _ _ _ related => .ok _ _ related

theorem inUnloadOrder (loaded : List (Handle × Instance)) :
    (inUnloadOrder loaded : Procedure S _).Agrees alike alike bad :=
  fun _ _ _ _ related => .ok _ _ related

theorem inFreeOrder (images : List (Handle × Buffer)) :
    (inFreeOrder images : Procedure S _).Agrees alike alike bad :=
  fun _ _ _ _ related => .ok _ _ related

theorem accepted (answer : Fallible α) :
    (accepted answer : Procedure S α).Agrees alike alike alike := by
  cases answer with
  | ok value => exact .pure value
  | error reason => exact .throw _

protected theorem ofExcept (result : Except Error α) :
    (Procedure.ofExcept result : Procedure S α).Agrees alike alike alike := by
  cases result with
  | ok value => exact .pure value
  | error error => exact .throw error

end Steps

theorem bind {first : Procedure S α} {next : α → Procedure S β}
    (before : first.Agrees alike middle bad)
    (after : ∀ value, (next value).Agrees middle good bad) :
    (first >>= next).Agrees alike good bad := by
  intro env one other history related
  have agree := before env one other history related
  rw [run_bind, run_bind]
  generalize first.run env one history = left at agree ⊢
  generalize first.run env other history = right at agree ⊢
  cases agree with
  | ok value past reached => exact after value env _ _ past reached
  | error error past ended => exact .error error past ended

/-- Where what follows does not look at what may differ, it is the same from both states. -/
theorem get {next : S → Procedure S β}
    (blind : ∀ first second, alike first second → next first = next second)
    (after : ∀ first second, alike first second → (next first).Agrees alike good bad) :
    (get >>= next).Agrees alike good bad := by
  intro env one other history related
  have agree := after one other related env one other history related
  rw [run_bind, run_bind, run_get, run_get]
  dsimp only
  rw [← blind one other related]
  exact agree

theorem tryCatch {first : Procedure S α} {next : Error → Procedure S α}
    (before : first.Agrees alike good middle)
    (after : ∀ error, (next error).Agrees middle good bad) :
    (MonadExcept.tryCatch first next).Agrees alike good bad := by
  intro env one other history related
  have agree := before env one other history related
  show ((recover first next).run env one history).Agree good bad
    ((recover first next).run env other history)
  unfold run recover at *
  generalize first env one history = left at agree ⊢
  generalize first env other history = right at agree ⊢
  cases agree with
  | ok value past reached => exact .ok value past reached
  | error error past ended => exact after error env _ _ past ended

theorem attempt {procedure : Procedure S α} (agrees : procedure.Agrees alike good good) :
    procedure.attempt.Agrees alike good bad := by
  intro env one other history related
  have agree := agrees env one other history related
  unfold run Procedure.attempt at *
  generalize procedure env one history = left at agree ⊢
  generalize procedure env other history = right at agree ⊢
  cases agree with
  | ok value past reached => exact .ok _ past reached
  | error error past ended => exact .ok _ past ended

theorem within {part : S → T} {replace : S → T → S} {procedure : Procedure T α}
    {alike' good' bad' : T → T → Prop} (agrees : procedure.Agrees alike' good' bad')
    (start : ∀ first second, alike first second → alike' (part first) (part second))
    (reached : ∀ first second inner inner', alike first second → good' inner inner' →
      good (replace first inner) (replace second inner'))
    (failed : ∀ first second inner inner', alike first second → bad' inner inner' →
      bad (replace first inner) (replace second inner')) :
    (within part replace procedure).Agrees alike good bad := by
  intro env one other history related
  have agree := agrees env (part one) (part other) history (start one other related)
  rw [run_within, run_within]
  generalize procedure.run env (part one) history = left at agree ⊢
  generalize procedure.run env (part other) history = right at agree ⊢
  cases agree with
  | ok value past ended => exact .ok value past (reached one other _ _ related ended)
  | error error past ended => exact .error error past (failed one other _ _ related ended)

end Agrees

end Procedure

end Collective
