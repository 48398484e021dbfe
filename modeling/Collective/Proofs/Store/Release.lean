import Collective.Proofs.Store.Growth

/-!
# How the store is released

A release unloads every algorithm and frees every image, in an order that the
environment arranges, and leaves nothing behind but free slots.  A refusal changes
neither the calls nor the store; the first one is the result.
-/

namespace Collective

/-- What went wrong when something was given back. -/
def Event.fault? : Event → Option Error
  | ⟨.unload _, .error reason⟩ | ⟨.free _ _, .error reason⟩ => some (.collaborator reason)
  | ⟨.stopExternal _, code⟩ => if code = 0 then none else some (.externalFailed .shutdown code)
  | _ => none

namespace History

variable {env : Environment} {past middle now : History}

/-- How some events end that give things back, the earliest first: with the first fault. -/
def verdict (events : List Event) : Except Error Unit :=
  match events.findSome? Event.fault? with
  | some error => .error error
  | none => .ok ()

theorem verdict_append (first second : List Event) :
    verdict (first ++ second) = Store.earlier (verdict first) (verdict second) := by
  unfold verdict
  rw [List.findSome?_append]
  cases first.findSome? Event.fault? with
  | some error => rfl
  | none => cases second.findSome? Event.fault? <;> rfl

theorem verdict_unload (algorithm : Instance) (answer : Fallible Unit) :
    verdict [⟨.unload algorithm, answer⟩] = Store.released answer := by
  cases answer <;> rfl

theorem verdict_free (use : BufferUse) (buffer : Buffer) (answer : Fallible Unit) :
    verdict [⟨.free use buffer, answer⟩] = Store.released answer := by
  cases answer <;> rfl

theorem verdict_stop (scheduler : External) (code : Int32) :
    verdict [⟨.stopExternal scheduler, code⟩] =
      if code = 0 then .ok () else .error (.externalFailed .shutdown code) := by
  by_cases zero : code = 0 <;> simp [verdict, Event.fault?, zero]

/-- An environment answers in this way to some calls, the earliest first. -/
def Answered (env : Environment) (past : History) : List Event → Prop
  | [] => True
  | event :: others =>
      event.answer = env.answer past event.call ∧ Answered env (event :: past) others

theorem Answered.append {first second : List Event} (before : Answered env past first)
    (after : Answered env (first.reverse ++ past) second) :
    Answered env past (first ++ second) := by
  induction first generalizing past with
  | nil => exact after
  | cons event others ih =>
      obtain ⟨answer, rest⟩ := before
      rw [List.reverse_cons, List.append_assoc] at after
      exact ⟨answer, ih rest after⟩

/-- Between two moments exactly these calls were made, the earliest first, and the first of
them that failed makes the result. -/
def Gives (env : Environment) (past : History) (calls : List Call)
    (result : Except Error Unit) (now : History) : Prop :=
  ∃ events, Answered env past events ∧ events.map Event.call = calls ∧
    result = verdict events ∧ now = events.reverse ++ past

namespace Gives

theorem nil (history : History) : Gives env history [] (.ok ()) history :=
  ⟨[], trivial, rfl, rfl, rfl⟩

theorem single (call : Call) (history : History) :
    Gives env history [call] (verdict [⟨call, env.answer history call⟩])
      (⟨call, env.answer history call⟩ :: history) :=
  ⟨[_], ⟨rfl, trivial⟩, rfl, rfl, rfl⟩

theorem trans {first second : List Call} {one two : Except Error Unit}
    (before : Gives env past first one middle) (after : Gives env middle second two now) :
    Gives env past (first ++ second) (Store.earlier one two) now := by
  obtain ⟨events, answered, rfl, rfl, rfl⟩ := before
  obtain ⟨others, after, rfl, rfl, rfl⟩ := after
  exact ⟨events ++ others, answered.append after, List.map_append, (verdict_append _ _).symm,
    by rw [List.reverse_append, List.append_assoc]⟩

theorem adds {calls : List Call} {result : Except Error Unit}
    (gives : Gives env past calls result now) : Adds past calls now := by
  obtain ⟨events, -, rfl, -, rfl⟩ := gives
  exact ⟨events.reverse, rfl, by rw [← List.map_reverse, List.reverse_reverse]⟩

end Gives

end History

namespace Store

open Procedure History

variable {env : Environment} {store : Store} {history : History}

/-- The store with nothing in it and these slots free. -/
def cleared (store : Store) (free : List Handle) : Store :=
  { store with free, assigned := ∅, loaded := ∅, images := ∅, connected := [] }

/-- The calls that give back some algorithms and then some images. -/
def returning (loaded : List (Handle × Instance)) (images : List (Handle × Buffer)) :
    List Call :=
  (loaded.map fun entry => .unload entry.2) ++ images.map fun entry => .free .image entry.2

/-- Each algorithm was unloaded and then each image freed, and the store is empty. -/
def GivesBack (store : Store) (env : Environment) (history : History)
    (result : Except Error Unit) (after : Store) (later : History) : Prop :=
  ∃ loaded images, loaded.Perm store.loaded.entries ∧ images.Perm store.images.entries ∧
    after = store.cleared ((loaded.map Prod.fst).reverse ++ store.free) ∧
    Gives env history (returning loaded images) result later

theorem cleared_vacant (store : Store) (free : List Handle) : (store.cleared free).Vacant :=
  ⟨rfl, rfl, rfl, rfl⟩

theorem ensures_unloadEach (entries : List (Handle × Instance)) :
    (unloadEach entries).Ensures env store history
      (fun result after later =>
        after = { store with free := (entries.map Prod.fst).reverse ++ store.free } ∧
        Gives env history (entries.map fun entry => .unload entry.2) result later)
      (fun _ _ _ => False) := by
  induction entries generalizing store history with
  | nil => exact ⟨rfl, .nil history⟩
  | cons entry others ih =>
      obtain ⟨handle, algorithm⟩ := entry
      unfold unloadEach
      simp only [ensures_bind, ensures_ask, ensures_modify, ensures_pure]
      refine ih.mono ?_ (fun _ _ _ never => never)
      rintro _ _ later ⟨rfl, rest⟩
      have first : Gives env history [.unload algorithm] _ _ := .single _ history
      rw [verdict_unload] at first
      refine ⟨?_, first.trans rest⟩
      simp [giveBack]

theorem ensures_freeEach (entries : List (Handle × Buffer)) :
    (freeEach entries).Ensures env store history
      (fun result after later => after = store ∧
        Gives env history (entries.map fun entry => .free .image entry.2) result later)
      (fun _ _ _ => False) := by
  induction entries generalizing history with
  | nil => exact ⟨rfl, .nil history⟩
  | cons entry others ih =>
      obtain ⟨handle, image⟩ := entry
      unfold freeEach
      simp only [ensures_bind, ensures_ask, ensures_pure]
      refine ih.mono ?_ (fun _ _ _ never => never)
      rintro _ _ later ⟨rfl, rest⟩
      have first : Gives env history [.free .image image] _ _ := .single _ history
      rw [verdict_free] at first
      exact ⟨rfl, first.trans rest⟩

/-- However a release ends, it has given everything back. -/
theorem ensures_releaseAll :
    releaseAll.Ensures env store history (fun _ => store.GivesBack env history (.ok ()))
      (fun error => store.GivesBack env history (.error error)) := by
  unfold releaseAll
  simp only [ensures_bind, ensures_get, ensures_inUnloadOrder]
  refine (ensures_unloadEach _).mono ?_ (fun _ _ _ never => never.elim)
  rintro unloaded _ past ⟨rfl, unloads⟩
  simp only [ensures_inFreeOrder]
  refine (ensures_freeEach _).mono ?_ (fun _ _ _ never => never.elim)
  rintro freed _ later ⟨rfl, frees⟩
  rw [ensures_modify]
  apply ensures_ofExcept_result
  exact ⟨_, _, env.unloadOrder_perm history _, env.freeOrder_perm past _, rfl,
    unloads.trans frees⟩

end Store

end Collective
