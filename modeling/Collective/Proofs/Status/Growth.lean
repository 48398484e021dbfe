import Collective.Proofs.Store.Release
import Collective.Status

/-!
# How the status grows and is released

Between two releases the status only grows: a selector is chosen, the catalog is
filled, the store grows, the working memory is replaced, operations are executed.
`Status.Move` lists these moves with the calls they make and with what allows them;
`Status.Released` is the one step back.
-/

namespace Collective.Status

open Procedure History

/-- One move that executes nothing.  A field is overwritten only where nothing is lost
by it. -/
inductive Growth : Status → History → Status → History → Prop where
  | call {status : Status} {history : History} {event : Event} :
      event.quiet = true → Growth status history status (event :: history)
  | choose {status : Status} {history : History} (selector : Selector) :
      status.selector = none →
      Growth status history { status with selector := some selector } history
  | list {status : Status} {history : History} (algorithms : List Metadata) :
      status.selector = some .internal → status.catalog.loaded = false →
      Growth status history { status with catalog := { algorithms, loaded := true } } history
  | refill {status : Status} {history : History} :
      status.ready = false → status.store.Vacant →
      Growth status history { status with store := status.store.refill } history
  | store {status : Status} {history later : History} {after : Store} :
      status.store.Sound status.catalog.algorithms →
      Store.Growth status.catalog.algorithms status.store history after later →
      Growth status history { status with store := after } later
  | reset {status : Status} {history : History} :
      status.ready = false → status.scratch = none →
      Growth status history
        { status with scratch := none, workIndex := 1, lastStream := none } history
  | start {status : Status} {history : History} (flags : Buffer) :
      status.ready = false → status.syncFlags = none → status.selector.isSome = true →
      (status.selector = some .internal → status.catalog.loaded = true) →
      status.store.Sound status.catalog.algorithms →
      Growth status history { status with syncFlags := some flags, ready := true }
        (⟨.allocate .syncFlags syncFlagBytes, .ok flags⟩ :: history)
  | drop {status : Status} {history : History} {buffer : Buffer} (answer : Fallible Unit) :
      status.ready = true → status.scratch = some buffer →
      Growth status history { status with scratch := none }
        (⟨.free .scratch buffer, answer⟩ :: history)
  | stretch {status : Status} {history : History} (buffer : Buffer) (bytes : UInt64) :
      status.ready = true → status.scratch = none →
      Growth status history { status with scratch := some buffer }
        (⟨.allocate .scratch bytes, .ok buffer⟩ :: history)

/-- The launch of an operation on the algorithm in a slot, as this status makes it for a thread with
or without the mark. -/
def launchOf (status : Status) (asCaller : Bool) (pending : Pending) (handle : Handle)
    (algorithm : Instance) (syncFlags : Buffer) : Launch where
  request := pending.request
  handle := handle
  algorithm := algorithm
  image := status.store.images.get? handle
  scratch := status.scratch
  syncFlags := syncFlags
  workIndex := status.workIndex
  lastStream := status.lastStream
  comm := pending.comm
  stream := pending.stream
  asCaller := asCaller

/-- The status after a launch was answered. -/
def counted (status : Status) (stream : Stream) : Fallible Unit → Status
  | .ok () => { status with workIndex := status.workIndex + 1, lastStream := some stream }
  | .error _ => status

/-- One move of the status before it is released. -/
inductive Move : Status → History → Status → History → Prop where
  | growth {status after : Status} {history later : History} :
      Growth status history after later → Move status history after later
  | launch {status : Status} {history : History} {asCaller : Bool} {pending : Pending}
      {handle : Handle} {algorithm : Instance} {syncFlags : Buffer} (answer : Fallible Unit) :
      status.ready = true → status.store.loaded.get? handle = some algorithm →
      status.syncFlags = some syncFlags →
      Move status history (status.counted pending.stream answer)
        (⟨.launch (status.launchOf asCaller pending handle algorithm syncFlags), answer⟩ ::
          history)
  | plain {status : Status} {history : History} (call : PlainCall)
      (answer : Fallible Unit) :
      Move status history status (⟨.plain call, answer⟩ :: history)

/-- The call that ends the time of a selector, where one is needed. -/
def stopping : Option Selector → List Call
  | some (.external scheduler) => [.stopExternal scheduler]
  | _ => []

/-- The calls that give back what the status holds beside the store. -/
def returning (status : Status) : List Call :=
  status.scratch.toList.map (.free .scratch) ++ status.syncFlags.toList.map (.free .syncFlags) ++
    stopping status.selector

/-- All calls of a release give something back. -/
theorem returning_returns (status : Status) (loaded : List (Handle × Instance))
    (images : List (Handle × Buffer)) :
    ∀ call ∈ Store.returning loaded images ++ status.returning, call.returns = true := by
  intro call member
  simp only [Store.returning, returning, List.mem_append, List.mem_map,
    Option.mem_toList] at member
  rcases member with (⟨_, _, rfl⟩ | ⟨_, _, rfl⟩) | (⟨_, _, rfl⟩ | ⟨_, _, rfl⟩) | stopped
  · rfl
  · rfl
  · rfl
  · rfl
  · unfold stopping at stopped
    split at stopped
    · rw [List.mem_singleton.mp stopped]
      rfl
    · cases stopped

/-- The status with nothing in it and these slots free. -/
def emptied (status : Status) (free : List Handle) : Status :=
  { status with
    selector := none
    catalog := if status.isExternal then status.catalog else {}
    store := status.store.cleared free
    scratch := none
    syncFlags := none
    lastStream := none
    ready := false }

/-- Everything that a status holds was given back, each thing once. -/
def Released (status : Status) (history : History) (after : Status) (later : History) : Prop :=
  ∃ loaded images, loaded.Perm status.store.loaded.entries ∧
    images.Perm status.store.images.entries ∧
    after = status.emptied ((loaded.map Prod.fst).reverse ++ status.store.free) ∧
    Adds history (Store.returning loaded images ++ status.returning) later

/-- Nothing is up: no launch is possible and nothing is held. -/
structure Dormant (status : Status) : Prop where
  closed : status.ready = false
  store : status.store.Vacant
  scratch : status.scratch = none
  syncFlags : status.syncFlags = none
  lastStream : status.lastStream = none
  catalog : status.catalog = {}
  selector : status.selector = none ∨
    ∃ key, status.selector = some (.external (.installed key))

/-- The parts of a status fit together, also in the midst of a call. -/
structure Coherent (status : Status) : Prop where
  store : status.store.Vacant ∨ status.store.Sound status.catalog.algorithms
  flags : status.ready = status.syncFlags.isSome
  scratch : status.ready = false → status.scratch = none
  stream : status.ready = false → status.lastStream = none
  unlisted : status.catalog.loaded = false → status.catalog = {}
  foreign : status.selector ≠ some .internal → status.catalog = {}
  chosen : status.ready = true → status.selector.isSome = true
  listed : status.ready = true → status.selector = some .internal →
    status.catalog.loaded = true
  sound : status.ready = true → status.store.Sound status.catalog.algorithms

/-- The status between two calls: all is up, or nothing is. -/
def Settled (status : Status) : Prop :=
  status.Coherent ∧ (status.ready = false → status.Dormant)

variable {status after : Status} {history later : History}

theorem Dormant.coherent (dormant : status.Dormant) : status.Coherent where
  store := .inl dormant.store
  flags := by rw [dormant.closed, dormant.syncFlags]; rfl
  scratch _ := dormant.scratch
  stream _ := dormant.lastStream
  unlisted _ := dormant.catalog
  foreign _ := dormant.catalog
  chosen ready := by rw [dormant.closed] at ready; cases ready
  listed ready := by rw [dormant.closed] at ready; cases ready
  sound ready := by rw [dormant.closed] at ready; cases ready

theorem Dormant.settled (dormant : status.Dormant) : status.Settled :=
  ⟨dormant.coherent, fun _ => dormant⟩

theorem dormant_initial : ({} : Status).Dormant :=
  ⟨rfl, ⟨rfl, rfl, rfl, rfl⟩, rfl, rfl, rfl, rfl, .inl rfl⟩

/-- A coherent status is closed while nobody selects. -/
theorem Coherent.closed_of_unchosen (coherent : status.Coherent)
    (unchosen : status.selector = none) : status.ready = false := by
  by_contra ready
  have chosen := coherent.chosen (by simpa using ready)
  rw [unchosen] at chosen
  cases chosen

/-- A coherent status that is closed for launches holds no flags. -/
theorem Coherent.flagless (coherent : status.Coherent) (closed : status.ready = false) :
    status.syncFlags = none := by
  apply Option.not_isSome_iff_eq_none.mp
  rw [← coherent.flags, closed]
  exact Bool.false_ne_true

theorem Growth.coherent (grown : Growth status history after later)
    (before : status.Coherent) : after.Coherent := by
  cases grown with
  | call => exact before
  | choose selector unchosen =>
      have closed := before.closed_of_unchosen unchosen
      have unlisted := before.foreign (by simp [unchosen])
      exact { before with
        foreign := fun _ => unlisted
        chosen := fun _ => rfl
        listed := fun ready => by rw [closed] at ready; cases ready }
  | list algorithms internal unlisted =>
      have empty := before.unlisted unlisted
      have closed : status.ready = false := by
        by_contra ready
        have listed := before.listed (by simpa using ready) internal
        rw [unlisted] at listed
        cases listed
      refine { before with
        store := ?_
        unlisted := fun absent => by cases absent
        foreign := fun other => absurd internal other
        listed := fun _ _ => rfl
        sound := fun ready => by rw [closed] at ready; cases ready }
      rcases before.store with vacant | sound
      · exact .inl vacant
      · refine .inr ⟨sound.slots, sound.imaged, sound.linked, ?_⟩
        intro index rank handle found
        obtain ⟨metadata, algorithm, entry, rest⟩ := sound.recorded found
        rw [empty] at entry
        cases entry
  | refill closed vacant =>
      exact { before with
        store := .inl ⟨vacant.loaded, vacant.images, vacant.assigned, vacant.connected⟩
        sound := fun ready => by rw [closed] at ready; cases ready }
  | store sound moved =>
      exact { before with
        store := .inr (moved.sound sound)
        sound := fun _ => moved.sound sound }
  | reset closed none =>
      exact { before with
        scratch := fun _ => rfl
        stream := fun _ => rfl }
  | start flags closed none chosen listed sound =>
      exact { before with
        flags := rfl
        scratch := fun ready => by cases ready
        stream := fun ready => by cases ready
        chosen := fun _ => chosen
        listed := fun _ => listed
        sound := fun _ => sound }
  | drop answer ready held =>
      exact { before with scratch := fun _ => rfl }
  | stretch buffer bytes ready none =>
      exact { before with scratch := fun closed => by rw [ready] at closed; cases closed }

theorem Move.coherent (moved : Move status history after later)
    (before : status.Coherent) : after.Coherent := by
  cases moved with
  | growth grown => exact grown.coherent before
  | launch answer ready =>
      cases answer with
      | error reason => exact before
      | ok =>
          exact { before with
            stream := fun closed => by
              have : status.ready = false := closed
              rw [ready] at this
              cases this }
  | plain => exact before

/-- What is up, chosen, listed or in the store stays so. -/
structure Extends (before after : Status) : Prop where
  ready : before.ready = true → after.ready = true
  selector : before.selector.isSome = true → after.selector = before.selector
  catalog : before.catalog.loaded = true → after.catalog = before.catalog
  store : before.store.Extends after.store

namespace Extends

theorem refl (status : Status) : Extends status status :=
  ⟨id, fun _ => rfl, fun _ => rfl, .refl _⟩

theorem trans {first second third : Status} (before : Extends first second)
    (after : Extends second third) : Extends first third where
  ready up := after.ready (before.ready up)
  selector chosen := by
    have kept := before.selector chosen
    rw [after.selector (by rw [kept]; exact chosen), kept]
  catalog listed := by
    have kept := before.catalog listed
    rw [after.catalog (by rw [kept]; exact listed), kept]
  store := before.store.trans after.store

end Extends

theorem Growth.extends_after (grown : Growth status history after later) :
    status.Extends after := by
  cases grown with
  | call => exact .refl status
  | choose selector unchosen =>
      refine { Extends.refl status with selector := fun chosen => ?_ }
      rw [unchosen] at chosen
      cases chosen
  | list algorithms internal unlisted =>
      refine { Extends.refl status with catalog := fun listed => ?_ }
      rw [unlisted] at listed
      cases listed
  | refill closed vacant => exact { Extends.refl status with store := ⟨id, id, id⟩ }
  | store sound moved =>
      exact { Extends.refl status with store := moved.extends_of_sound sound }
  | reset => exact { Extends.refl status with }
  | start => exact { Extends.refl status with ready := fun _ => rfl }
  | drop => exact { Extends.refl status with }
  | stretch => exact { Extends.refl status with }

theorem Move.extends_after (moved : Move status history after later) :
    status.Extends after := by
  cases moved with
  | growth grown => exact grown.extends_after
  | launch answer =>
      cases answer with
      | error => exact .refl status
      | ok => exact { Extends.refl status with }
  | plain => exact .refl status

theorem moving_coherent (moving : Along Move status history after later)
    (before : status.Coherent) : after.Coherent :=
  moving.keeps (fun reached _ => reached.Coherent) Move.coherent before

theorem moving_extends (moving : Along Move status history after later) :
    status.Extends after :=
  moving.keeps (fun reached _ => status.Extends reached)
    (fun moved extended => extended.trans moved.extends_after) (.refl status)

/-- A release leaves nothing up. -/
theorem Released.dormant (released : Released status history after later)
    (before : status.Coherent) : after.Dormant := by
  obtain ⟨loaded, images, -, -, rfl, -⟩ := released
  refine ⟨rfl, status.store.cleared_vacant _, rfl, rfl, rfl, ?_, .inl rfl⟩
  show (if status.isExternal then status.catalog else {}) = _
  split
  next external =>
    apply before.foreign
    intro internal
    simp [isExternal, internal] at external
  next => rfl

end Collective.Status
