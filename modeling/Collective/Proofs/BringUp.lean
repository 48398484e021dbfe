import Collective.Proofs.Externals
import Collective.Proofs.Slots
import Collective.Proofs.Store.Placement

/-!
# All is brought up once

A period parses every algorithm file once at most, asks for the synchronisation flags once
and prepares the kernels once, all in its first turn.  What its preparations load is loaded
once for each entry and rank.
-/

namespace Collective

open Procedure History

namespace Call

/-- The file that a call parses. -/
def parsed? : Call → Option Path
  | .parse file => some file
  | _ => none

/-- The architecture for which a call prepares the kernels. -/
def architecture? : Call → Option UInt32
  | .initKernels architecture => some architecture
  | _ => none

end Call

/-- The answer to a call for synchronisation flags. -/
def Event.flags? : Event → Option (Fallible Buffer)
  | ⟨.allocate .syncFlags _, answer⟩ => some answer
  | _ => none

namespace History

/-- The files that were parsed, the latest first. -/
def parses (history : History) : List Path := history.filterMap fun event => event.call.parsed?

/-- The answers to the calls for synchronisation flags, the latest first. -/
def flagAnswers (history : History) : List (Fallible Buffer) := history.filterMap Event.flags?

/-- The architectures whose kernels were prepared, the latest first. -/
def kernels (history : History) : List UInt32 :=
  history.filterMap fun event => event.call.architecture?

/-- Between two moments these files were parsed, calls for flags were so answered, and the
kernels were prepared for these architectures. -/
def Tallies (past : History) (files : List Path) (flags : List (Fallible Buffer))
    (architectures : List UInt32) (now : History) : Prop :=
  ∃ events, now = events ++ past ∧
    parses events = files ∧ flagAnswers events = flags ∧ kernels events = architectures

end History

/-- A concern whose calls a period makes once. -/
def Concern.single : Concern → Bool
  | .catalog | .flags | .kernels => true
  | _ => false

/-- A call that neither parses nor asks for flags nor prepares the kernels. -/
def Event.common (event : Event) : Bool :=
  event.call.parsed?.isNone && event.flags?.isNone && event.call.architecture?.isNone

theorem Event.common_of_about {concerns : List Concern} {event : Event}
    (apart : concerns.all (fun concern => !concern.single) = true)
    (right : about concerns event = true) : event.common = true := by
  have other := List.all_eq_true.mp apart _ (List.contains_iff_mem.mp right)
  obtain ⟨call, answer⟩ := event
  cases call with
  | parse | initKernels => cases other
  | allocate use => cases use <;> first | rfl | cases other
  | _ => rfl

namespace History.Tallies

variable {past middle now : History} {files more : List Path}
variable {flags otherFlags : List (Fallible Buffer)} {architectures others : List UInt32}

theorem trans (before : Tallies past files flags architectures middle)
    (after : Tallies middle more otherFlags others now) :
    Tallies past (more ++ files) (otherFlags ++ flags) (others ++ architectures) now := by
  obtain ⟨earlier, rfl, rfl, rfl, rfl⟩ := before
  obtain ⟨later, rfl, rfl, rfl, rfl⟩ := after
  exact ⟨later ++ earlier, by simp, by simp [parses], by simp [flagAnswers], by simp [kernels]⟩

theorem common (made : Only Event.common past now) : Tallies past [] [] [] now := by
  obtain ⟨events, rfl, made⟩ := made
  have parts (event : Event) (member : event ∈ events) :
      (event.call.parsed? = none ∧ event.flags? = none) ∧ event.call.architecture? = none := by
    simpa [Event.common] using made event member
  refine ⟨events, rfl, ?_, ?_, ?_⟩
  · exact List.filterMap_eq_nil_iff.mpr fun event member => (parts event member).1.1
  · exact List.filterMap_eq_nil_iff.mpr fun event member => (parts event member).1.2
  · exact List.filterMap_eq_nil_iff.mpr fun event member => (parts event member).2

theorem only {concerns : List Concern} (made : Only (about concerns) past now)
    (apart : concerns.all (fun concern => !concern.single) = true) :
    Tallies past [] [] [] now := by
  obtain ⟨events, grown, made⟩ := made
  exact common ⟨events, grown, fun event member => Event.common_of_about apart (made event member)⟩

theorem single (event : Event) (history : History) :
    Tallies history event.call.parsed?.toList event.flags?.toList
      event.call.architecture?.toList (event :: history) := by
  refine ⟨[event], rfl, ?_, ?_, ?_⟩
  · cases found : event.call.parsed? <;> simp [parses, found]
  · cases found : event.flags? <;> simp [flagAnswers, found]
  · cases found : event.call.architecture? <;> simp [kernels, found]

end History.Tallies

/-! ## The first turn of a period -/

section Catalog

variable {S : Type} {env : Environment} {state : S} {history : History}

/-- Every file is parsed once, and the metadata name the files that they are of. -/
theorem Catalog.ensures_parsed (files : List Path) :
    (Catalog.parseAll files : Procedure S _).Ensures env state history
      (fun algorithms after later => after = state ∧ algorithms.map (·.file) = files ∧
        Tallies history files.reverse [] [] later)
      (fun _ _ _ => True) := by
  induction files generalizing history with
  | nil => exact ⟨rfl, rfl, [], rfl, rfl, rfl, rfl⟩
  | cons file others ih =>
      unfold Catalog.parseAll
      simp only [ensures_bind, ensures_ask]
      generalize env.answer history (.parse file) = parsed
      cases parsed with
      | error reason => trivial
      | ok algorithm =>
          rw [ensures_bind]
          apply ih.weaken
          rintro algorithms _ later ⟨rfl, named, tallied⟩
          refine ⟨rfl, congrArg (file :: ·) named, ?_⟩
          rw [List.reverse_cons]
          exact (Tallies.single ⟨.parse file, .ok algorithm⟩ history).trans tallied

/-- A catalog that is filled lists every file that was parsed, each once. -/
theorem Catalog.ensures_discovered {catalog : Catalog} (config : Config)
    (unlisted : catalog.loaded = false) :
    (Catalog.discover config).Ensures env catalog history
      (fun _ after later => (after.algorithms.map (·.file)).Nodup ∧
        Tallies history (after.algorithms.map (·.file)).reverse [] [] later)
      (fun _ _ _ => True) := by
  unfold Catalog.discover
  simp only [ensures_bind, ensures_get, unlisted, Bool.false_eq_true, if_false,
    ensures_executableDirectory]
  have searching (directories : List Path) :
      (Catalog.firstOpen directories : Procedure Catalog _).Makes Event.common :=
    makes_firstOpen directories fun _ _ => rfl
  apply ((Catalog.ensures_firstOpen _).only (searching _)).mono
  · rintro found _ past ⟨-, opened⟩
    have searched := Tallies.common opened
    cases found with
    | none => trivial
    | some directory =>
        unfold filesIn
        simp only [ensures_bind, ensures_ask, ensures_set]
        generalize env.answer past (.listDirectory directory) = listed
        cases listed with
        | error reason => trivial
        | ok entries =>
            rw [ensures_pure]
            apply (Catalog.ensures_parsed _).weaken
            rintro algorithms _ later ⟨-, named, tallied⟩
            have shown : Tallies history [] [] []
                (⟨.listDirectory directory, .ok entries⟩ :: past) :=
              searched.trans (.single _ past)
            rw [named]
            exact ⟨Path.sorted_nodup _, by simpa using shown.trans tallied⟩
  · exact fun _ _ _ _ => trivial

end Catalog

/-- Calls that have nothing to do with the store load nothing. -/
theorem History.Gains.only {past now : History} {concerns : List Concern}
    (made : Only (about concerns) past now) (apart : .store ∉ concerns) : Gains past [] now := by
  obtain ⟨events, rfl, made⟩ := made
  induction events with
  | nil => exact .none past
  | cons event others ih =>
      have rest := ih fun other member => made other (List.mem_cons_of_mem event member)
      have right := List.contains_iff_mem.mp (made event List.mem_cons_self)
      obtain ⟨call, answer⟩ := event
      cases call with
      | load | unload => exact absurd right apart
      | _ => exact rest.trans (.other rfl rfl _)

namespace Status

variable {env : Environment} {status : Status} {history start : History}

/-- Only the selector is new afterwards. -/
theorem ensures_ensureSelector_eq (config : Config) :
    (ensureSelector config).Ensures env status history
      (fun selector after _ => after = { status with selector := some selector })
      (fun _ _ _ => True) := by
  unfold ensureSelector
  rw [ensures_bind, ensures_get]
  cases chosen : status.selector with
  | some selector =>
      obtain ⟨same⟩ := status
      exact congrArg (fun selector => Status.mk selector _ _ _ _ _ _ _) chosen
  | none =>
      rw [ensures_bind]
      apply (Selector.ensures_discover config).weaken
      rintro selector _ _ ⟨rfl, _⟩
      rfl

/-- Since a moment a status was made ready: the flags were asked for once and granted, no file
was parsed twice, and what was loaded is placed. -/
structure Raised (start : History) (architectures : List UInt32) (status : Status)
    (now : History) : Prop where
  tallied : ∃ files flags, files.Nodup ∧ Tallies start files [.ok flags] architectures now
  apart : (status.catalog.algorithms.map (·.file)).Nodup
  placed : Store.Placing status.catalog.algorithms start [] status.store now

theorem ensures_startLaunches_raised {files : List Path} (distinct : files.Nodup)
    (tallied : Tallies start files [] [] history)
    (apart : (status.catalog.algorithms.map (·.file)).Nodup)
    (placed : Store.Placing status.catalog.algorithms start [] status.store history) :
    startLaunches.Ensures env status history (fun _ => Raised start [])
      (fun _ _ _ => True) := by
  rw [ensures_startLaunches_iff]
  dsimp only
  cases env.answer history (.allocate .syncFlags syncFlagBytes) with
  | error reason => trivial
  | ok flags =>
      let event : Event := ⟨.allocate .syncFlags syncFlagBytes, .ok flags⟩
      obtain ⟨sound, gained, gains, held⟩ := placed
      have unchanged : Gains history [] (event :: history) := .other rfl rfl history
      exact ⟨⟨files, flags, distinct, tallied.trans (.single event history)⟩, apart,
        sound, gained, gains.trans unchanged, held⟩

/-- A refilled store has nothing placed in it. -/
theorem refill_placing {store : Store} (vacant : store.Vacant) (algorithms : List Metadata)
    (gains : Gains start [] history) :
    Store.Placing algorithms start [] store.refill history := by
  refine ⟨vacant.refill_sound algorithms, [], gains, ?_⟩
  have none : store.refill.assigned = ∅ := vacant.assigned
  rw [Store.Placed, none]
  exact .nil

/-- A first attempt that succeeds has asked for everything once. -/
theorem Dormant.ensures_prepare_raised (config : Config) (comm : Communicator)
    (dormant : status.Dormant) :
    (prepare config comm).Ensures env status history (fun _ => Raised history [])
      (fun _ _ _ => True) := by
  unfold prepare
  rw [ensures_bind]
  apply ((ensures_ensureSelector_eq config).only (makes_ensureSelector config)).mono
  · rintro selector _ past ⟨rfl, asked⟩
    have nothing := Tallies.only asked rfl
    have unloaded := Gains.only asked (by decide)
    have closed := dormant.closed
    cases selector with
    | external scheduler =>
        simp only [channels, ensures_bind, ensures_pure, ensures_get, ensures_modify, closed,
          Bool.not_false, if_true, reduceCtorEq, if_false]
        apply ensures_startLaunches_raised List.nodup_nil nothing
        · show (status.catalog.algorithms.map _).Nodup
          rw [dormant.catalog]
          exact List.nodup_nil
        · exact refill_placing dormant.store _ unloaded
    | internal =>
        simp only [channels, onCatalog, onStore, ensures_bind, ensures_within, ensures_pure,
          ensures_get]
        have unlisted : status.catalog.loaded = false := by rw [dormant.catalog]
        apply ((Catalog.ensures_discovered config unlisted).only
          (Catalog.makes_discover config)).weaken
        rintro _ catalog middle ⟨⟨apart, parsed⟩, listed⟩
        have tallied := nothing.trans parsed
        have still := unloaded.trans (Gains.only listed (by decide))
        simp only [closed, Bool.not_false, if_true, ensures_bind, ensures_modify, ensures_get,
          ensures_within]
        apply ((Store.keeps_placing_prepare catalog comm env _ middle
          (refill_placing dormant.store _ still)).only (Store.makes_prepare catalog comm)).weaken
        rintro _ store later ⟨placed, filled⟩
        have both := tallied.trans (Tallies.only filled rfl)
        apply ensures_startLaunches_raised (List.nodup_reverse.mpr apart)
        · simpa using both
        · exact apart
        · exact placed
  · exact fun _ _ _ _ => trivial

theorem Dormant.ensures_bringUp_raised (config : Config) (comm : Communicator)
    (dormant : status.Dormant) :
    (bringUp config comm).Ensures env status history (fun _ => Raised history [])
      (fun _ after _ => after.ready = false) := by
  have prepared : (bringUp config comm).Ensures env status history
      (fun _ => Raised history []) (fun _ _ _ => True) :=
    ensures_bringUp_of_prepare (dormant.ensures_prepare_raised config comm)
  apply (prepared.and (ensures_bringUp config comm dormant.settled)).mono
  · exact fun _ _ _ both => both.1
  · exact fun _ _ _ both => both.2.2.trans dormant.closed

/-- The preparation of the kernels ends what is done once. -/
theorem Raised.kernels {architecture : UInt32} {later : History}
    (raised : Raised start [] status history)
    (tallied : Tallies history [] [] [architecture] later)
    (gains : Gains history [] later) : Raised start [architecture] status later where
  tallied := by
    obtain ⟨files, flags, distinct, before⟩ := raised.tallied
    exact ⟨files, flags, distinct, before.trans tallied⟩
  apart := raised.apart
  placed := by
    obtain ⟨sound, gained, before, placed⟩ := raised.placed
    exact ⟨sound, gained, before.trans gains, placed⟩

end Status

namespace Machine

variable {env : Environment} {machine : Machine} {history : History}

/-- The kernels are prepared once, also where they are refused. -/
theorem ensures_adjustStack_tallied {S : Type} {state : S} (config : Config)
    (comm : Communicator) :
    let prepared := fun (_ : S) later => Tallies history [] [] [comm.architecture] later
    (adjustStack config comm).Ensures env state history (fun _ => prepared)
      (fun _ => prepared) := by
  intro prepared
  unfold adjustStack
  simp only [ensures_bind, ensures_ask, ensures_accepted]
  generalize env.answer history .stackLimit = limit
  generalize env.answer _ (.initKernels comm.architecture) = kernels
  have asked := (Tallies.single ⟨.stackLimit, limit⟩ history).trans
    (.single ⟨.initKernels comm.architecture, kernels⟩ _)
  cases kernels with
  | error reason => exact asked
  | ok needed =>
      simp only [ensures_ite, ensures_bind, ensures_ask, ensures_pure]
      generalize (_ && config.setStackSize) = raises
      cases raises with
      | true => exact asked.trans (.single ⟨.setStackLimit needed, _⟩ _)
      | false => exact asked

/-- A communicator that joins before anything is up leaves all up as it is after one
preparation, or nothing. -/
theorem ensures_joinFirst (config : Config) (comm : Communicator)
    (dormant : machine.status.Dormant) :
    let raised := fun (after : Machine) later => after.status.ready = true →
      ∃ architecture, Status.Raised history [architecture] after.status later
    (join config comm).Ensures env machine history (fun _ => raised) (fun _ => raised) := by
  intro raised
  have closed : (machine.mark comm (fit config comm)).status.ready = false := dormant.closed
  unfold join onStatus
  simp only [ensures_bind, ensures_modify, ensures_ite, ensures_pure, ensures_get,
    ensures_within, closed, Bool.not_false, if_true]
  split
  next => exact fun up => absurd (closed.symm.trans up) Bool.false_ne_true
  next =>
    apply (dormant.ensures_bringUp_raised config comm).mono
    · intro needed status past made
      have adjusted (state : Machine) := (((@ensures_adjustStack env past Machine state config
        comm).and (ensures_adjustStack_tallied config comm)).only
          (makes_adjustStack config comm))
      apply (adjusted _).mono
      · rintro _ _ later ⟨⟨⟨rfl, -⟩, tallied⟩, asked⟩ _
        exact ⟨_, made.kernels tallied (Gains.only asked (by decide))⟩
      · rintro _ _ later ⟨⟨⟨⟨rfl, -⟩, -⟩, tallied⟩, asked⟩ _
        exact ⟨_, made.kernels tallied (Gains.only asked (by decide))⟩
    · exact fun _ _ _ down up => absurd (down.symm.trans up) Bool.false_ne_true

/-- While all is up a communicator that joins has only the store filled, and what is loaded for
it is placed after what was. -/
theorem ensures_joinUp_placing (config : Config) (comm : Communicator)
    (coherent : machine.status.Coherent) (up : machine.status.ready = true)
    {before : List Instance}
    (placed : machine.status.store.Placed machine.status.catalog.algorithms before) :
    let filled := fun (after : Machine) later => after.status.catalog = machine.status.catalog ∧
      Store.Placing machine.status.catalog.algorithms history before after.status.store later ∧
      Only (about [.store]) history later
    (join config comm).Ensures env machine history (fun _ => filled) (fun _ => filled) := by
  intro filled
  have start : Store.Placing machine.status.catalog.algorithms history before
      machine.status.store history :=
    ⟨coherent.sound up, [], .none history, by simpa using placed⟩
  have same : filled (machine.mark comm (fit config comm)) history :=
    ⟨rfl, start, .refl _ history⟩
  rw [ensures_joinUp config comm coherent up]
  dsimp only
  split
  · split
    · exact same
    · apply ((Store.keeps_placing_prepare _ comm env _ history start).only
        (Store.makes_prepare _ comm)).mono
      · exact fun _ _ _ both => ⟨rfl, both⟩
      · exact fun _ _ _ both => ⟨rfl, both⟩
  · exact same

end Machine

/-! ## Periods -/

namespace Run

variable {run : Run} {first number : Nat}

/-- What is loaded for a communicator that joins in a turn and not unloaded again in it, the
earliest first. -/
def prepared (run : Run) (number : Nat) : List Instance :=
  match run.turns[number]? with
  | some ⟨_, .join _⟩ => (kept (run.between number (number + 1))).reverse
  | _ => []

/-- What is loaded from one scene to another for communicators that join, the earliest
first. -/
def preparedBetween (run : Run) (first last : Nat) : List Instance :=
  (List.range' first (last - first)).flatMap run.prepared

theorem preparedBetween_succ (order : first ≤ number) :
    run.preparedBetween first (number + 1) =
      run.preparedBetween first number ++ run.prepared number := by
  have last : first + (number - first) = number := Nat.add_sub_cancel' order
  rw [preparedBetween, Nat.succ_sub order, List.range'_concat, List.flatMap_append,
    Nat.one_mul, last, List.flatMap_singleton, preparedBetween]

theorem prepared_of_other {turn : Turn} (taken : run.turns[number]? = some turn)
    (other : ∀ comm, turn.command ≠ .join comm) : run.prepared number = [] := by
  obtain ⟨thread, command⟩ := turn
  unfold prepared
  rw [taken]
  cases command with
  | join comm => exact absurd rfl (other comm)
  | _ => rfl

/-- The calls of a turn that has moved on, as what a turn of its kind tallies. -/
theorem only_turn {turn : Turn} (taken : run.turns[number]? = some turn) :
    Only (about turn.command.concerns) (run.history number) (run.history (number + 1)) :=
  ⟨_, history_between (Nat.le_succ number), only_between taken⟩

/-- Since a scene all was brought up once, and what was loaded for communicators that joined is
placed. -/
structure BroughtUp (run : Run) (first number : Nat) : Prop where
  tallied : ∃ files flags architecture, files.Nodup ∧
    Tallies (run.history first) files [.ok flags] [architecture] (run.history number)
  apart : ((run.status number).catalog.algorithms.map (·.file)).Nodup
  placed : (run.status number).store.Placed (run.status number).catalog.algorithms
    (run.preparedBetween first number)

/-- A turn that leaves the files, the flags and the kernels alone. -/
theorem BroughtUp.turn (before : run.BroughtUp first number)
    (tallied : Tallies (run.history number) [] [] [] (run.history (number + 1)))
    (same : (run.status (number + 1)).catalog = (run.status number).catalog)
    (placed : (run.status (number + 1)).store.Placed (run.status number).catalog.algorithms
      (run.preparedBetween first (number + 1))) : run.BroughtUp first (number + 1) where
  tallied := by
    obtain ⟨files, flags, architecture, distinct, earlier⟩ := before.tallied
    exact ⟨files, flags, architecture, distinct, earlier.trans tallied⟩
  apart := by
    rw [same]
    exact before.apart
  placed := by
    rw [same]
    exact placed

/-- The first turn of a period brings all up. -/
theorem Period.broughtUp_first (period : run.Period first number) :
    run.BroughtUp first (first + 1) := by
  obtain ⟨thread, comm, taken⟩ := period.joined
  have raised := @Machine.ensures_joinFirst run.env (run.scene first).machine
    (run.history first) run.config comm period.dormant
  obtain ⟨architecture, tallied, apart, -, gained, gains, placed⟩ :=
    after_join raised taken period.opened
  obtain ⟨files, flags, distinct, tallied⟩ := tallied
  refine ⟨⟨files, flags, architecture, distinct, tallied⟩, apart, ?_⟩
  rw [preparedBetween_succ le_rfl, preparedBetween, Nat.sub_self, prepared, taken,
    kept_between gains]
  exact placed

theorem Period.broughtUp (period : run.Period first number) : run.BroughtUp first number := by
  refine period.induct (run.BroughtUp first) period.broughtUp_first ?_ ?_
  · intro middle turn earlier taken open_ before
    obtain ⟨thread, command⟩ := turn
    have up : (run.status (middle + 1)).ready = true := (turned taken).up open_ earlier.ready
    by_cases joins : ∃ comm, command = .join comm
    · obtain ⟨comm, rfl⟩ := joins
      have filled := @Machine.ensures_joinUp_placing run.env _ (run.history middle) run.config
        comm (run.settled middle).1 earlier.ready _ before.placed
      obtain ⟨same, ⟨-, gained, gains, placed⟩, made⟩ := after_join filled taken
      apply before.turn (.only made rfl) same
      rw [preparedBetween_succ earlier.order.le, prepared, taken, kept_between gains]
      exact placed
    · have other (comm : Communicator) : command ≠ .join comm := fun same => joins ⟨comm, same⟩
      have same := after_turn (Machine.keeps_recorded command other open_ run.env
        (run.scene middle).machine _ rfl) taken
      have extended := (Status.moving_extends (moved_of_up taken up)).store
      apply before.turn
      · apply Tallies.only (only_turn taken)
        cases command with
        | join comm => exact absurd rfl (other comm)
        | shutDown => exact absurd rfl open_
        | _ => rfl
      · exact congrArg Prod.fst same
      · rw [preparedBetween_succ earlier.order.le, prepared_of_other taken other, List.append_nil]
        exact before.placed.mono extended.loaded (congrArg Prod.snd same)
  · intro middle order idle before
    have still : run.status (middle + 1) = run.status middle :=
      congrArg (fun scene => scene.machine.status) idle
    have silent : run.history (middle + 1) = run.history middle := congrArg Scene.history idle
    have nothing : run.prepared middle = [] := by
      unfold prepared
      rw [@between_of_append run middle (middle + 1) [] silent]
      split <;> rfl
    apply before.turn
    · rw [silent]
      exact .common (.refl _ _)
    · rw [still]
    · rw [still, preparedBetween_succ order, nothing, List.append_nil]
      exact before.placed

/-- Whatever fails, and whoever joins, loads, connects or submits in whatever order: in every
period no algorithm file is parsed twice, the synchronisation flags are asked for once and
granted, and the kernels are prepared once; what is loaded for communicators that join is loaded
for recorded entries and ranks, once for each; and every connection that is made is recorded,
none of them twice.  A communicator that has joined gets the same answer when it joins again,
until somebody shuts down: nobody is called, and all stays as it is. -/
theorem brought_up_once (run : Run) :
    (∀ first number, run.Period first number →
      (parses (run.between first number)).Nodup ∧
      (∃ flags, flagAnswers (run.between first number) = [.ok flags]) ∧
      (∃ architecture, kernels (run.between first number) = [architecture]) ∧
      (run.status number).store.Placed (run.status number).catalog.algorithms
        (run.preparedBetween first number) ∧
      ((run.preparedBetween first number).map fun algorithm =>
        (algorithm.file, algorithm.rank)).Nodup ∧
      (run.status number).store.Linked (connections (run.between first number))) ∧
    ∀ joining number thread comm channels, joining < number →
      run.turns[joining]? = some ⟨thread, .join comm⟩ →
      (run.outcome (run.scene joining) ⟨thread, .join comm⟩).result = .ok (.channels channels) →
      run.Steady (joining + 1) number → ∀ other,
        run.outcome (run.scene number) ⟨other, .join comm⟩ =
          ⟨.ok (.channels channels), (run.scene number).machine, run.history number⟩ := by
  constructor
  · intro first number period
    obtain ⟨⟨files, flags, architecture, distinct, events, grown, parsed, asked, prepared⟩, apart,
      placed⟩ := period.broughtUp
    have between := between_of_append grown
    rw [between]
    refine ⟨parsed ▸ distinct, ⟨flags, asked⟩, ⟨architecture, prepared⟩, placed,
      placed.distinct apart, ?_⟩
    rw [← between]
    exact period.linked
  · intro joining number thread comm channels order taken joined steady other
    exact join_again order taken joined steady other

end Run

namespace Sample

/-- Two communicators join on two threads, one of their operations is launched, and a third
communicator of the first one's rank joins. -/
def gathering : Run := run .allReduce [⟨0, .join (comm 1 0)⟩, ⟨1, .join (comm 1 1)⟩,
  ⟨1, .submit allReduce (comm 1 0) ⟨7⟩⟩, ⟨0, .load ⟨[9]⟩ 0⟩, ⟨1, .join (comm 2 0)⟩]

/-- The file is parsed once, and loaded once for each of the two ranks; the third communicator is
only connected, and the first one is given nothing when it joins again. -/
theorem gathered_once :
    (parses (gathering.between 0 5)).length = 1 ∧
    ((gathering.preparedBetween 0 5).map fun algorithm => (algorithm.file, algorithm.rank)) =
      [(⟨[0]⟩, 0), (⟨[0]⟩, 1)] ∧
    (connections (gathering.between 0 5)).length = 3 ∧
    (∃ flags, flagAnswers (gathering.between 0 5) = [.ok flags]) ∧
    gathering.outcome (gathering.scene 5) ⟨1, .join (comm 1 0)⟩ =
      ⟨.ok (.channels 1), (gathering.scene 5).machine, gathering.history 5⟩ := by
  have steady : gathering.Steady 1 5 := by
    intro number turn above below taken
    rcases (by omega : number = 1 ∨ number = 2 ∨ number = 3 ∨ number = 4) with
      rfl | rfl | rfl | rfl <;> cases taken <;> decide
  have period : gathering.Period 0 5 :=
    ⟨by decide +kernel, by decide +kernel, steady, by decide⟩
  obtain ⟨_, flags, _⟩ := (Run.brought_up_once gathering).1 0 5 period
  refine ⟨by decide +kernel, by decide +kernel, by decide +kernel, flags, ?_⟩
  exact (Run.brought_up_once gathering).2 0 5 0 (comm 1 0) 1 (by decide) rfl
    (by decide +kernel) steady 1

end Sample

end Collective
