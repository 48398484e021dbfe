import Collective.Machine
import Collective.Proofs.History
import Collective.Proofs.Procedure

/-!
# Which calls a procedure makes

`Procedure.Makes` bounds the calls that a procedure can make, in every environment and from
every state.  Every call has one `Concern`, and every procedure is bounded by the concerns
of its calls.  So bringing a status up asks for what is to be held, and gives it back where
that fails; it runs no operation, and it leaves the kernels of the device alone.
-/

namespace Collective

open Procedure

/-- What a call is about. -/
inductive Concern where
  | catalog
  /-- Who selects: libraries are opened, schedulers are started and stopped. -/
  | selector
  /-- What an external scheduler selects. -/
  | selection
  /-- Algorithms, their images and their connections. -/
  | store
  | flags
  | scratch
  | launches
  | kernels
  | plain
  deriving DecidableEq

def Call.concern : Call → Concern
  | .openDirectory _ | .listDirectory _ | .parse _ => .catalog
  | .openLibrary _ | .startExternal _ | .stopExternal _ => .selector
  | .selectExternal _ _ _ => .selection
  | .load _ _ | .unload _ | .connect _ _ => .store
  | .allocate use _ | .free use _ =>
      match use with
      | .image => .store
      | .scratch => .scratch
      | .syncFlags => .flags
  | .scratchBytes _ _ | .launch _ => .launches
  | .stackLimit | .setStackLimit _ | .initKernels _ => .kernels
  | .plain _ => .plain

/-- A call that is about one of these concerns. -/
def about (concerns : List Concern) (event : Event) : Bool :=
  concerns.contains event.call.concern

/-- A call that looks for something, takes it or gives it back. -/
def Event.provides (event : Event) : Bool :=
  match event.call with
  | .openDirectory _ | .listDirectory _ | .parse _ | .openLibrary _ => true
  | .startExternal _ | .stopExternal _ => true
  | .load _ _ | .unload _ | .connect _ _ | .allocate _ _ | .free _ _ => true
  | _ => false

namespace Procedure

variable {S T α β : Type} {kind : Event → Bool}

/-- However a procedure ends, it has made only calls of one kind. -/
def Makes (kind : Event → Bool) (procedure : Procedure S α) : Prop :=
  ∀ env state history, History.Only kind history (procedure.run env state history).history

namespace Makes

section Silent

protected theorem pure (value : α) : (pure value : Procedure S α).Makes kind :=
  fun _ _ history => .refl kind history

protected theorem throw (error : Error) : (throw error : Procedure S α).Makes kind :=
  fun _ _ history => .refl kind history

protected theorem get : (get : Procedure S S).Makes kind :=
  fun _ _ history => .refl kind history

protected theorem set (new : S) : (set new : Procedure S PUnit).Makes kind :=
  fun _ _ history => .refl kind history

protected theorem modify (change : S → S) : (modify change : Procedure S PUnit).Makes kind :=
  fun _ _ history => .refl kind history

theorem executableDirectory : (executableDirectory : Procedure S (Option Path)).Makes kind :=
  fun _ _ history => .refl kind history

theorem inUnloadOrder (loaded : List (Handle × Instance)) :
    (inUnloadOrder loaded : Procedure S _).Makes kind :=
  fun _ _ history => .refl kind history

theorem inFreeOrder (images : List (Handle × Buffer)) :
    (inFreeOrder images : Procedure S _).Makes kind :=
  fun _ _ history => .refl kind history

protected theorem ofExcept (result : Except Error α) :
    (Procedure.ofExcept result : Procedure S α).Makes kind :=
  fun _ _ history => .refl kind history

end Silent

theorem ask {call : Call} (right : ∀ answer, kind ⟨call, answer⟩ = true) :
    @Makes S (no_index call.Answer) kind (Procedure.ask call) :=
  fun _ _ history => .cons (right _) history

theorem accepted (answer : Fallible α) : (accepted answer : Procedure S α).Makes kind := by
  cases answer with
  | ok => exact .pure _
  | error => exact .throw _

theorem bind {first : Procedure S α} {next : α → Procedure S β} (before : first.Makes kind)
    (after : ∀ value, (next value).Makes kind) : (first >>= next).Makes kind := by
  intro env state history
  have earlier := before env state history
  rw [run_bind]
  rcases outcome : first.run env state history with ⟨error | value, middle, past⟩
  · rw [outcome] at earlier
    exact earlier
  · rw [outcome] at earlier
    exact earlier.trans (after value env middle past)

/-- What follows a check is bounded where the check succeeds. -/
theorem checked {result : Except Error α} {next : α → Procedure S β}
    (after : ∀ value, result = .ok value → (next value).Makes kind) :
    (Procedure.ofExcept result >>= next).Makes kind := by
  cases result with
  | error error => exact fun _ _ history => .refl kind history
  | ok value => exact after value rfl

theorem tryCatch {first : Procedure S α} {next : Error → Procedure S α}
    (before : first.Makes kind) (after : ∀ error, (next error).Makes kind) :
    (MonadExcept.tryCatch first next).Makes kind := by
  intro env state history
  have earlier := before env state history
  show History.Only kind history ((recover first next).run env state history).history
  unfold run at earlier ⊢
  unfold recover
  rcases outcome : first env state history with ⟨error | value, middle, past⟩
  · rw [outcome] at earlier
    exact earlier.trans (after error env middle past)
  · rw [outcome] at earlier
    exact earlier

theorem attempt {procedure : Procedure S α} (makes : procedure.Makes kind) :
    procedure.attempt.Makes kind := by
  intro env state history
  exact makes env state history

theorem within {part : S → T} {replace : S → T → S} {procedure : Procedure T α}
    (makes : procedure.Makes kind) : (within part replace procedure).Makes kind := by
  intro env state history
  exact makes env (part state) history

theorem asCaller {procedure : Procedure Thread α} (makes : procedure.Makes kind) :
    (Thread.asCaller procedure).Makes kind := by
  intro env thread history
  exact makes env { thread with isCaller := true } history

theorem mono {other : Event → Bool} {procedure : Procedure S α} (makes : procedure.Makes kind)
    (wider : ∀ event, kind event = true → other event = true) : procedure.Makes other := by
  intro env state history
  obtain ⟨events, grown, made⟩ := makes env state history
  exact ⟨events, grown, fun event member => wider event (made event member)⟩

theorem widen {some : List Concern} {procedure : Procedure S α}
    (makes : procedure.Makes (about some)) (more : List Concern)
    (wider : ∀ concern ∈ some, concern ∈ more) : procedure.Makes (about more) := by
  apply makes.mono
  intro event right
  unfold about at right ⊢
  rw [List.contains_iff_mem] at right ⊢
  exact wider event.call.concern right

end Makes

/-- What a procedure ensures it ensures together with the calls that it makes. -/
theorem Ensures.only {procedure : Procedure S α} {env : Environment} {state : S}
    {history : History} {good : α → S → History → Prop} {bad : Error → S → History → Prop}
    (ensured : procedure.Ensures env state history good bad) (makes : procedure.Makes kind) :
    procedure.Ensures env state history
      (fun value after later => good value after later ∧ History.Only kind history later)
      (fun error after later => bad error after later ∧ History.Only kind history later) := by
  have made := makes env state history
  unfold Ensures at *
  rcases outcome : procedure.run env state history with ⟨error | value, after, later⟩
  · rw [outcome] at ensured made
    exact ⟨ensured, made⟩
  · rw [outcome] at ensured made
    exact ⟨ensured, made⟩

/-- What a procedure keeps it keeps together with the calls that it makes. -/
theorem Makes.keeps {procedure : Procedure S α} {holds : S → History → Prop} {past : History}
    (makes : procedure.Makes kind) (kept : procedure.Keeps holds) :
    procedure.Keeps fun state now => holds state now ∧ History.Only kind past now := by
  intro env state history before
  apply ((kept env state history before.1).only makes).mono
  · exact fun _ _ _ ended => ⟨ended.1, before.2.trans ended.2⟩
  · exact fun _ _ _ ended => ⟨ended.1, before.2.trans ended.2⟩

end Procedure

namespace External

variable {S : Type}

theorem makes_checked {kind : Event → Bool} (step : ExternalStep) (code : Int32) :
    (checked step code : Procedure S Unit).Makes kind := by
  unfold checked
  split
  · exact .pure _
  · exact .throw _

theorem makes_start (scheduler : External) :
    (scheduler.start : Procedure S Unit).Makes (about [.selector]) :=
  .bind (.ask fun _ => rfl) fun code => makes_checked .start code

/-- All that a selection calls for is a verdict on the block of the request. -/
theorem makes_select_of {kind : Event → Bool} (scheduler : External) {asCaller : Bool}
    {request : Request}
    (right : ∀ block verdict, request.block = .ok block →
      kind ⟨.selectExternal scheduler block asCaller, verdict⟩ = true) :
    (scheduler.select asCaller request : Procedure S _).Makes kind := by
  refine .checked fun block made => ?_
  refine .bind (.ask fun verdict => right block verdict made) fun verdict => ?_
  exact .bind (makes_checked .select _) fun _ => .pure _

theorem makes_stop (scheduler : External) :
    (scheduler.stop : Procedure S Unit).Makes (about [.selector]) :=
  .bind (.ask fun _ => rfl) fun code => makes_checked .shutdown code

end External

theorem Selector.makes_discover {S : Type} (config : Config) :
    (Selector.discover config : Procedure S Selector).Makes (about [.selector]) := by
  refine .bind (.ask fun _ => rfl) fun opens => ?_
  split
  · exact .bind (External.makes_start _) fun _ => .pure _
  · exact .pure _

namespace Catalog

variable {S : Type}

theorem makes_firstOpen {kind : Event → Bool} (directories : List Path)
    (right : ∀ directory answer, kind ⟨.openDirectory directory, answer⟩ = true) :
    (firstOpen directories : Procedure S _).Makes kind := by
  induction directories with
  | nil => exact .pure _
  | cons directory others ih =>
      refine .bind (.ask (right directory)) fun opens => ?_
      split
      · exact .pure _
      · exact ih

theorem makes_filesIn {kind : Event → Bool} (directory : Path)
    (right : ∀ answer, kind ⟨.listDirectory directory, answer⟩ = true) :
    (filesIn directory : Procedure S _).Makes kind := by
  refine .bind (.ask right) fun listed => ?_
  cases listed with
  | ok entries => exact .pure _
  | error reason => exact .throw _

theorem makes_parseAll (files : List Path) :
    (parseAll files : Procedure S _).Makes (about [.catalog]) := by
  induction files with
  | nil => exact .pure _
  | cons file others ih =>
      refine .bind (.ask fun _ => rfl) fun parsed => ?_
      cases parsed with
      | ok algorithm => exact .bind ih fun _ => .pure _
      | error reason => exact .throw _

theorem makes_discover (config : Config) : (discover config).Makes (about [.catalog]) := by
  refine .bind .get fun catalog => ?_
  split
  · exact .pure _
  · refine .bind .executableDirectory fun directory => ?_
    refine .bind (makes_firstOpen _ fun _ _ => rfl) fun found => ?_
    split
    · exact .throw _
    · refine .bind (makes_filesIn _ fun _ => rfl) fun files => ?_
      exact .bind (makes_parseAll files) fun _ => .set _

end Catalog

namespace Store

theorem makes_takeSlot {kind : Event → Bool} : takeSlot.Makes kind := by
  refine .bind .get fun store => ?_
  split
  · exact .throw _
  · exact .bind (.modify _) fun _ => .pure _

theorem makes_provideImage (handle : Handle) (algorithm : Instance) :
    (provideImage handle algorithm).Makes (about [.store]) := by
  unfold provideImage
  split
  · exact .pure _
  · refine .bind (.ask fun _ => rfl) fun allocated => ?_
    cases allocated with
    | ok image => exact .modify _
    | error reason =>
        refine .bind (.modify _) fun _ => ?_
        exact .bind (.ask fun _ => rfl) fun _ => .throw _

theorem makes_load (file : Path) (rank : UInt64) : (load file rank).Makes (about [.store]) := by
  refine .bind makes_takeSlot fun handle => ?_
  refine .bind (.ask fun _ => rfl) fun loaded => ?_
  cases loaded with
  | error reason => exact .bind (.modify _) fun _ => .throw _
  | ok report =>
      refine .bind (makes_provideImage _ _) fun _ => ?_
      exact .bind (.modify _) fun _ => .pure _

theorem makes_connect (handle : Handle) (comm : Communicator) :
    (connect handle comm).Makes (about [.store]) := by
  refine .bind .get fun store => ?_
  split
  · exact .pure _
  · split
    · exact .throw _
    · refine .bind (.ask fun _ => rfl) fun answer => ?_
      exact .bind (.accepted answer) fun _ => .modify _

theorem makes_assign (index : Nat) (algorithm : Metadata) (rank : UInt64) :
    (assign index algorithm rank).Makes (about [.store]) := by
  refine .bind .get fun store => ?_
  split
  · exact .pure _
  · refine .bind (makes_load _ _) fun handle => ?_
    exact .bind (.modify _) fun _ => .pure _

theorem makes_prepareFrom (comm : Communicator) (index : Nat) (entries : List Metadata) :
    (prepareFrom comm index entries).Makes (about [.store]) := by
  induction entries generalizing index with
  | nil => exact .pure _
  | cons entry others ih =>
      unfold prepareFrom
      split
      · refine .bind (makes_assign _ _ _) fun handle => ?_
        exact .bind (makes_connect _ _) fun _ => ih (index + 1)
      · exact ih (index + 1)

theorem makes_prepare (catalog : Catalog) (comm : Communicator) :
    (prepare catalog comm).Makes (about [.store]) :=
  makes_prepareFrom comm 0 catalog.algorithms

theorem makes_unloadEach (entries : List (Handle × Instance)) :
    (unloadEach entries).Makes (about [.store]) := by
  induction entries with
  | nil => exact .pure _
  | cons entry others ih =>
      refine .bind (.ask fun _ => rfl) fun answer => ?_
      refine .bind (.modify _) fun _ => ?_
      exact .bind ih fun _ => .pure _

theorem makes_freeEach (entries : List (Handle × Buffer)) :
    (freeEach entries).Makes (about [.store]) := by
  induction entries with
  | nil => exact .pure _
  | cons entry others ih =>
      refine .bind (.ask fun _ => rfl) fun answer => ?_
      exact .bind ih fun _ => .pure _

theorem makes_releaseAll : releaseAll.Makes (about [.store]) := by
  refine .bind .get fun store => ?_
  refine .bind (.inUnloadOrder _) fun loaded => ?_
  refine .bind (makes_unloadEach _) fun unloaded => ?_
  refine .bind .get fun store => ?_
  refine .bind (.inFreeOrder _) fun images => ?_
  refine .bind (makes_freeEach _) fun freed => ?_
  exact .bind (.modify _) fun _ => .ofExcept _

end Store

namespace Status

theorem makes_install (scheduler : External) :
    (install scheduler).Makes (about [.selector]) := by
  refine .bind .get fun status => ?_
  split
  · exact .throw _
  · exact .bind (External.makes_start _) fun _ => .modify _

theorem makes_select_of {kind : Event → Bool} {asCaller : Bool} {request : Request}
    (right : ∀ scheduler block verdict, request.block = .ok block →
      kind ⟨.selectExternal scheduler block asCaller, verdict⟩ = true) :
    (select asCaller request).Makes kind := by
  refine .bind .get fun status => ?_
  split
  · exact .pure _
  · split
    · exact .pure _
    · exact .pure _
  · exact External.makes_select_of _ (right _)

theorem makes_select {asCaller : Bool} (request : Request) :
    (select asCaller request).Makes (about [.selection]) :=
  makes_select_of fun _ _ _ _ => rfl

theorem makes_ensureSelector (config : Config) :
    (ensureSelector config).Makes (about [.selector]) := by
  refine .bind .get fun status => ?_
  split
  · exact .pure _
  · refine .bind (Selector.makes_discover _) fun selector => ?_
    exact .bind (.modify _) fun _ => .pure _

theorem makes_channels (config : Config) (comm : Communicator) (selector : Selector) :
    (channels config comm selector).Makes (about [.catalog]) := by
  cases selector with
  | internal =>
      refine .bind (.within (Catalog.makes_discover _)) fun _ => ?_
      exact .bind .get fun _ => .pure _
  | external scheduler => exact .pure _

theorem makes_startLaunches : startLaunches.Makes (about [.flags]) := by
  refine .bind (.modify _) fun _ => ?_
  refine .bind (.ask fun _ => rfl) fun answer => ?_
  exact .bind (.accepted answer) fun _ => .modify _

theorem makes_prepare (config : Config) (comm : Communicator) :
    (prepare config comm).Makes (about [.catalog, .selector, .store, .flags]) := by
  have serve (selector : Selector) {rest : Procedure Status UInt32}
      (makes : rest.Makes (about [.catalog, .selector, .store, .flags])) :
      Makes (about [.catalog, .selector, .store, .flags]) (do
        if selector = .internal then
          onStore (Store.prepare (← get).catalog comm)
        rest) := by
    split
    · refine .bind .get fun status => ?_
      have prepared := Store.makes_prepare status.catalog comm
      exact .bind (.within (prepared.widen _ (by decide))) fun _ => makes
    · exact makes
  refine .bind ((makes_ensureSelector _).widen _ (by decide)) fun selector => ?_
  refine .bind ((makes_channels _ _ _).widen _ (by decide)) fun needed => ?_
  refine .bind .get fun status => ?_
  cases status.ready with
  | true => exact serve selector (.pure _)
  | false =>
      refine .bind (.modify _) fun _ => serve selector ?_
      exact .bind (makes_startLaunches.widen _ (by decide)) fun _ => .pure _

theorem makes_freeHeld {kind : Event → Bool} (use : BufferUse) (held : Option Buffer)
    (right : ∀ buffer answer, kind ⟨.free use buffer, answer⟩ = true) :
    (freeHeld use held).Makes kind := by
  cases held with
  | none => exact .pure _
  | some buffer => exact .bind (.ask (right buffer)) fun _ => .pure _

theorem makes_dismiss (selector : Option Selector) :
    (dismiss selector).Makes (about [.selector]) := by
  unfold dismiss
  split
  · exact .bind (.modify _) fun _ => External.makes_stop _
  · exact .modify _

theorem makes_release : release.Makes (about [.selector, .store, .flags, .scratch]) := by
  have emptied := Store.makes_releaseAll.widen [.selector, .store, .flags, .scratch] (by decide)
  refine .bind (.attempt (.within emptied)) fun stored => ?_
  refine .bind .get fun status => ?_
  refine .bind (.modify _) fun _ => ?_
  refine .bind (makes_freeHeld _ _ fun _ _ => rfl) fun scratch => ?_
  refine .bind (makes_freeHeld _ _ fun _ _ => rfl) fun flags => ?_
  have dismissed := (makes_dismiss status.selector).widen
    [.selector, .store, .flags, .scratch] (by decide)
  exact .bind (.attempt dismissed) fun _ => .ofExcept _

theorem makes_bringingUp (config : Config) (comm : Communicator) :
    (bringUp config comm).Makes (about [.catalog, .selector, .store, .flags, .scratch]) := by
  have prepared := (makes_prepare config comm).widen
    [.catalog, .selector, .store, .flags, .scratch] (by decide)
  refine .bind .get fun status => ?_
  split
  · exact prepared
  · refine .tryCatch prepared fun error => ?_
    exact .bind (.attempt (makes_release.widen _ (by decide))) fun _ => .throw _

/-- Bringing a status up runs no operation and leaves the kernels alone. -/
theorem makes_bringUp (config : Config) (comm : Communicator) :
    (bringUp config comm).Makes Event.provides := by
  apply (makes_bringingUp config comm).mono
  intro event right
  obtain ⟨call, answer⟩ := event
  cases call <;> first | rfl | simp [about, Call.concern] at right

theorem makes_shutDown : shutDown.Makes (about [.selector, .store, .flags, .scratch]) := by
  refine .bind .get fun status => ?_
  split
  · refine .bind (.attempt makes_release) fun released => ?_
    exact .bind (.modify _) fun _ => .ofExcept _
  · split
    · exact (makes_dismiss _).widen _ (by decide)
    · exact .pure _

theorem makes_load (file : Path) (rank : UInt64) : (load file rank).Makes (about [.store]) := by
  refine .bind .get fun status => ?_
  split
  · exact .throw _
  · exact .within (Store.makes_load file rank)

theorem makes_ensureScratch (bytes : UInt64) :
    (ensureScratch bytes).Makes (about [.scratch]) := by
  have stretch : Makes (about [.scratch]) (do
      let buffer ← accepted (← ask (.allocate .scratch bytes))
      modify fun status : Status => { status with scratch := some buffer }) := by
    refine .bind (.ask fun _ => rfl) fun answer => ?_
    exact .bind (.accepted answer) fun _ => .modify _
  refine .bind .get fun status => ?_
  split
  · exact .pure _
  · split
    · refine .bind (.modify _) fun _ => ?_
      refine .bind (.ask fun _ => rfl) fun answer => ?_
      exact .bind (.accepted answer) fun _ => stretch
    · exact stretch

/-- A launch asks how much working memory it needs, provides that, and bears the mark of its
thread. -/
theorem makes_launch_of {kind : Event → Bool} {asCaller : Bool} {pending : Pending}
    {handle : Handle}
    (sizes : ∀ algorithm bytes, kind ⟨.scratchBytes algorithm pending.request, bytes⟩ = true)
    (provides : ∀ bytes, (ensureScratch bytes).Makes kind)
    (launches : ∀ launch answer, launch.asCaller = asCaller →
      kind ⟨.launch launch, answer⟩ = true) :
    (launch asCaller pending handle).Makes kind := by
  refine .bind .get fun status => ?_
  dsimp only
  split
  · exact .throw _
  · split
    · exact .throw _
    · refine .bind (.ask fun bytes => sizes _ bytes) fun bytes => ?_
      refine .bind (provides bytes) fun _ => .bind .get fun status => ?_
      split
      · exact .throw _
      · refine .bind (.ask fun answer => launches _ answer rfl) fun answer => ?_
        exact .bind (.accepted answer) fun _ => .modify _

theorem makes_launch {asCaller : Bool} (pending : Pending) (handle : Handle) :
    (launch asCaller pending handle).Makes (about [.launches, .scratch]) := by
  apply makes_launch_of
  · exact fun _ _ => rfl
  · exact fun bytes => (makes_ensureScratch bytes).widen _ (by decide)
  · exact fun _ _ _ => rfl

theorem makes_launchEach_of {kind : Event → Bool} {asCaller : Bool}
    (launches : ∀ pending handle, (launch asCaller pending handle).Makes kind)
    (operations : List SavedOperation) : (launchEach asCaller operations).Makes kind := by
  induction operations with
  | nil => exact .pure _
  | cons operation others ih =>
      unfold launchEach
      split
      · exact .throw _
      · exact .bind (launches _ _) fun _ => ih

theorem makes_launchEach {asCaller : Bool} (operations : List SavedOperation) :
    (launchEach asCaller operations).Makes (about [.launches, .scratch]) :=
  makes_launchEach_of makes_launch operations

end Status

namespace Thread

theorem makes_closeGroup {kind : Event → Bool} : closeGroup.Makes kind := by
  refine .bind .get fun thread => ?_
  split
  · exact .throw _
  · split
    · exact .bind (.set _) fun _ => .pure _
    · split
      · exact .bind (.set _) fun _ => .pure _
      · exact .bind (.set _) fun _ => .pure _

theorem makes_popGuard {kind : Event → Bool} : popGuard.Makes kind := by
  refine .bind .get fun thread => ?_
  split
  · exact .pure _
  · exact .bind (.set _) fun _ => .pure _

theorem makes_runPlain (pending : Pending) : (runPlain pending).Makes (about [.plain]) := by
  unfold runPlain
  dsimp only
  split
  · exact .throw _
  · refine .bind .get fun thread => ?_
    exact .bind (.ask fun _ => rfl) fun answer => .accepted answer

theorem makes_runEachPlain (items : List Pending) :
    (runEachPlain items).Makes (about [.plain]) := by
  induction items with
  | nil => exact .pure _
  | cons pending others ih => exact .bind (makes_runPlain pending) fun _ => ih

theorem makes_fallBack (pending : Pending) : (fallBack pending).Makes (about [.plain]) := by
  refine .bind (.bind .get fun thread => .bind (.set _) fun _ => .pure _) fun saved => ?_
  exact .asCaller (makes_runEachPlain _)

end Thread

/-- What the calls of a command are about. -/
def Command.concerns : Command → List Concern
  | .install _ => [.selector]
  | .join _ => [.catalog, .selector, .store, .flags, .scratch, .kernels]
  | .shutDown => [.selector, .store, .flags, .scratch]
  | .closeGroup => [.launches, .scratch]
  | .submit _ _ _ => [.selection, .launches, .scratch, .plain]
  | .select _ => [.selection]
  | .load _ _ | .connect _ _ => [.store]
  | .openGroup | .setCaller | .clearCaller | .pushGuard | .popGuard => []

namespace Machine

theorem makes_adjustStack {S : Type} (config : Config) (comm : Communicator) :
    (adjustStack config comm : Procedure S Unit).Makes (about [.kernels]) := by
  refine .bind (.ask fun _ => rfl) fun limit => ?_
  refine .bind (.ask fun _ => rfl) fun kernels => ?_
  refine .bind (.accepted kernels) fun needed => ?_
  generalize (_ && config.setStackSize) = raises
  cases raises with
  | true => exact .bind (.ask fun _ => rfl) fun _ => .pure _
  | false => exact .pure _

theorem makes_join (config : Config) (comm : Communicator) :
    (join config comm).Makes
      (about [.catalog, .selector, .store, .flags, .scratch, .kernels]) := by
  refine .bind (.modify _) fun _ => ?_
  split
  · exact .pure _
  · refine .bind .get fun machine => ?_
    have up := (Status.makes_bringingUp config comm).widen
      [.catalog, .selector, .store, .flags, .scratch, .kernels] (by decide)
    refine .bind (.within up) fun channels => ?_
    split
    · exact .bind ((makes_adjustStack config comm).widen _ (by decide)) fun _ => .pure _
    · exact .pure _

theorem makes_onBehalf {α : Type} {kind : Event → Bool} (thread : ThreadId)
    {procedure : Bool → Procedure Status α} (made : ∀ asCaller, (procedure asCaller).Makes kind) :
    (onBehalf thread procedure).Makes kind :=
  .bind .get fun _ => .within (made _)

theorem makes_closeGroup (thread : ThreadId) :
    (closeGroup thread).Makes (about [.launches, .scratch]) := by
  refine .bind (.within Thread.makes_closeGroup) fun saved => ?_
  split
  · exact .pure _
  · exact makes_onBehalf thread fun _ => Status.makes_launchEach _

theorem makes_choose {kind : Event → Bool} (config : Config) (thread : ThreadId)
    (pending : Pending)
    (selects : ∀ asCaller, (Status.select asCaller pending.request).Makes kind) :
    (choose config thread pending).Makes kind := by
  refine .bind .get fun machine => ?_
  split
  · exact makes_onBehalf thread selects
  · exact .pure _

/-- A submission makes the calls of a selection, if its request is valid, and of what follows. -/
theorem makes_submit_of {kind : Event → Bool} (config : Config) (thread : ThreadId)
    (operation : Operation) (comm : Communicator) (stream : Stream)
    (selects : (comm.request operation).validate = .ok () →
      ∀ asCaller, (Status.select asCaller (comm.request operation)).Makes kind)
    (launches : ∀ asCaller pending handle, (Status.launch asCaller pending handle).Makes kind)
    (falls : ∀ pending, (Thread.fallBack pending).Makes kind) :
    (submit config thread operation comm stream).Makes kind := by
  refine .checked fun _ valid => .bind .get fun machine => ?_
  split
  · refine .bind (makes_choose config thread _ (selects valid)) fun choice => ?_
    cases choice with
    | some handle => exact makes_onBehalf thread fun _ => launches _ _ handle
    | none => exact .within (falls _)
  · refine .bind (makes_choose config thread _ (selects valid)) fun choice => ?_
    cases choice with
    | some handle => exact .within (.modify _)
    | none => exact .bind (.within (.modify _)) fun _ => .within (falls _)
  · exact .within (falls _)

theorem makes_submit (config : Config) (thread : ThreadId) (operation : Operation)
    (comm : Communicator) (stream : Stream) :
    (submit config thread operation comm stream).Makes
      (about [.selection, .launches, .scratch, .plain]) := by
  apply makes_submit_of
  · exact fun _ _ => (Status.makes_select _).widen _ (by decide)
  · exact fun _ pending handle => (Status.makes_launch pending handle).widen _ (by decide)
  · exact fun pending => (Thread.makes_fallBack pending).widen _ (by decide)

/-- Every command makes only calls about its concerns. -/
theorem makes_perform (config : Config) (thread : ThreadId) (command : Command) :
    (perform config thread command).Makes (about command.concerns) := by
  cases command with
  | install key => exact .bind (.within (Status.makes_install _)) fun _ => .pure _
  | join comm => exact .bind (makes_join config comm) fun _ => .pure _
  | shutDown =>
      have forgotten : (onThread thread (modify fun state => { state with saved := [] })).Makes
          (about Command.shutDown.concerns) := .within (.modify _)
      exact .bind (.bind forgotten fun _ => .within Status.makes_shutDown) fun _ => .pure _
  | closeGroup => exact .bind (makes_closeGroup thread) fun _ => .pure _
  | submit operation comm stream =>
      exact .bind (makes_submit config thread operation comm stream) fun _ => .pure _
  | select request =>
      exact .bind (makes_onBehalf thread fun _ => Status.makes_select request) fun _ => .pure _
  | load file rank => exact .bind (.within (Status.makes_load file rank)) fun _ => .pure _
  | connect handle comm =>
      exact .bind (.within (.within (Store.makes_connect handle comm))) fun _ => .pure _
  | openGroup | setCaller | clearCaller | pushGuard =>
      exact .bind (.within (.modify _)) fun _ => .pure _
  | popGuard => exact .bind (.within Thread.makes_popGuard) fun _ => .pure _

end Machine

end Collective
