import Collective.Call
import Mathlib.Data.Multiset.AddSub

/-!
# Reading histories

A history tells which algorithms were loaded and unloaded, which buffers were
allocated and freed, and which operations were executed.  All are read off its
events; objects are counted, because nothing keeps the outside world from handing out
equal ones.
-/

namespace Collective

namespace Call

/-- The algorithm that a call gives back. -/
def unloaded? : Call → Option Instance
  | .unload algorithm => some algorithm
  | _ => none

/-- The buffer that a call gives back. -/
def freed? : Call → Option Buffer
  | .free _ buffer => some buffer
  | _ => none

/-- The launch that a call asks for. -/
def launch? : Call → Option Launch
  | .launch work => some work
  | _ => none

/-- A call that executes an operation. -/
def executes : Call → Bool
  | .launch _ | .plain _ => true
  | _ => false

/-- A call that gives something back and asks for nothing. -/
def returns : Call → Bool
  | .unload _ | .free _ _ | .stopExternal _ => true
  | _ => false

theorem launch?_eq_some_iff {call : Call} {work : Launch} :
    call.launch? = some work ↔ call = .launch work := by
  cases call <;> simp [launch?]

theorem executes_of_returns {call : Call} (returns : call.returns = true) :
    call.executes = false := by
  cases call <;> simp_all [Call.returns, executes]

end Call

namespace Event

/-- The algorithm that a call has loaded. -/
def loaded? : Event → Option Instance
  | ⟨.load file rank, .ok report⟩ => some { file, rank, report }
  | _ => none

/-- The buffer that a call has allocated. -/
def allocated? : Event → Option Buffer
  | ⟨.allocate _ _, .ok buffer⟩ => some buffer
  | _ => none

/-- A call that takes nothing, gives nothing back, connects nothing and executes
nothing.  Refused requests are of this kind. -/
def quiet : Event → Bool
  | ⟨.load _ _, .ok _⟩ | ⟨.connect _ _, .ok _⟩ | ⟨.allocate _ _, .ok _⟩ => false
  | ⟨.unload _, _⟩ | ⟨.free _ _, _⟩ | ⟨.launch _, _⟩ | ⟨.plain _, _⟩ => false
  | _ => true

/-- A call that was refused. -/
def refused : Event → Bool
  | ⟨.parse _, .error _⟩ | ⟨.load _ _, .error _⟩ | ⟨.unload _, .error _⟩ => true
  | ⟨.connect _ _, .error _⟩ | ⟨.launch _, .error _⟩ | ⟨.plain _, .error _⟩ => true
  | ⟨.allocate _ _, .error _⟩ | ⟨.free _ _, .error _⟩ | ⟨.stackLimit, .error _⟩ => true
  | ⟨.setStackLimit _, .error _⟩ | ⟨.initKernels _, .error _⟩ => true
  | ⟨.startExternal _, code⟩ | ⟨.stopExternal _, code⟩ => code != 0
  | ⟨.selectExternal _ _ _, verdict⟩ => verdict.code != 0
  | _ => false

/-- A call to prepare the kernels of the device that was refused. -/
def refusesKernels : Event → Bool
  | ⟨.initKernels _, .error _⟩ => true
  | _ => false

theorem loaded?_of_returns {event : Event} (returns : event.call.returns = true) :
    event.loaded? = none := by
  obtain ⟨call, answer⟩ := event
  cases call <;> simp_all [Call.returns, loaded?]

theorem allocated?_of_returns {event : Event} (returns : event.call.returns = true) :
    event.allocated? = none := by
  obtain ⟨call, answer⟩ := event
  cases call <;> simp_all [Call.returns, allocated?]

theorem quiet_iff {event : Event} : event.quiet = true ↔
    event.loaded? = none ∧ event.allocated? = none ∧ event.call.unloaded? = none ∧
      event.call.freed? = none ∧ event.call.executes = false ∧
      ∀ algorithm comm, event ≠ ⟨.connect algorithm comm, .ok ()⟩ := by
  obtain ⟨call, answer⟩ := event
  cases call with
  | load | connect | allocate =>
      cases answer <;>
        simp [quiet, loaded?, allocated?, Call.unloaded?, Call.freed?, Call.executes]
  | _ => simp [quiet, loaded?, allocated?, Call.unloaded?, Call.freed?, Call.executes]

end Event

namespace History

/-- The algorithms that were loaded. -/
def loads (history : History) : Multiset Instance := (history.filterMap Event.loaded? : List _)

/-- The algorithms that were unloaded, or were to be. -/
def unloads (history : History) : Multiset Instance :=
  (history.filterMap fun event => event.call.unloaded? : List _)

/-- The buffers that were allocated. -/
def allocations (history : History) : Multiset Buffer :=
  (history.filterMap Event.allocated? : List _)

/-- The buffers that were freed, or were to be. -/
def frees (history : History) : Multiset Buffer :=
  (history.filterMap fun event => event.call.freed? : List _)

/-- The calls that executed operations, the earliest first. -/
def executions (history : History) : List Event :=
  (history.filter fun event => event.call.executes).reverse

section Append

variable (later earlier : History)

theorem loads_append : loads (later ++ earlier) = loads later + loads earlier := by
  simp [loads]

theorem unloads_append : unloads (later ++ earlier) = unloads later + unloads earlier := by
  simp [unloads]

theorem allocations_append :
    allocations (later ++ earlier) = allocations later + allocations earlier := by
  simp [allocations]

theorem frees_append : frees (later ++ earlier) = frees later + frees earlier := by
  simp [frees]

@[simp] theorem executions_append :
    executions (later ++ earlier) = executions earlier ++ executions later := by
  simp [executions]

theorem loads_le_of_suffix {past now : History} (suffix : past <:+ now) :
    loads past ≤ loads now := by
  obtain ⟨events, rfl⟩ := suffix
  rw [loads_append]
  exact Multiset.le_add_left _ _

end Append

section Cons

variable (event : Event) (history : History)

@[simp] theorem loads_cons :
    loads (event :: history) = (event.loaded?.toList : Multiset _) + loads history := by
  cases found : event.loaded? <;> simp [loads, found]

@[simp] theorem unloads_cons :
    unloads (event :: history) =
      (event.call.unloaded?.toList : Multiset _) + unloads history := by
  cases found : event.call.unloaded? <;> simp [unloads, found]

@[simp] theorem allocations_cons :
    allocations (event :: history) =
      (event.allocated?.toList : Multiset _) + allocations history := by
  cases found : event.allocated? <;> simp [allocations, found]

@[simp] theorem frees_cons :
    frees (event :: history) = (event.call.freed?.toList : Multiset _) + frees history := by
  cases found : event.call.freed? <;> simp [frees, found]

@[simp] theorem executions_cons :
    executions (event :: history) =
      executions history ++ if event.call.executes then [event] else [] := by
  cases found : event.call.executes <;> simp [executions, found]

end Cons

@[simp] theorem executions_nil : executions [] = [] := rfl

theorem executions_eq_nil {events : History}
    (idle : ∀ event ∈ events, event.call.executes = false) : executions events = [] := by
  have none : (events.filter fun event => event.call.executes) = [] := by
    apply List.filter_eq_nil_iff.mpr
    intro event member
    simp [idle event member]
  simp [executions, none]

/-- No call was refused. -/
def Smooth (history : History) : Prop := ∀ event ∈ history, event.refused = false

/-- Between two moments exactly these calls were made, the earliest first. -/
def Adds (past : History) (calls : List Call) (now : History) : Prop :=
  ∃ events, now = events ++ past ∧ (events.map Event.call).reverse = calls

/-- Between two moments exactly these calls executed operations, the earliest first. -/
def Executes (past : History) (events : List Event) (now : History) : Prop :=
  ∃ added, now = added ++ past ∧ executions added = events

/-- Between two moments only calls of one kind were made. -/
def Only (kind : Event → Bool) (past now : History) : Prop :=
  ∃ events, now = events ++ past ∧ ∀ event ∈ events, kind event = true

/-- Between two moments nothing was taken, given back, connected or executed. -/
def Quiet (past now : History) : Prop :=
  ∃ events, now = events ++ past ∧ ∀ event ∈ events, event.quiet = true

/-- The latest call, made since a moment, was to prepare the kernels and was refused. -/
def KernelsRefused (past now : History) : Prop :=
  ∃ event earlier, now = event :: earlier ∧ past <:+ earlier ∧ event.refusesKernels = true

variable {past middle now : History}

namespace Adds

theorem nil (history : History) : Adds history [] history := ⟨[], rfl, rfl⟩

theorem cons (event : Event) (history : History) :
    Adds history [event.call] (event :: history) := ⟨[event], rfl, rfl⟩

theorem trans {first second : List Call} (before : Adds past first middle)
    (after : Adds middle second now) : Adds past (first ++ second) now := by
  obtain ⟨earlier, rfl, rfl⟩ := before
  obtain ⟨later, rfl, rfl⟩ := after
  exact ⟨later ++ earlier, by simp, by simp⟩

/-- Calls made one after the other were made in two parts. -/
theorem split {first second : List Call} (adds : Adds past (first ++ second) now) :
    ∃ middle, Adds past first middle ∧ Adds middle second now := by
  obtain ⟨events, rfl, calls⟩ := adds
  rw [List.reverse_eq_iff, List.reverse_append] at calls
  obtain ⟨later, earlier, rfl, seconds, firsts⟩ := List.map_eq_append_iff.mp calls
  refine ⟨earlier ++ past, ⟨earlier, rfl, ?_⟩, later, by simp, ?_⟩
  · rw [firsts, List.reverse_reverse]
  · rw [seconds, List.reverse_reverse]

theorem eq_of_nil (adds : Adds past [] now) : now = past := by
  obtain ⟨events, rfl, none⟩ := adds
  simpa using none

theorem exists_of_single {call : Call} (adds : Adds past [call] now) :
    ∃ event, event.call = call ∧ now = event :: past := by
  obtain ⟨events, rfl, calls⟩ := adds
  rw [List.reverse_eq_iff, List.reverse_singleton, List.map_eq_singleton_iff] at calls
  obtain ⟨event, rfl, same⟩ := calls
  exact ⟨event, same, rfl⟩

/-- What holds of all the calls holds of the events. -/
theorem exists_events {calls : List Call} {holds : Call → Prop} (adds : Adds past calls now)
    (all : ∀ call ∈ calls, holds call) :
    ∃ events, now = events ++ past ∧ ∀ event ∈ events, holds event.call := by
  obtain ⟨events, rfl, rfl⟩ := adds
  refine ⟨events, rfl, ?_⟩
  intro event member
  exact all event.call (List.mem_reverse.mpr (List.mem_map_of_mem member))

theorem executes {calls : List Call} (adds : Adds past calls now)
    (idle : ∀ call ∈ calls, call.executes = false) : Executes past [] now := by
  obtain ⟨events, rfl, idle⟩ := adds.exists_events idle
  exact ⟨events, rfl, executions_eq_nil idle⟩

theorem loads_eq {calls : List Call} (adds : Adds past calls now)
    (returns : ∀ call ∈ calls, call.returns = true) : loads now = loads past := by
  obtain ⟨events, rfl, returns⟩ := adds.exists_events returns
  have none : events.filterMap Event.loaded? = [] := by
    apply List.filterMap_eq_nil_iff.mpr
    intro event member
    exact Event.loaded?_of_returns (returns event member)
  rw [loads_append]
  simp [loads, none]

theorem allocations_eq {calls : List Call} (adds : Adds past calls now)
    (returns : ∀ call ∈ calls, call.returns = true) : allocations now = allocations past := by
  obtain ⟨events, rfl, returns⟩ := adds.exists_events returns
  have none : events.filterMap Event.allocated? = [] := by
    apply List.filterMap_eq_nil_iff.mpr
    intro event member
    exact Event.allocated?_of_returns (returns event member)
  rw [allocations_append]
  simp [allocations, none]

theorem unloads_eq {calls : List Call} (adds : Adds past calls now) :
    unloads now = (calls.filterMap Call.unloaded? : List _) + unloads past := by
  obtain ⟨events, rfl, rfl⟩ := adds
  rw [unloads_append, ← Multiset.coe_reverse]
  simp [unloads, List.filterMap_map]

theorem frees_eq {calls : List Call} (adds : Adds past calls now) :
    frees now = (calls.filterMap Call.freed? : List _) + frees past := by
  obtain ⟨events, rfl, rfl⟩ := adds
  rw [frees_append, ← Multiset.coe_reverse]
  simp [frees, List.filterMap_map]

end Adds

namespace Executes

theorem nil (history : History) : Executes history [] history := ⟨[], rfl, rfl⟩

theorem cons {event : Event} (executes : event.call.executes = true) (history : History) :
    Executes history [event] (event :: history) := ⟨[event], rfl, by simp [executes]⟩

theorem none {event : Event} (idle : event.call.executes = false) (history : History) :
    Executes history [] (event :: history) := ⟨[event], rfl, by simp [idle]⟩

theorem trans {first second : List Event} (before : Executes past first middle)
    (after : Executes middle second now) : Executes past (first ++ second) now := by
  obtain ⟨earlier, rfl, rfl⟩ := before
  obtain ⟨later, rfl, rfl⟩ := after
  exact ⟨later ++ earlier, by simp, by simp⟩

theorem suffix {events : List Event} (executes : Executes past events now) : past <:+ now := by
  obtain ⟨added, rfl, -⟩ := executes
  exact List.suffix_append added past

end Executes

namespace Only

variable {kind : Event → Bool}

theorem refl (kind : Event → Bool) (history : History) : Only kind history history :=
  ⟨[], rfl, by simp⟩

theorem cons {event : Event} (right : kind event = true) (history : History) :
    Only kind history (event :: history) := ⟨[event], rfl, by simpa using right⟩

theorem trans (before : Only kind past middle) (after : Only kind middle now) :
    Only kind past now := by
  obtain ⟨earlier, rfl, first⟩ := before
  obtain ⟨later, rfl, second⟩ := after
  refine ⟨later ++ earlier, by simp, ?_⟩
  intro event member
  exact (List.mem_append.mp member).elim (second event) (first event)

/-- A call that is made since a moment is one of those that were added then. -/
theorem within (only : Only kind past now) {event : Event} {before : History}
    (made : event :: before <:+ now) : event :: before <:+ past ∨ kind event = true := by
  obtain ⟨added, rfl, right⟩ := only
  induction added with
  | nil => exact .inl made
  | cons other others ih =>
      rcases List.suffix_cons_iff.mp made with same | sooner
      · obtain ⟨rfl, rfl⟩ := List.cons.inj same
        exact .inr (right _ List.mem_cons_self)
      · exact ih (fun event member => right event (List.mem_cons_of_mem _ member)) sooner

end Only

namespace Quiet

theorem refl (history : History) : Quiet history history := Only.refl Event.quiet history

theorem cons {event : Event} (quiet : event.quiet = true) (history : History) :
    Quiet history (event :: history) := Only.cons quiet history

theorem trans (before : Quiet past middle) (after : Quiet middle now) : Quiet past now :=
  Only.trans before after

theorem executes (quiet : Quiet past now) : Executes past [] now := by
  obtain ⟨events, rfl, silent⟩ := quiet
  refine ⟨events, rfl, executions_eq_nil ?_⟩
  intro event member
  exact (Event.quiet_iff.mp (silent event member)).2.2.2.2.1

end Quiet

end History

end Collective
