import Collective.Proofs.Rejoin
import Collective.Proofs.Scheduling
import Collective.Proofs.Suitability
import Collective.Proofs.Ungrouped

/-!
# Which kinds of operations can be scheduled

An entry of the catalog that sets no limits suits every operation of its kind that has elements.
The exchange of unequal parts has its sizes in lists and no elements, so that no entry suits it.
It is the one kind that is never launched where the catalog decides.
-/

namespace Collective

open Procedure History

namespace Operation

/-- Operations as the constructors of their kinds make them. -/
inductive Built : Operation → Prop where
  | reduce (send recv : Address) (count : UInt64) (element : Element) (reduction : Reduction)
      (root : UInt64) : Built (.reduce send recv count element reduction root)
  | broadcast (send recv : Address) (count : UInt64) (element : Element) (root : UInt64) :
      Built (.broadcast send recv count element root)
  | allReduce (send recv : Address) (count : UInt64) (element : Element) (reduction : Reduction) :
      Built (.allReduce send recv count element reduction)
  | reduceScatter (send recv : Address) (count : UInt64) (element : Element)
      (reduction : Reduction) : Built (.reduceScatter send recv count element reduction)
  | allGather (send recv : Address) (count : UInt64) (element : Element) :
      Built (.allGather send recv count element)
  | sendTo (send : Address) (count : UInt64) (element : Element) (peer : UInt64) :
      Built (.sendTo send count element peer)
  | recvFrom (recv : Address) (count : UInt64) (element : Element) (peer : UInt64) :
      Built (.recvFrom recv count element peer)
  | gather (send recv : Address) (count : UInt64) (element : Element) (root : UInt64) :
      Built (.gather send recv count element root)
  | scatter (send recv : Address) (count : UInt64) (element : Element) (root : UInt64) :
      Built (.scatter send recv count element root)
  | allToAll (send recv : Address) (count : UInt64) (element : Element) :
      Built (.allToAll send recv count element)
  | allToAllv (send recv : Address) (counts : PeerCounts) (element : Element) :
      Built (.allToAllv send recv counts element)

/-- There is something to send or to receive: elements, or in an exchange of unequal parts a part
that has some. -/
def Nonempty (operation : Operation) : Prop :=
  match operation.kind with
  | .allToAllv => ∃ counts, operation.peerCounts = some counts ∧
      ∃ count ∈ counts.sendCounts, 0 < count.toNat
  | _ => 0 < operation.count.toNat

/-- Of the operations that are not empty, those that have elements are not of one kind. -/
theorem Built.count_pos_iff {operation : Operation} (built : operation.Built)
    (nonempty : operation.Nonempty) :
    0 < operation.count.toNat ↔ operation.kind ≠ .allToAllv := by
  cases built with
  | allToAllv send recv counts element =>
      have empty : (Operation.allToAllv send recv counts element).count.toNat = 0 := rfl
      have exchange : (Operation.allToAllv send recv counts element).kind = .allToAllv := rfl
      simp [empty, exchange]
  | _ => exact iff_of_true nonempty nofun

end Operation

namespace Metadata

variable {algorithm : Metadata} {request : Request}

/-- An algorithm for one kind and number of ranks that sets no limits. -/
structure Unlimited (algorithm : Metadata) (kind : Kind) (numRanks : UInt64) : Prop where
  kind : algorithm.kind = kind
  ranks : algorithm.numRanks = numRanks
  multiplier : algorithm.sizeMultiplier = 1
  chunks : algorithm.chunksPerLoop = 1
  least : algorithm.minBytes = 0
  most : algorithm.maxBytes = 0
  inPlace : algorithm.inPlace = true
  outOfPlace : algorithm.outOfPlace = true

/-- An algorithm without limits suits what has elements, however its buffers lie. -/
theorem Unlimited.suits
    (unlimited : algorithm.Unlimited request.operation.kind request.numRanks)
    (elements : 0 < request.operation.count.toNat)
    (volume : request.operation.volume < 2 ^ 64) : algorithm.Suits request := by
  have single : (1 : UInt64).toNat = 1 := rfl
  have message : algorithm.message request.operation = request.operation.volume := by
    rw [Metadata.message, unlimited.multiplier, single, Nat.mul_one]
  constructor
  · exact unlimited.kind
  · exact unlimited.ranks
  · exact elements
  · rw [unlimited.chunks, single]
    exact Nat.one_pos
  · rw [unlimited.chunks, single]
    exact Nat.one_dvd _
  · exact volume
  · rw [message]
    exact volume
  · rw [unlimited.least]
    exact Nat.zero_le _
  · rw [unlimited.most]
    exact .inl rfl
  · exact fun _ => unlimited.inPlace
  · exact fun _ => unlimited.outOfPlace

end Metadata

/-- A catalog with an entry without limits chooses one for exactly the operations that have
elements. -/
theorem Catalog.firstMatch?_of_unlimited {catalog : Catalog} {request : Request}
    {entry : Metadata} (listed : entry ∈ catalog.algorithms)
    (unlimited : entry.Unlimited request.operation.kind request.numRanks)
    (pointwise : request.operation.reduction.pointwise = true)
    (volume : request.operation.volume < 2 ^ 64) :
    (catalog.firstMatch? request).isSome = true ↔ 0 < request.operation.count.toNat := by
  rw [Catalog.firstMatch?_isSome]
  constructor
  · rintro ⟨-, other, -, accepted⟩
    exact (Metadata.accepts_iff.mp accepted).nonempty
  · intro elements
    exact ⟨pointwise, entry, listed, Metadata.accepts_iff.mpr (unlimited.suits elements volume)⟩

namespace Machine

variable {env : Environment} {config : Config} {machine : Machine} {history : History}
variable {thread : ThreadId} {operation : Operation} {comm : Communicator} {stream : Stream}
variable {pending : Pending} {handle : Handle}

/-- The catalog decides about the operations on a communicator. -/
structure Decides (machine : Machine) (config : Config) (comm : Communicator) : Prop where
  fit : machine.compatible comm = true
  available : machine.available config = true
  internal : machine.status.selector = some .internal

theorem Decides.ready (decides : machine.Decides config comm) : machine.status.ready = true := by
  have available := decides.available
  unfold Machine.available at available
  rw [Bool.and_eq_true] at available
  exact available.2

theorem Decides.run_choose (decides : machine.Decides config pending.comm) :
    (choose config thread pending).run env machine history =
      ⟨.ok ((machine.status.catalog.firstMatch? pending.request).bind fun index =>
        machine.status.store.handle? index pending.request.rank), machine, history⟩ := by
  unfold choose onBehalf onStatus
  rw [run_bind, run_get]
  dsimp only
  rw [decides.fit, decides.available, Bool.and_self, if_pos rfl, run_bind, run_get]
  dsimp only
  rw [run_within, Status.run_select decides.internal]

/-- Outside all groups an operation for which the catalog has an algorithm is launched on it. -/
theorem Decides.ensures_submit_launched (decides : machine.Decides config comm)
    (coherent : machine.status.Coherent) (outside : (machine.threads thread).phase = .noGroup)
    (valid : (comm.request operation).validate = .ok ())
    (chosen : (machine.status.catalog.firstMatch? (comm.request operation)).bind (fun index =>
      machine.status.store.handle? index comm.rank) = some handle)
    {algorithm : Instance} (loaded : machine.status.store.loaded.get? handle = some algorithm) :
    let saved : SavedOperation :=
      { request := comm.request operation, comm, stream, handle := some handle }
    (submit config thread operation comm stream).Ensures env machine history
      (fun _ _ later => ∃ event, Executes history [event] later ∧
        machine.status.Launches saved event)
      (fun error _ later => error.Blames history later) := by
  intro saved
  unfold submit
  simp only [ensures_bind, ensures_ofExcept, valid, ensures_get, outside]
  refine .of_run_eq decides.run_choose ?_
  dsimp only [Communicator.request] at chosen ⊢
  rw [chosen]
  unfold onBehalf onStatus
  dsimp only
  rw [ensures_bind, ensures_get, ensures_within]
  refine (Status.ensures_launch coherent saved rfl).mono ?_ ?_
  · exact fun _ _ _ launched => launched.executed
  · rintro _ _ _ ⟨-, -, -, _, -, -, blames⟩
    exact blames decides.ready ⟨handle, algorithm, rfl, loaded⟩

/-- Outside all groups an operation that has neither an algorithm nor a plain collective fails, and
nothing is called. -/
theorem Decides.ensures_submit_unserved (decides : machine.Decides config comm)
    (outside : (machine.threads thread).phase = .noGroup)
    (empty : (machine.threads thread).saved = [])
    (valid : (comm.request operation).validate = .ok ())
    (unmatched : machine.status.catalog.firstMatch? (comm.request operation) = none)
    (unable : operation.plain? = none) :
    (submit config thread operation comm stream).Ensures env machine history
      (fun _ _ _ => False)
      (fun error _ later => error = .noPlainCollective operation.kind ∧ later = history) := by
  unfold submit
  simp only [ensures_bind, ensures_ofExcept, valid, ensures_get, outside]
  refine .of_run_eq decides.run_choose ?_
  dsimp only
  rw [unmatched]
  rw [Option.bind_none]
  dsimp only
  rw [onThread, ensures_within, ensures_congr (Thread.run_fallBack_alone empty _),
    Thread.ensures_asCaller]
  unfold Thread.runPlain
  dsimp only [Communicator.request]
  rw [unable]
  exact ⟨rfl, rfl⟩

end Machine

namespace Run

variable {run : Run} {joining last : Nat} {comm : Communicator} {channels : UInt32}
variable {thread : ThreadId}

/-- Where the catalog decides, it does so about a communicator that has joined, until somebody shuts
down. -/
theorem decides_once_joined (fits : Machine.fit run.config comm = true)
    (taken : run.turns[joining]? = some ⟨thread, .join comm⟩)
    (joined : (run.outcome (run.scene joining) ⟨thread, .join comm⟩).result =
      .ok (.channels channels))
    (order : joining < last) (steady : run.Steady joining last)
    (internal : (run.status last).isExternal = false) :
    (run.scene last).machine.Decides run.config comm ∧
      (run.status last).Hosts comm channels := by
  obtain ⟨up, decides, hosts⟩ := stays_hosted fits taken joined order steady internal
  refine ⟨⟨?_, ?_, decides⟩, hosts⟩
  · exact (stays_marked order taken joined).trans fits
  · unfold Machine.available
    rw [Bool.and_eq_true]
    refine ⟨?_, up⟩
    unfold Machine.fit at fits
    simp only [Bool.and_eq_true] at fits
    exact fits.1.1

/-- Where the catalog decides and has an entry without limits for the kind of an operation and for
the ranks of a communicator that has joined, whatever else has happened since but a shutdown: an
operation that is not empty is launched outside groups, on an algorithm that is loaded, unless it
is an exchange of unequal parts.  Such an exchange fails for want of a plain collective, and nobody
is called for it. -/
theorem launches_all_but_unequal_exchanges (fits : Machine.fit run.config comm = true)
    (taken : run.turns[joining]? = some ⟨thread, .join comm⟩)
    (joined : (run.outcome (run.scene joining) ⟨thread, .join comm⟩).result =
      .ok (.channels channels))
    (order : joining < last) (steady : run.Steady joining last)
    (internal : (run.status last).isExternal = false)
    {operation : Operation} {stream : Stream} {asking : ThreadId} {entry : Metadata}
    (listed : entry ∈ (run.status last).catalog.algorithms)
    (unlimited : entry.Unlimited operation.kind comm.numRanks)
    (built : operation.Built) (nonempty : operation.Nonempty)
    (pointwise : operation.reduction.pointwise = true)
    (valid : (comm.request operation).validate = .ok ()) (volume : operation.volume < 2 ^ 64)
    (submits : run.turns[last]? = some ⟨asking, .submit operation comm stream⟩)
    (outside : (run.thread last asking).depth = 0)
    (accepted : ∀ event ∈ run.between last (last + 1), event.call.works = true →
      event.refused = false) :
    let result := (run.outcome (run.scene last) ⟨asking, .submit operation comm stream⟩).result
    if operation.kind = .allToAllv then
      result = .error (.noPlainCollective .allToAllv) ∧ run.between last (last + 1) = []
    else
      result = .ok .done ∧ ∃ handle event, run.executed last = [event] ∧
        (run.status last).Schedules comm operation channels handle ∧
        (run.status last).Launches
          { request := comm.request operation, comm, stream, handle := some handle } event := by
  intro result
  obtain ⟨decides, hosts⟩ := decides_once_joined fits taken joined order steady internal
  have settled := run.settled last
  have consistent := (run.waits last asking).consistent
  have phase := consistent.phase.mp outside
  have matched : ((run.status last).catalog.firstMatch? (comm.request operation)).isSome = true ↔
      operation.kind ≠ .allToAllv :=
    (@Catalog.firstMatch?_of_unlimited _ (comm.request operation) entry listed unlimited pointwise
      volume).trans (built.count_pos_iff nonempty)
  have ensured {good : Machine → History → Prop} {bad : Error → Machine → History → Prop}
      (submitted : (Machine.submit run.config asking operation comm stream).Ensures run.env
        (run.scene last).machine (run.history last) (fun _ => good) bad) :
      (Machine.perform run.config asking (.submit operation comm stream)).Ensures run.env
        (run.scene last).machine (run.history last)
        (fun reply after later => reply = .done ∧ good after later) bad := by
    simp only [Machine.perform, ensures_bind, ensures_pure, true_and]
    exact submitted
  split
  next exchange =>
    have unmatched : (run.status last).catalog.firstMatch? (comm.request operation) = none := by
      rw [← Option.not_isSome_iff_eq_none, matched, exchange]
      exact fun other => other rfl
    have unable : operation.plain? = none := by
      unfold Operation.plain?
      rw [exchange]
    have fails := ensured (decides.ensures_submit_unserved phase
      (consistent.empty (by simp [phase])) valid unmatched unable)
    cases ended : result with
    | ok => exact (after_reply fails submits ended).2.elim
    | error error =>
        obtain ⟨rfl, same⟩ := after_error fails submits ended
        refine ⟨by rw [exchange], ?_⟩
        exact between_of_append same
  next other =>
    obtain ⟨index, found⟩ := Option.isSome_iff_exists.mp (matched.mpr other)
    obtain ⟨handle, recorded, schedules⟩ := hosts.schedules (settled.1.sound decides.ready) found
    have chosen : ((run.status last).catalog.firstMatch? (comm.request operation)).bind
        (fun index => (run.status last).store.handle? index comm.rank) = some handle := by
      rw [found]
      exact recorded
    obtain ⟨algorithm, loaded⟩ := schedules.loaded
    have launches := ensured (decides.ensures_submit_launched settled.1 phase valid chosen loaded)
    cases ended : result with
    | ok =>
        obtain ⟨rfl, event, executed, launched⟩ := after_reply launches submits ended
        exact ⟨rfl, handle, event, executed_of_executes executed, schedules, launched⟩
    | error error =>
        obtain ⟨_, event, earlier, grown, since, works, refused⟩ :=
          after_error launches submits ended
        rw [accepted event (mem_between_of_latest grown since) works] at refused
        cases refused

end Run

namespace Sample

/-- Each of two ranks has one element for either. -/
def exchange : Operation := .allToAllv ⟨1⟩ ⟨2⟩ ⟨[1, 1], [0, 1], [1, 1], [0, 1]⟩ .float32

/-- A communicator joins, with an algorithm for an operation, and submits the operation. -/
def scheduling (operation : Operation) : Run :=
  run operation.kind [⟨0, .join (comm 1 0)⟩, ⟨0, .submit operation (comm 1 0) ⟨0⟩⟩]

/-- A gathering is launched, and an exchange of unequal parts is not, though there is an algorithm
for it. -/
theorem exchange_not_launched :
    let gathering := .gather ⟨1⟩ ⟨2⟩ 1 .float32 0
    ((scheduling gathering).outcome ((scheduling gathering).scene 1)
      ⟨0, .submit gathering (comm 1 0) ⟨0⟩⟩).result = .ok .done ∧
    ((scheduling exchange).outcome ((scheduling exchange).scene 1)
      ⟨0, .submit exchange (comm 1 0) ⟨0⟩⟩).result = .error (.noPlainCollective .allToAllv) := by
  intro gathering
  have steady (operation : Operation) : (scheduling operation).Steady 0 1 := by
    intro number turn _ below taken
    interval_cases number
    cases taken
    simp
  have gathered := @Run.launches_all_but_unequal_exchanges (scheduling gathering) 0 1 (comm 1 0) 1 0
    (by decide) rfl (by decide +kernel) (by decide) (steady _) (by decide +kernel) gathering ⟨0⟩ 0
    { algorithm .gather with file := ⟨[0]⟩ } (by decide +kernel)
    ⟨rfl, rfl, rfl, rfl, rfl, rfl, rfl, rfl⟩ (.gather ..) Nat.one_pos rfl rfl (by decide) rfl
    (by decide +kernel) (by decide +kernel)
  have exchanged := @Run.launches_all_but_unequal_exchanges (scheduling exchange) 0 1 (comm 1 0) 1 0
    (by decide) rfl (by decide +kernel) (by decide) (steady _) (by decide +kernel) exchange ⟨0⟩ 0
    { algorithm .allToAllv with file := ⟨[0]⟩ } (by decide +kernel)
    ⟨rfl, rfl, rfl, rfl, rfl, rfl, rfl, rfl⟩ (.allToAllv ..) ⟨_, rfl, 1, by decide, by decide⟩
    rfl rfl (by decide) rfl (by decide +kernel) (by decide +kernel)
  exact ⟨gathered.1, exchanged.1⟩

end Sample

end Collective
