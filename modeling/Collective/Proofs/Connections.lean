import Collective.Proofs.Selection

/-!
# Connections

The store records a slot as connected on a communicator only after a call that has
connected what the slot holds, and it forgets that only with the slot itself.  Nothing
checks the record before a launch: a launch is on a connected slot exactly where the
record says so, for instance where the communicator has joined and nobody has shut down
since.
-/

namespace Collective

open Procedure History

namespace Status

variable {status middle after : Status} {history past later : History}

theorem Move.suffix (moved : Move status history after later) : history <:+ later := by
  cases moved with
  | growth grown => exact grown.executes.suffix
  | launch | plain => exact List.suffix_cons _ _

/-- Between two moments, what became connected was connected by a call, and it is what
the slot holds now. -/
def Links (status : Status) (history : History) (after : Status) (later : History) : Prop :=
  ∃ events, later = events ++ history ∧
    ∀ {comm handle}, after.store.isConnected comm handle = true →
      status.store.isConnected comm handle = true ∨
      ∃ algorithm target, target.id = comm ∧ ⟨.connect algorithm target, .ok ()⟩ ∈ events ∧
        after.store.loaded.get? handle = some algorithm

/-- Where no connection is recorded, none is new. -/
theorem Links.same (suffix : history <:+ later)
    (connected : after.store.connected = status.store.connected) :
    status.Links history after later := by
  obtain ⟨events, grown⟩ := suffix
  refine ⟨events, grown.symm, ?_⟩
  intro comm handle linked
  unfold Store.isConnected at linked ⊢
  rw [connected] at linked
  exact .inl linked

theorem Links.trans (before : status.Links history middle past)
    (extended : middle.Extends after) (rest : middle.Links past after later) :
    status.Links history after later := by
  obtain ⟨earlier, rfl, first⟩ := before
  obtain ⟨events, rfl, second⟩ := rest
  refine ⟨events ++ earlier, by simp, ?_⟩
  intro comm handle linked
  rcases second linked with known | ⟨algorithm, target, same, called, loaded⟩
  · rcases first known with old | ⟨algorithm, target, same, called, loaded⟩
    · exact .inl old
    · right
      exact ⟨algorithm, target, same, List.mem_append_right _ called, extended.store.loaded loaded⟩
  · right
    exact ⟨algorithm, target, same, List.mem_append_left _ called, loaded⟩

theorem Move.links (moved : Move status history after later) :
    status.Links history after later := by
  have suffix := moved.suffix
  cases moved with
  | growth grown =>
      cases grown with
      | call | choose | list | refill | reset | start | drop | stretch => exact .same suffix rfl
      | store sound stored =>
          cases stored with
          | call | undo | load | assign => exact .same suffix rfl
          | @connect handle algorithm target fresh loaded =>
              refine ⟨[⟨.connect algorithm target, .ok ()⟩], rfl, ?_⟩
              intro comm slot linked
              rcases Store.isConnected_link.mp linked with ⟨rfl, rfl⟩ | earlier
              · exact .inr ⟨algorithm, target, rfl, List.mem_singleton_self _, loaded⟩
              · exact .inl earlier
  | launch answer =>
      cases answer with
      | ok => exact .same suffix rfl
      | error => exact .same suffix rfl
  | plain => exact .same suffix rfl

theorem moving_links (moving : Along Move status history after later) :
    status.Links history after later := by
  apply moving.keeps fun reached past => status.Links history reached past
  · intro reached past next now moved linked
    exact linked.trans moved.extends_after moved.links
  · exact .same List.suffix_rfl rfl

end Status

namespace Run

variable {run : Run} {number turn : Nat} {comm : UInt32} {handle : Handle}
variable {algorithm : Instance}

/-- A turn has connected an algorithm for the identifier of a communicator, and a slot
has held the algorithm ever since. -/
structure Connected (run : Run) (turn number : Nat) (comm : UInt32) (handle : Handle)
    (algorithm : Instance) : Prop where
  before : turn < number
  called : ∃ target, target.id = comm ∧
    ⟨.connect algorithm target, .ok ()⟩ ∈ run.between turn (turn + 1)
  held : ∀ scene, turn < scene → scene ≤ number →
    (run.status scene).store.loaded.get? handle = some algorithm

theorem Connected.succ (connected : run.Connected turn number comm handle algorithm)
    (still : (run.status (number + 1)).store.loaded.get? handle = some algorithm) :
    run.Connected turn (number + 1) comm handle algorithm where
  before := Nat.lt_succ_of_lt connected.before
  called := connected.called
  held := by
    intro scene above below
    rcases Nat.le_succ_iff.mp below with earlier | rfl
    · exact connected.held scene above earlier
    · exact still

theorem Connected.loaded (connected : run.Connected turn number comm handle algorithm) :
    (run.status number).store.loaded.get? handle = some algorithm :=
  connected.held number connected.before le_rfl

/-- What is recorded as connected was connected by an earlier turn. -/
theorem connected_of_recorded
    (recorded : (run.status number).store.isConnected comm handle = true) :
    ∃ algorithm turn, run.Connected turn number comm handle algorithm := by
  induction number with
  | zero => cases recorded
  | succ number ih =>
      cases taken : run.turns[number]? with
      | none =>
          rw [status_past_end taken] at recorded
          obtain ⟨algorithm, turn, connected⟩ := ih recorded
          refine ⟨algorithm, turn, connected.succ ?_⟩
          rw [status_past_end taken]
          exact connected.loaded
      | some command =>
          cases (turned taken).effect with
          | grown grown =>
              obtain ⟨events, added, links⟩ := Status.moving_links grown.along
              rcases links recorded with earlier | ⟨algorithm, target, same, called, loaded⟩
              · obtain ⟨algorithm, turn, connected⟩ := ih earlier
                have extended := Status.moving_extends grown.along
                exact ⟨algorithm, turn, connected.succ (extended.store.loaded connected.loaded)⟩
              · refine ⟨algorithm, number, Nat.lt_succ_self number, ⟨target, same, ?_⟩, ?_⟩
                · rw [between_of_append added]
                  exact called
                · intro scene above below
                  rw [Nat.le_antisymm below above]
                  exact loaded
          | released along released =>
              -- Nothing is recorded after a release.
              have coherent := Status.moving_coherent along (run.settled number).1
              have dormant := released.dormant coherent
              unfold status at recorded
              rw [Store.isConnected, dormant.store.connected] at recorded
              cases recorded

end Run

/-! ## What is connected is recorded -/

/-- What was connected was loaded before, and it is recorded where it is held. -/
structure Store.Recorded (store : Store) (history : History) : Prop where
  loaded : ∀ {algorithm target}, ⟨.connect algorithm target, .ok ()⟩ ∈ history →
    algorithm ∈ loads history
  linked : ∀ {algorithm target handle}, ⟨.connect algorithm target, .ok ()⟩ ∈ history →
    store.loaded.get? handle = some algorithm → store.isConnected target.id handle = true

namespace Store.Recorded

variable {store : Store} {history : History}

/-- A call that connects nothing. -/
theorem cons (recorded : store.Recorded history) {event : Event}
    (other : ∀ algorithm target, event ≠ ⟨.connect algorithm target, .ok ()⟩) :
    store.Recorded (event :: history) := by
  have earlier {algorithm : Instance} {target : Communicator}
      (member : ⟨.connect algorithm target, .ok ()⟩ ∈ event :: history) :
      ⟨.connect algorithm target, .ok ()⟩ ∈ history :=
    (List.mem_cons.mp member).resolve_left fun same => other algorithm target same.symm
  constructor
  · intro algorithm target member
    rw [loads_cons]
    exact Multiset.mem_add.mpr (.inr (recorded.loaded (earlier member)))
  · intro algorithm target handle member
    exact recorded.linked (earlier member)

theorem quiet (recorded : store.Recorded history) {event : Event} (quiet : event.quiet = true) :
    store.Recorded (event :: history) :=
  recorded.cons (Event.quiet_iff.mp quiet).2.2.2.2.2

/-- A call that loads something else than was loaded before. -/
theorem occupy (recorded : store.Recorded history) (handle : Handle) (others : List Handle)
    {algorithm : Instance} {image : Option Buffer}
    (distinct : (loads (algorithm.loading image ++ history)).Nodup) :
    (store.occupy others handle algorithm image).Recorded (algorithm.loading image ++ history) := by
  rw [algorithm.loads_loading] at distinct
  have fresh : algorithm ∉ loads history := (Multiset.nodup_cons.mp distinct).1
  have still : store.Recorded (algorithm.loading image ++ history) := by
    have loaded : store.Recorded (algorithm.loading none ++ history) :=
      recorded.cons (by simp)
    cases image with
    | none => exact loaded
    | some image => exact loaded.cons (by simp)
  refine ⟨still.loaded, ?_⟩
  intro other target slot member held
  by_cases same : slot = handle
  · -- What was connected before was loaded before.
    subst same
    have equal : other = algorithm :=
      Option.some.inj (held.symm.trans (Table.get?_insert_self _ _ _))
    have called : ⟨.connect other target, .ok ()⟩ ∈ history := by
      cases image <;> simpa [Instance.loading] using member
    rw [equal] at called
    exact absurd (recorded.loaded called) fresh
  · have kept : store.loaded.get? slot = some other := by
      rw [← held]
      exact ((Table.get?_insert _ _ _ _).trans (if_neg same)).symm
    exact still.linked member kept

/-- A call that connects what one slot only holds. -/
theorem link (recorded : store.Recorded history) {handle : Handle} {algorithm : Instance}
    {target : Communicator} (held : store.loaded.get? handle = some algorithm)
    (known : algorithm ∈ loads history) (distinct : store.loaded.values.Nodup) :
    (store.link target.id handle).Recorded (⟨.connect algorithm target, .ok ()⟩ :: history) := by
  constructor
  · intro other comm member
    rw [loads_cons]
    apply Multiset.mem_add.mpr
    rcases List.mem_cons.mp member with same | earlier
    · cases same
      exact .inr known
    · exact .inr (recorded.loaded earlier)
  · intro other comm slot member loaded
    apply isConnected_link.mpr
    rcases List.mem_cons.mp member with same | earlier
    · cases same
      exact .inl ⟨rfl, Table.get?_unique distinct loaded held⟩
    · exact .inr (recorded.linked earlier loaded)

end Store.Recorded

namespace Status

variable {status after : Status} {history later : History}

theorem Move.recorded (moved : Move status history after later)
    (balanced : status.Balanced history) (recorded : status.store.Recorded history)
    (distinct : (loads later).Nodup) : after.store.Recorded later := by
  cases moved with
  | growth grown =>
      cases grown with
      | call quiet => exact recorded.quiet quiet
      | choose | list | refill | reset => exact ⟨recorded.loaded, recorded.linked⟩
      | start | drop | stretch => exact recorded.cons (by simp)
      | store sound stored =>
          cases stored with
          | call quiet => exact recorded.quiet quiet
          | undo => exact ((recorded.cons (by simp)).cons (by simp)).cons (by simp)
          | @load handle others => exact recorded.occupy handle others distinct
          | @assign handle others =>
              have occupied := recorded.occupy handle others distinct
              exact ⟨occupied.loaded, occupied.linked⟩
          | connect target fresh loaded =>
              rw [loads_cons, balanced.algorithms] at distinct
              have held := (Multiset.nodup_add.mp (Multiset.nodup_add.mp distinct).2.1).2.1
              refine recorded.link loaded ?_ held
              rw [balanced.algorithms]
              exact Multiset.mem_add.mpr (.inr (Table.mem_values_of_get? loaded))
  | launch answer =>
      cases answer with
      | ok => exact recorded.cons (by simp)
      | error => exact recorded.cons (by simp)
  | plain => exact recorded.cons (by simp)

theorem moving_recorded (moving : Along Move status history after later)
    (balanced : status.Balanced history) (recorded : status.store.Recorded history)
    (distinct : (loads later).Nodup) : after.store.Recorded later := by
  have kept : after.Balanced later ∧ ((loads later).Nodup → after.store.Recorded later) := by
    apply moving.keeps fun reached past =>
      reached.Balanced past ∧ ((loads past).Nodup → reached.store.Recorded past)
    · rintro reached past next now moved ⟨balanced, recorded⟩
      refine ⟨moved.balanced balanced, fun distinct => ?_⟩
      have before := Multiset.nodup_of_le (loads_le_of_suffix moved.suffix) distinct
      exact moved.recorded balanced (recorded before) distinct
    · exact ⟨balanced, fun _ => recorded⟩
  exact kept.2 distinct

/-- A release connects nothing and leaves nothing that is held. -/
theorem Released.recorded (released : Released status history after later)
    (before : status.store.Recorded history) : after.store.Recorded later := by
  obtain ⟨loaded, images, -, -, rfl, adds⟩ := released
  obtain ⟨events, rfl, returns⟩ := adds.exists_events (status.returning_returns loaded images)
  have kept : status.store.Recorded (events ++ history) := by
    clear adds
    induction events with
    | nil => exact before
    | cons event others ih =>
        apply (ih fun other member => returns other (List.mem_cons_of_mem event member)).cons
        rintro algorithm target rfl
        exact absurd (returns _ List.mem_cons_self) (by simp [Call.returns])
  refine ⟨kept.loaded, ?_⟩
  intro algorithm target handle _ held
  have vacant := status.store.cleared_vacant ((loaded.map Prod.fst).reverse ++ status.store.free)
  rw [emptied, vacant.loaded] at held
  cases held

/-- Where the catalog decides and launches are possible, it was filled. -/
theorem Coherent.internal (coherent : status.Coherent) (ready : status.ready = true)
    (internal : status.isExternal = false) :
    status.selector = some .internal ∧ status.catalog.loaded = true := by
  obtain ⟨selector, chosen⟩ := Option.isSome_iff_exists.mp (coherent.chosen ready)
  cases selector with
  | internal => exact ⟨chosen, coherent.listed ready chosen⟩
  | external scheduler => simp [isExternal, chosen] at internal

/-- A choice of the catalog stands while the status grows. -/
theorem Extends.chooses (extended : status.Extends after) (coherent : status.Coherent)
    {request : Request} {handle : Handle} (chooses : status.Chooses request handle)
    (internal : status.isExternal = false) : after.Chooses request handle where
  ready := extended.ready chooses.ready
  first _ := by
    obtain ⟨index, first, recorded⟩ := chooses.first internal
    rw [extended.catalog (coherent.internal chooses.ready internal).2]
    exact ⟨index, first, extended.store.recorded recorded⟩

theorem Extends.serves (extended : status.Extends after) (listed : status.catalog.loaded = true)
    {comm : Communicator} (serves : status.Serves comm) : after.Serves comm := by
  intro index metadata entry ranks
  rw [extended.catalog listed] at entry
  obtain ⟨handle, recorded, linked⟩ := serves entry ranks
  exact ⟨handle, extended.store.recorded recorded, extended.store.linked linked⟩

/-- A communicator is hosted while the status grows. -/
theorem Extends.hosts (extended : status.Extends after) (listed : status.catalog.loaded = true)
    {comm : Communicator} {needed : UInt32} (hosts : status.Hosts comm needed) :
    after.Hosts comm needed := by
  refine ⟨extended.serves listed hosts.serves, ?_⟩
  rw [extended.catalog listed]
  exact hosts.channels

/-- Where a communicator is served, the slot of an operation on it is connected. -/
theorem Chooses.connected {comm : Communicator} {operation : Operation} {handle : Handle}
    (chooses : status.Chooses (comm.request operation) handle)
    (internal : status.isExternal = false) (serves : status.Serves comm) :
    status.store.isConnected comm.id handle = true := by
  obtain ⟨index, first, recorded⟩ := chooses.first internal
  obtain ⟨metadata, entry, accepted, _⟩ := Catalog.elects_of_firstMatch? first
  obtain ⟨other, found, linked⟩ := serves entry (Metadata.numRanks_of_accepts accepted)
  have same : some other = some handle := found.symm.trans recorded
  rw [← Option.some.inj same]
  exact linked

end Status

namespace Run

variable {run : Run} {number turn : Nat} {comm : Communicator} {handle : Handle}
variable {algorithm : Instance}

theorem recorded (run : Run) (number : Nat) (distinct : (loads (run.history number)).Nodup) :
    (run.status number).store.Recorded (run.history number) := by
  induction number with
  | zero =>
      constructor
      · intro _ _ member
        cases member
      · intro _ _ _ member
        cases member
  | succ number ih =>
      have before := ih (distinct_before distinct (Nat.le_succ number))
      cases taken : run.turns[number]? with
      | none =>
          rw [status_past_end taken, history_past_end taken]
          exact before
      | some command =>
          have balanced := (run.accounted number).balanced
          cases (turned taken).effect with
          | grown grown => exact Status.moving_recorded grown.along balanced before distinct
          | released along released =>
              have earlier := Multiset.nodup_of_le (loads_le_of_suffix released.executes.suffix)
                distinct
              exact released.recorded (Status.moving_recorded along balanced before earlier)

theorem Connected.mem_history {slot : UInt32}
    (connected : run.Connected turn number slot handle algorithm) :
    ∃ target, target.id = slot ∧ ⟨.connect algorithm target, .ok ()⟩ ∈ run.history number := by
  obtain ⟨target, same, called⟩ := connected.called
  refine ⟨target, same, ?_⟩
  have within := List.mem_append_left (run.history turn) called
  rw [← history_between (Nat.le_succ turn)] at within
  exact (history_suffix connected.before).subset within

/-- A turn prepares a communicator that is fit, and succeeds. -/
def Joined (run : Run) (number : Nat) (comm : Communicator) : Prop :=
  Machine.fit run.config comm = true ∧
  ∃ thread channels, run.turns[number]? = some ⟨thread, .join comm⟩ ∧
    (run.outcome (run.scene number) ⟨thread, .join comm⟩).result = .ok (.channels channels)

/-- A communicator that has joined is hosted, if the catalog decides. -/
theorem hosts_of_join {thread : ThreadId} {channels : UInt32}
    (fits : Machine.fit run.config comm = true)
    (taken : run.turns[number]? = some ⟨thread, .join comm⟩)
    (joined : (run.outcome (run.scene number) ⟨thread, .join comm⟩).result =
      .ok (.channels channels)) :
    (run.status (number + 1)).ready = true ∧
      ((run.status (number + 1)).selector = some .internal →
        (run.status (number + 1)).Hosts comm channels) := by
  have ensured : (Machine.perform run.config thread (.join comm)).Ensures run.env
      (run.scene number).machine (run.history number)
      (fun reply after _ => ∀ channels, reply = .channels channels →
        after.status.ready = true ∧
          (after.status.selector = some .internal → after.status.Hosts comm channels))
      (fun _ _ _ => True) := by
    simp only [Machine.perform, ensures_bind, ensures_pure]
    apply (Machine.ensures_join run.config comm (run.settled number)).mono
    · rintro _ _ _ ⟨_, _, _, hosts⟩ _ same
      cases same
      exact hosts fits
    · exact fun _ _ _ _ => trivial
  exact after_reply ensured taken joined channels rfl

/-- A communicator that has joined stays hosted until somebody shuts down. -/
theorem stays_hosted {joining last : Nat} {thread : ThreadId} {channels : UInt32}
    (fits : Machine.fit run.config comm = true)
    (taken : run.turns[joining]? = some ⟨thread, .join comm⟩)
    (joined : (run.outcome (run.scene joining) ⟨thread, .join comm⟩).result =
      .ok (.channels channels))
    (order : joining < last) (steady : run.Steady joining last)
    (internal : (run.status last).isExternal = false) :
    (run.status last).ready = true ∧ (run.status last).selector = some .internal ∧
      (run.status last).Hosts comm channels := by
  obtain ⟨up, hosts⟩ := hosts_of_join fits taken joined
  obtain ⟨still, extended⟩ := stays_up (steady.mono (Nat.le_succ joining) le_rfl) up order
  have first := (run.settled (joining + 1)).1
  have chosen := ((run.settled last).1.internal still internal).1
  have decided : (run.status (joining + 1)).selector = some .internal :=
    (extended.selector (first.chosen up)).symm.trans chosen
  exact ⟨still, chosen, extended.hosts (first.listed up decided) (hosts decided)⟩

/-- A communicator that has joined is served, if the catalog decides. -/
theorem Joined.serves (joined : run.Joined number comm) :
    (run.status (number + 1)).ready = true ∧
      ((run.status (number + 1)).selector = some .internal →
        (run.status (number + 1)).Serves comm) := by
  obtain ⟨fits, thread, channels, taken, succeeded⟩ := joined
  obtain ⟨ready, hosts⟩ := hosts_of_join fits taken succeeded
  exact ⟨ready, fun internal => (hosts internal).serves⟩

/-- Where the communicator of an operation has joined and nobody has shut down since, the
slot that was chosen for the operation is connected. -/
theorem Joined.connected {joining submitted last : Nat} (joined : run.Joined joining comm)
    {operation : Operation}
    (chooses : (run.status submitted).Chooses (comm.request operation) handle)
    (internal : (run.status submitted).isExternal = false)
    (steady : run.Steady (min joining submitted) last) (before : joining < last)
    (order : submitted ≤ last) :
    (run.status last).store.isConnected comm.id handle = true := by
  obtain ⟨ready, serves⟩ := joined.serves
  have submittedCoherent := (run.settled submitted).1
  have chosen := (submittedCoherent.internal chooses.ready internal).1
  rcases Nat.lt_or_ge joining submitted with early | late
  · obtain ⟨fits, _, _, taken, succeeded⟩ := joined
    obtain ⟨_, _, hosts⟩ := stays_hosted fits taken succeeded early (steady.mono (by omega) order)
      internal
    have linked := chooses.connected internal hosts.serves
    obtain ⟨_, further⟩ := stays_up (steady.mono (by omega) le_rfl) chooses.ready order
    exact further.store.linked linked
  · obtain ⟨_, extended⟩ := stays_up (steady.mono (by omega) before) chooses.ready
      (Nat.le_succ_of_le late)
    have same := extended.selector (submittedCoherent.chosen chooses.ready)
    have served : (run.status (joining + 1)).Serves comm := serves (same.trans chosen)
    have foreign : (run.status (joining + 1)).isExternal = false := by
      unfold Status.isExternal at internal ⊢
      rwa [same]
    have still := extended.chooses submittedCoherent chooses internal
    have linked := still.connected foreign served
    obtain ⟨_, further⟩ := stays_up (steady.mono (by omega) le_rfl) ready before
    exact further.store.linked linked

theorem Submits.request_eq {thread : ThreadId} {pending : Pending}
    (submits : run.Submits number thread pending) :
    ∃ operation, pending.request = pending.comm.request operation := by
  obtain ⟨command, _, sends, _⟩ := submits
  cases command <;> cases sends
  exact ⟨_, rfl⟩

/-- A launch of an operation whose algorithm the catalog decided follows a call that has
connected what its slot holds, since that was loaded, for the communicator of the
operation, exactly where the store records the slot as connected; for the record to tell
this all loaded algorithms have to be distinct.  It does so wherever the communicator has
joined and nobody has shut down since. -/
theorem launched_connected {execution : Execution} {launch : Launch}
    (member : execution ∈ run.ledger number) (launches : execution.event.call = .launch launch)
    (internal : (run.status execution.submitted).isExternal = false) :
    ((loads (run.history number)).Nodup →
      ((∃ connecting, run.Connected connecting execution.executed launch.comm.id launch.handle
          launch.algorithm) ↔
        (run.status execution.executed).store.isConnected launch.comm.id launch.handle =
          true)) ∧
    ∀ joining, joining < execution.executed → run.Joined joining launch.comm →
      run.Steady (min joining execution.submitted) execution.executed →
      ∃ connecting, run.Connected connecting execution.executed launch.comm.id launch.handle
        launch.algorithm := by
  obtain ⟨before, launched⟩ := launched_of_mem member launches
  obtain ⟨submits, chooses, loaded⟩ := launched.chosen launches
  have connected (recorded : (run.status execution.executed).store.isConnected launch.comm.id
      launch.handle = true) : ∃ connecting, run.Connected connecting execution.executed
        launch.comm.id launch.handle launch.algorithm := by
    obtain ⟨algorithm, connecting, connected⟩ := connected_of_recorded recorded
    have same := Option.some.inj (loaded.symm.trans connected.loaded)
    rw [same]
    exact ⟨connecting, connected⟩
  constructor
  · intro distinct
    refine ⟨?_, connected⟩
    rintro ⟨connecting, connection⟩
    obtain ⟨target, same, called⟩ := connection.mem_history
    rw [← same]
    have apart := distinct_before distinct (Nat.le_of_lt before)
    exact (run.recorded execution.executed apart).linked called loaded
  · intro joining earlier joined steady
    obtain ⟨operation, request⟩ := submits.request_eq
    dsimp only at request
    rw [request] at chooses
    exact connected (joined.connected chooses internal steady earlier launched.order)

end Run

namespace Sample

/-- A communicator joins, somebody shuts down, and only another one joins again. -/
def forgotten : Run := run .allReduce [⟨0, .join (comm 1 0)⟩, ⟨0, .join (comm 2 0)⟩,
  ⟨0, .shutDown⟩, ⟨0, .join (comm 1 0)⟩, ⟨0, .submit allReduce (comm 2 0) ⟨0⟩⟩]

/-- An operation is launched on the communicator that was forgotten. -/
theorem launched_unconnected :
    ∃ execution ∈ forgotten.ledger 5, ∃ launch, execution.event.call = .launch launch ∧
      (forgotten.status execution.submitted).isExternal = false ∧
      (loads (forgotten.history 5)).Nodup ∧
      ¬ ∃ connecting, forgotten.Connected connecting execution.executed launch.comm.id
        launch.handle launch.algorithm := by
  have listed : (forgotten.ledger 5).map (fun execution =>
      (execution.submitted, execution.executed, execution.event.call.launch?.map fun launch =>
        (launch.comm.id, launch.handle))) = [(4, 4, some (2, ⟨0⟩))] := by
    decide +kernel
  obtain ⟨execution, member, same⟩ := List.mem_map.mp (listed ▸ List.mem_singleton_self _)
  obtain ⟨submitted, same⟩ := Prod.mk.inj same
  obtain ⟨executed, same⟩ := Prod.mk.inj same
  obtain ⟨launch, found, same⟩ := Option.map_eq_some_iff.mp same
  obtain ⟨comm, handle⟩ := Prod.mk.inj same
  have launches := Call.launch?_eq_some_iff.mp found
  have internal : (forgotten.status execution.submitted).isExternal = false := by
    rw [submitted]
    decide +kernel
  have distinct : (loads (forgotten.history 5)).Nodup := by decide +kernel
  refine ⟨execution, member, launch, launches, internal, distinct, ?_⟩
  rw [(Run.launched_connected member launches internal).1 distinct, executed, comm, handle]
  decide +kernel

end Sample

end Collective
