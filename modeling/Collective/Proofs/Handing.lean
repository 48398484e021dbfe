import Collective.Proofs.Externals
import Collective.Proofs.Narrowing

/-!
# What external schedulers are handed

An external scheduler reads as many counts as there are ranks, from lists whose lengths it is
not told.  A submission is refused where a list is shorter than that, and so nothing is handed
over.  A selection that somebody asks for by itself is not checked, and it is the one way in
which an external scheduler comes to be handed lists that are too short.
-/

namespace Collective

open Procedure History

/-- Each list of counts in a block reaches every rank. -/
def Block.Complete (block : Block) : Prop :=
  ∀ counts, block.peerCounts = some counts →
    block.numRanks.toInt ≤ counts.sendCounts.length ∧
    block.numRanks.toInt ≤ counts.sendOffsets.length ∧
    block.numRanks.toInt ≤ counts.recvCounts.length ∧
    block.numRanks.toInt ≤ counts.recvOffsets.length

instance (block : Block) : Decidable block.Complete :=
  decidable_of_iff (∀ counts ∈ block.peerCounts,
    block.numRanks.toInt ≤ counts.sendCounts.length ∧
    block.numRanks.toInt ≤ counts.sendOffsets.length ∧
    block.numRanks.toInt ≤ counts.recvCounts.length ∧
    block.numRanks.toInt ≤ counts.recvOffsets.length) Iff.rfl

/-- A call that hands no external scheduler an incomplete block. -/
def Event.handsComplete (event : Event) : Bool :=
  match event.call with
  | .selectExternal _ block _ => decide block.Complete
  | _ => true

namespace Request

variable {request : Request} {block : Block}

/-- A block has the lists and the number of ranks of its request. -/
theorem block_fields (made : request.block = .ok block) :
    block.peerCounts = request.operation.peerCounts ∧
      block.numRanks.toInt = request.numRanks.toNat := by
  obtain ⟨fits, rfl⟩ := block_eq_ok_iff.mp made
  exact ⟨rfl, @toInt_ofNat_of_narrowed request fits ("num_ranks", _) (by simp [narrowed])⟩

/-- A block is complete exactly if its request is valid. -/
theorem complete_iff_valid (made : request.block = .ok block) :
    block.Complete ↔ request.validate = .ok () := by
  obtain ⟨counts, ranks⟩ := block_fields made
  rw [validate_eq_ok_iff, Block.Complete, counts, ranks]
  simp only [Int.ofNat_le, PeerCounts.reaches_iff]

end Request

/-! ## Calls that hand over blocks -/

/-- Calls that do not concern selections hand over nothing. -/
theorem handsComplete_of_about {concerns : List Concern} {event : Event}
    (made : about concerns event = true) (other : .selection ∉ concerns) :
    event.handsComplete = true := by
  obtain ⟨call, answer⟩ := event
  cases call with
  | selectExternal => exact absurd (List.contains_iff_mem.mp made) other
  | _ => rfl

theorem Status.makes_complete {asCaller : Bool} {request : Request}
    (complete : ∀ block, request.block = .ok block → block.Complete) :
    (Status.select asCaller request).Makes Event.handsComplete :=
  makes_select_of fun _ block _ made => decide_eq_true (complete block made)

namespace Machine

/-- A submission hands over complete blocks only, in every phase of a group: it is refused where
its request is not valid. -/
theorem makes_complete_submit (config : Config) (thread : ThreadId) (operation : Operation)
    (comm : Communicator) (stream : Stream) :
    (submit config thread operation comm stream).Makes Event.handsComplete := by
  apply makes_submit_of
  · exact fun valid _ => Status.makes_complete fun _ made =>
      (Request.complete_iff_valid made).mpr valid
  · intro _ pending handle
    exact (Status.makes_launch pending handle).mono fun _ made =>
      handsComplete_of_about made (by decide)
  · intro pending
    exact (Thread.makes_fallBack pending).mono fun _ made =>
      handsComplete_of_about made (by decide)

/-- Every command hands over complete blocks only, but a selection whose block is not. -/
theorem makes_complete (config : Config) (thread : ThreadId) (command : Command)
    (complete : ∀ request block, command = .select request → request.block = .ok block →
      block.Complete) :
    (perform config thread command).Makes Event.handsComplete := by
  cases command with
  | select request =>
      have selects (asCaller : Bool) : (Status.select asCaller request).Makes Event.handsComplete :=
        Status.makes_complete fun block => complete request block rfl
      exact .bind (makes_onBehalf thread selects) fun _ => .pure _
  | submit operation comm stream =>
      exact .bind (makes_complete_submit config thread operation comm stream) fun _ => .pure _
  | _ =>
      exact (makes_perform config thread _).mono fun _ made =>
        handsComplete_of_about made (by simp [Command.concerns])

/-- While an external scheduler decides, a selection hands it the block of the request. -/
theorem ensures_performSelect {env : Environment} {machine : Machine} {history : History}
    (config : Config) (thread : ThreadId) {request : Request} {scheduler : External}
    {block : Block} (decides : machine.status.selector = some (.external scheduler))
    (made : request.block = .ok block) :
    let handed := fun (_ : Machine) later => ∃ verdict,
      later = ⟨.selectExternal scheduler block (machine.threads thread).isCaller, verdict⟩ ::
        history
    (perform config thread (.select request)).Ensures env machine history (fun _ => handed)
      (fun _ => handed) := by
  intro handed
  unfold perform onBehalf onStatus Status.select External.select External.checked
  simp only [ensures_bind, ensures_within, ensures_get, decides, made, ensures_ofExcept,
    ensures_ask, ensures_ite, ensures_pure, ensures_throw]
  split
  · exact ⟨_, rfl⟩
  · exact ⟨_, rfl⟩

end Machine

namespace Run

variable {run : Run} {number : Nat} {request : Request}

/-- Somebody asks an external scheduler to select for a request whose numbers fit a block but
that a submission would refuse, for a list that is shorter than the number of ranks. -/
structure SelectsShort (run : Run) (number : Nat) (request : Request) : Prop where
  taken : ∃ thread, run.turns[number]? = some ⟨thread, .select request⟩
  decides : (run.status number).isExternal = true
  fits : ∃ block, request.block = .ok block
  refused : request.validate ≠ .ok ()

/-- What a turn has handed over was complete, or the turn selects for a short request. -/
theorem selects_short {scheduler : External} {block : Block} {asCaller : Bool}
    {verdict : Verdict}
    (handed : ⟨.selectExternal scheduler block asCaller, verdict⟩ ∈ run.between number (number + 1))
    (incomplete : ¬ block.Complete) : ∃ request, run.SelectsShort number request := by
  have decides : (run.status number).isExternal = true := by
    simp [Status.isExternal, selector_of_asked handed]
  cases taken : run.turns[number]? with
  | none =>
      rw [@between_of_append run number (number + 1) [] (history_past_end taken)] at handed
      cases handed
  | some turn =>
      obtain ⟨thread, command⟩ := turn
      -- If nobody selects for a short request, all that the command can hand over is complete.
      by_contra never
      have complete : ∀ request block, command = .select request → request.block = .ok block →
          block.Complete := by
        rintro request block rfl made
        by_contra short
        apply never
        refine ⟨request, ⟨thread, taken⟩, decides, ⟨block, made⟩, ?_⟩
        exact fun valid => short ((Request.complete_iff_valid made).mpr valid)
      have whole := made_between taken (Machine.makes_complete run.config thread command complete)
      exact incomplete (of_decide_eq_true (whole _ handed))

/-- A selection for a short request hands over a block that is incomplete. -/
theorem SelectsShort.hands (selects : run.SelectsShort number request) :
    ∃ scheduler block asCaller verdict,
      ⟨.selectExternal scheduler block asCaller, verdict⟩ ∈ run.between number (number + 1) ∧
        ¬ block.Complete := by
  obtain ⟨thread, taken⟩ := selects.taken
  obtain ⟨block, made⟩ := selects.fits
  obtain ⟨scheduler, decides⟩ : ∃ scheduler,
      (run.status number).selector = some (.external scheduler) := by
    have foreign := selects.decides
    unfold Status.isExternal at foreign
    split at foreign
    next scheduler same => exact ⟨scheduler, same⟩
    next => cases foreign
  have handed := @Machine.ensures_performSelect run.env _ (run.history number) run.config thread
    request scheduler block decides made
  obtain ⟨verdict, latest⟩ := after_turn handed taken
  refine ⟨scheduler, block, _, verdict, mem_between_of_latest latest List.suffix_rfl, ?_⟩
  rw [Request.complete_iff_valid made]
  exact selects.refused

/-- In every run an external scheduler is handed lists of counts that do not reach every rank
exactly if somebody has asked for a selection for a request that a submission would refuse.  So
what is submitted, in whatever phase of a group, never comes to that. -/
theorem hands_short_iff (run : Run) (last : Nat) :
    (∃ scheduler block asCaller verdict,
      ⟨.selectExternal scheduler block asCaller, verdict⟩ ∈ run.history last ∧ ¬ block.Complete) ↔
    ∃ number < last, ∃ request, run.SelectsShort number request := by
  induction last with
  | zero =>
      simp [history, scene]
  | succ last ih =>
      rw [history_between (Nat.le_succ last)]
      constructor
      · rintro ⟨scheduler, block, asCaller, verdict, handed, incomplete⟩
        rcases List.mem_append.mp handed with now | before
        · exact ⟨last, Nat.lt_succ_self last, selects_short now incomplete⟩
        · obtain ⟨number, order, selects⟩ :=
            ih.mp ⟨scheduler, block, asCaller, verdict, before, incomplete⟩
          exact ⟨number, Nat.lt_succ_of_lt order, selects⟩
      · rintro ⟨number, order, request, selects⟩
        rcases Nat.lt_succ_iff_lt_or_eq.mp order with before | rfl
        · obtain ⟨scheduler, block, asCaller, verdict, handed, incomplete⟩ :=
            ih.mpr ⟨number, before, request, selects⟩
          exact ⟨scheduler, block, asCaller, verdict, List.mem_append_right _ handed, incomplete⟩
        · obtain ⟨scheduler, block, asCaller, verdict, handed, incomplete⟩ := selects.hands
          exact ⟨scheduler, block, asCaller, verdict, List.mem_append_left _ handed, incomplete⟩

end Run

namespace Sample

/-- One count each way, for two ranks. -/
def shortExchange : Operation :=
  .allToAllv ⟨1⟩ ⟨2⟩ ⟨[1], [0], [1], [0]⟩ .float32

/-- An external scheduler is installed and asked about an exchange with too few counts. -/
def unchecked : Run :=
  run .allReduce [⟨0, .install 0⟩, ⟨0, .select ((comm 1 0).request shortExchange)⟩]

/-- It is handed the lists as they are. -/
theorem handed_short_lists :
    ∃ scheduler block asCaller verdict,
      ⟨.selectExternal scheduler block asCaller, verdict⟩ ∈ unchecked.history 2 ∧
      ¬ block.Complete := by
  apply (Run.hands_short_iff unchecked 2).mpr
  refine ⟨1, by decide, (comm 1 0).request shortExchange, ⟨0, rfl⟩, by decide +kernel, ⟨_, rfl⟩, ?_⟩
  intro valid
  cases valid

end Sample

end Collective
