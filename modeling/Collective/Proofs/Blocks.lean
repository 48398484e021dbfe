import Collective.Proofs.Narrowing
import Collective.Proofs.Refusal

/-!
# Blocks of external schedulers

A block narrows four numbers of a request to C integers and replaces three enumerations by their
codes.  Of the lists of counts an external scheduler can read one entry for each rank.  What it can
tell of a block determines what can be told of the request in the same way, so it never chooses for
another operation.
-/

namespace Collective

open Procedure

/-- The first entries of the four lists. -/
def PeerCounts.upTo (ranks : Nat) (counts : PeerCounts) : PeerCounts where
  sendCounts := counts.sendCounts.take ranks
  sendOffsets := counts.sendOffsets.take ranks
  recvCounts := counts.recvCounts.take ranks
  recvOffsets := counts.recvOffsets.take ranks

/-- What an external scheduler can tell of a block: all its fields, whether there are lists of
counts, and of each list one entry for every rank. -/
def Block.visible (block : Block) : Block :=
  { block with peerCounts := block.peerCounts.map (.upTo block.numRanks.toInt.toNat) }

namespace Request

/-- A request with one entry for every rank in the lists of counts. -/
def visible (request : Request) : Request :=
  { request with
    operation.peerCounts := request.operation.peerCounts.map (.upTo request.numRanks.toNat) }

variable {request first second : Request}

/-- Numbers of two requests are equal where they are narrowed to one C integer. -/
theorem eq_of_narrowed (fits : first.oversized? = none) (fitsAgain : second.oversized? = none)
    {field other : String × UInt64} (member : field ∈ first.narrowed)
    (otherMember : other ∈ second.narrowed)
    (same : Int32.ofNat field.2.toNat = .ofNat other.2.toNat) : field.2 = other.2 := by
  have integers := congrArg Int32.toInt same
  rw [toInt_ofNat_of_narrowed fits member,
    toInt_ofNat_of_narrowed fitsAgain otherMember] at integers
  exact UInt64.toNat_inj.mp (Int.ofNat_inj.mp integers)

/-- What is visible of a block is made of what is visible of the request. -/
theorem visible_narrow (fits : request.oversized? = none) :
    request.narrow.visible = request.visible.narrow := by
  have ranks : (Int32.ofNat request.numRanks.toNat).toInt.toNat = request.numRanks.toNat := by
    rw [@toInt_ofNat_of_narrowed request fits ("num_ranks", request.numRanks) (by simp [narrowed])]
    rfl
  unfold narrow visible Block.visible
  dsimp only
  rw [ranks]

/-- Requests whose numbers are C integers have the same block only if they are the same. -/
theorem narrow_injective (fits : first.oversized? = none) (fitsAgain : second.oversized? = none)
    (same : first.narrow = second.narrow) : first = second := by
  obtain ⟨⟨kind, send, recv, peerCounts, count, element, root, peer, reduction⟩, rank, numRanks⟩ :=
    first
  obtain ⟨⟨kind', send', recv', peerCounts', count', element', root', peer', reduction'⟩, rank',
    numRanks'⟩ := second
  simp only [narrow, Block.mk.injEq] at same
  obtain ⟨rfl, rfl, rfl, rfl, elements, roots, peers, reductions, kinds, ranks, numbers, -⟩ := same
  obtain rfl := Element.code_injective elements
  obtain rfl := Reduction.code_injective reductions
  obtain rfl := Kind.code_injective kinds
  have equal := @eq_of_narrowed _ _ fits fitsAgain
  obtain rfl := @equal ("root", root) ("root", root') (by simp [narrowed]) (by simp [narrowed])
    roots
  obtain rfl := @equal ("peer", peer) ("peer", peer') (by simp [narrowed]) (by simp [narrowed])
    peers
  obtain rfl := @equal ("rank", rank) ("rank", rank') (by simp [narrowed]) (by simp [narrowed])
    ranks
  obtain rfl := @equal ("num_ranks", numRanks) ("num_ranks", numRanks') (by simp [narrowed])
    (by simp [narrowed]) numbers
  rfl

/-- What is visible of two blocks is the same exactly if what is visible of the requests is. -/
theorem visible_eq_iff {block other : Block} (made : first.block = .ok block)
    (madeAgain : second.block = .ok other) :
    block.visible = other.visible ↔ first.visible = second.visible := by
  obtain ⟨fits, rfl⟩ := block_eq_ok_iff.mp made
  obtain ⟨fitsAgain, rfl⟩ := block_eq_ok_iff.mp madeAgain
  rw [visible_narrow fits, visible_narrow fitsAgain]
  constructor
  · intro same
    -- The numbers of a request are all visible, so they are still C integers.
    exact @narrow_injective first.visible second.visible fits fitsAgain same
  · exact congrArg narrow

end Request

namespace Verdict

variable {verdict : Verdict}

/-- How the verdict of an external scheduler is read: as a slot, as a failure, or as neither. -/
structure ReadAs (verdict : Verdict) (result : Except Error (Option Handle)) : Prop where
  slot : ∀ handle, result = .ok (some handle) ↔
    verdict.code = 0 ∧ verdict.scheduled = true ∧ verdict.handle.toInt = handle.index.toNat
  failed : ∀ error, result = .error error ↔
    verdict.code ≠ 0 ∧ error = .externalFailed .select verdict.code
  unscheduled : result = .ok none ↔
    verdict.code = 0 ∧ ¬ (verdict.scheduled = true ∧ 0 ≤ verdict.handle.toInt)

/-- A verdict names a slot if it schedules at all and the slot is no negative number. -/
theorem names_iff : (verdict.scheduled && decide (0 ≤ verdict.handle)) = true ↔
    verdict.scheduled = true ∧ 0 ≤ verdict.handle.toInt := by
  rw [Bool.and_eq_true, decide_eq_true_eq, Int32.le_iff_toInt_le]
  rfl

theorem handle?_eq_none_iff :
    verdict.handle? = none ↔ ¬ (verdict.scheduled = true ∧ 0 ≤ verdict.handle.toInt) := by
  unfold handle?
  rw [← names_iff]
  split
  next names => simp [names]
  next nameless => simp [nameless]

theorem handle?_eq_some_iff {handle : Handle} :
    verdict.handle? = some handle ↔
      verdict.scheduled = true ∧ verdict.handle.toInt = handle.index.toNat := by
  unfold handle?
  split
  next names =>
    obtain ⟨scheduled, positive⟩ := names_iff.mp names
    have kept : verdict.handle.toInt.toNat.toUInt32.toNat = verdict.handle.toInt.toNat := by
      apply UInt32.toNat_ofNat_of_lt
      have below := verdict.handle.toInt_lt
      have size : UInt32.size = 2 ^ 32 := rfl
      omega
    obtain ⟨index⟩ := handle
    rw [Option.some.injEq, Handle.mk.injEq, ← UInt32.toNat_inj, kept]
    simp only [scheduled, true_and]
    omega
  next nameless =>
    simp only [reduceCtorEq, false_iff]
    rintro ⟨scheduled, same⟩
    exact nameless (names_iff.mpr ⟨scheduled, by omega⟩)

/-- An answered question comes to what its verdict is read as. -/
theorem readAs_of_answers {scheduler : External} {asCaller : Bool} {env : Environment}
    {history later : History}
    {request : Request} {block : Block} {result : Except Error (Option Handle)}
    (answers : scheduler.Answers env history asCaller request result later)
    (made : request.block = .ok block) :
    ∃ verdict, later = ⟨.selectExternal scheduler block asCaller, verdict⟩ :: history ∧
      verdict.ReadAs result := by
  cases answers with
  | oversized large =>
      rw [made] at large
      cases large
  | @refused _ verdict madeAgain _ faulty =>
      obtain rfl := Except.ok.inj (made.symm.trans madeAgain)
      refine ⟨verdict, rfl, ?_, ?_, ?_⟩
      · simp [faulty]
      · intro error
        rw [Except.error.injEq]
        exact ⟨fun same => ⟨faulty, same.symm⟩, fun refused => refused.2.symm⟩
      · simp [faulty]
  | @told _ verdict madeAgain _ accepted =>
      obtain rfl := Except.ok.inj (made.symm.trans madeAgain)
      refine ⟨verdict, rfl, ?_, ?_, ?_⟩
      · simp [accepted, handle?_eq_some_iff]
      · simp [accepted]
      · rw [Except.ok.injEq, handle?_eq_none_iff]
        simp only [accepted, true_and]

end Verdict

namespace External

variable {S : Type}

/-- A request has no block exactly if one of its four narrowed numbers exceeds the C integers.  Then
the external scheduler is not asked, and the first such number is the error.  Else it is asked once,
with the block, and its verdict is read by code, mark and slot.  Two blocks between which it can
make no difference are those of requests between which there is none either: they agree in kind,
element, reduction, buffers, count, root, peer, rank and number of ranks, in whether there are lists
of counts, and in an entry of each list for every rank. -/
theorem block_loses_nothing (scheduler : External) (asCaller : Bool) (first second : Request)
    (env : Environment) (state : S) (history : History) :
    let ended := (scheduler.select asCaller first).run env state history
    ((∃ error, first.block = .error error) ↔
      ∃ field ∈ first.narrowed, 2 ^ 31 - 1 < field.2.toNat) ∧
    (∀ error, first.block = .error error → ended = ⟨.error error, state, history⟩ ∧
      ∃ field value, first.oversized? = some (field, value) ∧
        error = .misuse (.fieldTooLarge field value)) ∧
    (∀ block, first.block = .ok block → ended.state = state ∧ ∃ verdict,
      ended.history = ⟨.selectExternal scheduler block asCaller, verdict⟩ :: history ∧
      verdict.ReadAs ended.result) ∧
    ∀ block other, first.block = .ok block → second.block = .ok other →
      (block.visible = other.visible ↔ first.visible = second.visible) := by
  intro ended
  have answered : ended.state = state ∧
      scheduler.Answers env history asCaller first ended.result ended.history :=
    @Ensures.whole _ _ env state history _
      (fun outcome => outcome.state = state ∧
        scheduler.Answers env history asCaller first outcome.result outcome.history)
      (scheduler.ensures_answers asCaller first)
  refine ⟨?_, ?_, ?_, fun _ _ => Request.visible_eq_iff⟩
  · constructor
    · rintro ⟨error, large⟩
      obtain ⟨field, value, found, -⟩ := Request.block_eq_error_iff.mp large
      exact ⟨(field, value), List.mem_of_find?_eq_some found, by simpa using List.find?_some found⟩
    · rintro ⟨field, member, large⟩
      cases made : first.block with
      | error error => exact ⟨error, rfl⟩
      | ok block =>
          have small := Request.le_of_mem_narrowed (Request.block_eq_ok_iff.mp made).1 member
          omega
  · intro error large
    have oversized : scheduler.Answers env history asCaller first (.error error) history :=
      .oversized large
    exact ⟨oversized.ensures_error.run_eq_error, Request.block_eq_error_iff.mp large⟩
  · intro block made
    exact ⟨answered.1, Verdict.readAs_of_answers answered.2 made⟩

end External

namespace Sample

/-- An exchange between two ranks whose lists go on beyond them. -/
def longExchange (beyond root : UInt64) : Request where
  operation :=
    { Operation.allToAllv ⟨1⟩ ⟨2⟩ ⟨[1, 2, beyond], [0, 1], [3, 4], [0, 3]⟩ .float32 with root }
  rank := 0
  numRanks := 2

/-- Exchanges that differ beyond the ranks have different blocks which are shown alike, and one
whose root is too large is not shown at all. -/
theorem exchanges_shown :
    (∃ block other, (longExchange 5 0).block = .ok block ∧ (longExchange 6 0).block = .ok other ∧
      block ≠ other ∧ block.visible = other.visible) ∧
    ((External.installed 0).select false (longExchange 5 2147483648)).run
        (.obliging (algorithm .allToAllv)) () [] =
      ⟨.error (.misuse (.fieldTooLarge "root" 2147483648)), (), []⟩ := by
  have alike := External.block_loses_nothing (.installed 0) false (longExchange 5 0)
    (longExchange 6 0) (.obliging (algorithm .allToAllv)) () []
  have large := External.block_loses_nothing (.installed 0) false (longExchange 5 2147483648)
    (longExchange 6 0) (.obliging (algorithm .allToAllv)) () []
  refine ⟨⟨(longExchange 5 0).narrow, (longExchange 6 0).narrow, rfl, rfl, by decide, ?_⟩,
    (large.2.1 _ rfl).1⟩
  exact (alike.2.2.2 _ _ rfl rfl).mpr (by decide)

end Sample

end Collective
