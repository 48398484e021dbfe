import Collective.External
import Mathlib.Algebra.Group.Nat.Defs

/-!
# Narrowing

A block holds four numbers of a request as C integers, which have 32 bits and a sign.  They are
checked in order, and the first that does not fit is the error; a block loses nothing of those that
do.
-/

namespace Collective.Request

/-- The numbers of a request that a block narrows, in the order in which they are checked. -/
def narrowed (request : Request) : List (String × UInt64) :=
  [("root", request.operation.root), ("peer", request.operation.peer), ("rank", request.rank),
    ("num_ranks", request.numRanks)]

/-- The first of these numbers that is no C integer. -/
def oversized? (request : Request) : Option (String × UInt64) :=
  request.narrowed.find? fun field => 2 ^ 31 - 1 < field.2.toNat

/-- A request with its numbers as C integers and its enumerations as codes. -/
def narrow (request : Request) : Block where
  send := request.operation.send
  recv := request.operation.recv
  peerCounts := request.operation.peerCounts
  count := request.operation.count
  element := request.operation.element.code
  root := .ofNat request.operation.root.toNat
  peer := .ofNat request.operation.peer.toNat
  reduction := request.operation.reduction.code
  kind := request.operation.kind.code
  rank := .ofNat request.rank.toNat
  numRanks := .ofNat request.numRanks.toNat

variable {request : Request}

theorem interfaceField_eq (field : String) (value : UInt64) :
    interfaceField field value =
      if 2 ^ 31 - 1 < value.toNat then .error (.misuse (.fieldTooLarge field value))
      else .ok (.ofNat value.toNat) := by
  have most : Int32.maxValue.toNatClampNeg = 2 ^ 31 - 1 := rfl
  unfold interfaceField
  rw [most]
  by_cases large : 2 ^ 31 - 1 < value.toNat
  · rw [if_pos large, if_neg (Nat.not_le_of_lt large)]
  · rw [if_neg large, if_pos (Nat.le_of_not_lt large)]

/-- A request has a block unless one of its numbers is oversized, and the first that is so is the
error. -/
theorem block_eq (request : Request) :
    request.block = match request.oversized? with
      | some (field, value) => .error (.misuse (.fieldTooLarge field value))
      | none => .ok request.narrow := by
  unfold block oversized? narrowed
  simp only [interfaceField_eq, List.find?_cons, List.find?_nil]
  -- The numbers are checked in order, and the first that is oversized ends both sides.
  by_cases root : 2 ^ 31 - 1 < request.operation.root.toNat
  · simp only [root, if_true, decide_true]
    rfl
  by_cases peer : 2 ^ 31 - 1 < request.operation.peer.toNat
  · simp only [root, peer, if_true, if_false, decide_true, decide_false]
    rfl
  by_cases rank : 2 ^ 31 - 1 < request.rank.toNat
  · simp only [root, peer, rank, if_true, if_false, decide_true, decide_false]
    rfl
  by_cases numRanks : 2 ^ 31 - 1 < request.numRanks.toNat
  · simp only [root, peer, rank, numRanks, if_true, if_false, decide_true, decide_false]
    rfl
  · simp only [root, peer, rank, numRanks, if_false, decide_false]
    rfl

theorem block_eq_error_iff {error : Error} :
    request.block = .error error ↔ ∃ field value, request.oversized? = some (field, value) ∧
      error = .misuse (.fieldTooLarge field value) := by
  rw [block_eq]
  cases request.oversized? with
  | none => simp
  | some found =>
      obtain ⟨field, value⟩ := found
      simp only [Except.error.injEq, Option.some.injEq, Prod.mk.injEq]
      constructor
      · rintro rfl
        exact ⟨field, value, ⟨rfl, rfl⟩, rfl⟩
      · rintro ⟨_, _, ⟨rfl, rfl⟩, rfl⟩
        rfl

theorem block_eq_ok_iff {block : Block} :
    request.block = .ok block ↔ request.oversized? = none ∧ block = request.narrow := by
  rw [block_eq]
  cases request.oversized? with
  | none => simp [eq_comm]
  | some found => simp

theorem le_of_mem_narrowed (fits : request.oversized? = none) {field : String × UInt64}
    (member : field ∈ request.narrowed) : field.2.toNat ≤ 2 ^ 31 - 1 := by
  unfold oversized? at fits
  simpa using List.find?_eq_none.mp fits field member

/-- A number that is narrowed is not lost. -/
theorem toInt_ofNat_of_narrowed (fits : request.oversized? = none) {field : String × UInt64}
    (member : field ∈ request.narrowed) : (Int32.ofNat field.2.toNat).toInt = field.2.toNat := by
  apply Int32.toInt_ofNat_of_lt
  exact Nat.lt_of_le_of_lt (le_of_mem_narrowed fits member) (by decide)

end Collective.Request
