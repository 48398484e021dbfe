import Collective.Proofs.Selection

/-!
# Which algorithm suits a request

The choice of an algorithm is made with words that may not hold a product.  Here it is made
with numbers instead: `Metadata.Suits` says in plain arithmetic when an algorithm may run a
request, and the catalog chooses its first entry that suits.  A product that does not fit a
word counts as no size, so no choice rests on one that wrapped around.
-/

namespace Collective

namespace Word

/-- A product of three words is found in two steps, where the first product fits a word
too. -/
theorem product?_bind_eq_some_iff {first second third result : UInt64} :
    ((product? first second).bind fun partly => product? partly third) = some result ↔
      first.toNat * second.toNat < 2 ^ 64 ∧
        result.toNat = first.toNat * second.toNat * third.toNat := by
  rw [Option.bind_eq_some_iff]
  simp only [product?_eq_some_iff]
  constructor
  · intro found
    obtain ⟨partly, exact_, whole⟩ := found
    exact ⟨exact_ ▸ partly.toNat_lt, by rw [whole, exact_]⟩
  · intro found
    obtain ⟨fits, whole⟩ := found
    have partly : (UInt64.ofNat (first.toNat * second.toNat)).toNat =
        first.toNat * second.toNat := UInt64.toNat_ofNat_of_lt' fits
    exact ⟨_, partly, by rw [whole, partly]⟩

/-- A product fits a word if a multiple of it does. -/
theorem fits_of_fits_mul {number factor : Nat} (positive : 0 < factor)
    (fits : number * factor < 2 ^ 64) : number < 2 ^ 64 :=
  (Nat.le_mul_of_pos_right number positive).trans_lt fits

end Word

/-- The number of bytes that one rank contributes. -/
def Operation.volume (operation : Operation) : Nat :=
  operation.count.toNat * operation.element.bytes.toNat

namespace Request

variable {request : Request}

/-- The number of bytes before the part of the issuing rank in a buffer of all ranks. -/
def distance (request : Request) : Nat := request.rank.toNat * request.operation.volume

/-- One buffer is where the other has the part of the issuing rank, around the end of the
address space. -/
def PartOf (request : Request) (part whole : Address) : Prop :=
  request.distance < 2 ^ 64 ∧
    part.value.toNat = (whole.value.toNat + request.distance) % 2 ^ 64

/-- Input and output coincide: as a whole, or one of them is a part of the other. -/
def Coincides (request : Request) : Prop :=
  match request.operation.kind with
  | .reduce | .broadcast | .allReduce | .allToAll =>
      request.operation.send = request.operation.recv
  | .allGather | .gather => request.PartOf request.operation.send request.operation.recv
  | .reduceScatter | .scatter => request.PartOf request.operation.recv request.operation.send
  | .send | .recv | .allToAllv => False

/-- The distance that is computed is the exact one, and there is none where that does not fit
a word. -/
theorem rankOffset?_eq_some_iff {bytes : UInt64} :
    request.rankOffset? = some bytes ↔ bytes.toNat = request.distance := by
  have exact_ : request.distance = request.rank.toNat * request.operation.count.toNat *
      request.operation.element.bytes.toNat := (Nat.mul_assoc _ _ _).symm
  rw [exact_]
  refine Word.product?_bind_eq_some_iff.trans ⟨And.right, fun whole => ⟨?_, whole⟩⟩
  apply Word.fits_of_fits_mul request.operation.element.bytes_pos
  rw [← whole]
  exact bytes.toNat_lt

/-- Two buffers are compared by the exact distance. -/
theorem any_rankOffset?_iff {part whole : Address} :
    (request.rankOffset?.any fun bytes => part == whole.offset bytes) = true ↔
      request.PartOf part whole := by
  simp only [Option.any_eq_true, rankOffset?_eq_some_iff, beq_iff_eq]
  constructor
  · intro found
    obtain ⟨bytes, exact_, rfl⟩ := found
    refine ⟨exact_ ▸ bytes.toNat_lt, ?_⟩
    rw [← exact_]
    exact UInt64.toNat_add whole.value bytes
  · intro found
    obtain ⟨fits, same⟩ := found
    have exact_ : (UInt64.ofNat request.distance).toNat = request.distance :=
      UInt64.toNat_ofNat_of_lt' fits
    refine ⟨_, exact_, ?_⟩
    obtain ⟨value⟩ := part
    apply congrArg Address.mk
    rw [← UInt64.toNat_inj, UInt64.toNat_add, exact_]
    exact same

/-- The test for coinciding buffers is exact. -/
theorem inPlace_iff : request.inPlace = true ↔ request.Coincides := by
  have whole (send recv : Address) : (send == recv) = true ↔ send = recv := beq_iff_eq
  have never : false = true ↔ False := by simp
  cases kind : request.operation.kind <;> simp only [inPlace, Coincides, kind]
  case reduce | broadcast | allReduce | allToAll => exact whole _ _
  case allGather | gather | reduceScatter | scatter => exact any_rankOffset?_iff
  case send | recv | allToAllv => exact never

end Request

namespace Metadata

variable {algorithm : Metadata} {operation : Operation} {request : Request}

/-- The number of bytes that an operation amounts to for an algorithm. -/
def message (algorithm : Metadata) (operation : Operation) : Nat :=
  operation.volume * algorithm.sizeMultiplier.toNat

/-- An algorithm may run a request: it is for the kind and the number of ranks, the elements
fall into whole loops of chunks, the sizes fit a word and are within the bounds, and it can
do with the buffers as they are. -/
structure Suits (algorithm : Metadata) (request : Request) : Prop where
  kind : algorithm.kind = request.operation.kind
  ranks : algorithm.numRanks = request.numRanks
  nonempty : 0 < request.operation.count.toNat
  chunked : 0 < algorithm.chunksPerLoop.toNat
  aligned : algorithm.chunksPerLoop.toNat ∣
    request.operation.count.toNat * algorithm.sizeMultiplier.toNat
  volume : request.operation.volume < 2 ^ 64
  message : algorithm.message request.operation < 2 ^ 64
  least : algorithm.minBytes.toNat ≤ algorithm.message request.operation
  most : algorithm.maxBytes.toNat = 0 ∨
    algorithm.message request.operation ≤ algorithm.maxBytes.toNat
  inPlace : request.Coincides → algorithm.inPlace = true
  outOfPlace : ¬ request.Coincides → algorithm.outOfPlace = true

/-- The size that is computed is the exact one, and there is none where that or the volume does
not fit a word. -/
theorem messageBytes?_eq_some_iff {bytes : UInt64} :
    algorithm.messageBytes? operation = some bytes ↔
      operation.volume < 2 ^ 64 ∧ bytes.toNat = algorithm.message operation :=
  Word.product?_bind_eq_some_iff

/-- The test for whole loops is exact where the number of elements fits a word. -/
theorem chunksAligned_iff :
    algorithm.chunksAligned operation = true ↔
      operation.count.toNat * algorithm.sizeMultiplier.toNat < 2 ^ 64 ∧
        0 < algorithm.chunksPerLoop.toNat ∧
        algorithm.chunksPerLoop.toNat ∣
          operation.count.toNat * algorithm.sizeMultiplier.toNat := by
  show (((Word.product? operation.count algorithm.sizeMultiplier).bind fun elements =>
    Word.remainder? elements algorithm.chunksPerLoop) == some 0) = true ↔ _
  rw [beq_iff_eq, Option.bind_eq_some_iff]
  simp only [Word.product?_eq_some_iff, Word.remainder?_eq_some_zero_iff]
  constructor
  · intro found
    obtain ⟨elements, exact_, positive, divides⟩ := found
    exact ⟨exact_ ▸ elements.toNat_lt, positive, exact_ ▸ divides⟩
  · intro found
    obtain ⟨fits, positive, divides⟩ := found
    have exact_ := UInt64.toNat_ofNat_of_lt' fits
    exact ⟨_, exact_, positive, exact_.symm ▸ divides⟩

/-- The test for the size is exact.  The number of elements fits a word where the message
does, since an element has at least one byte. -/
theorem sizeFits_iff :
    algorithm.sizeFits operation = true ↔
      0 < operation.count.toNat ∧ 0 < algorithm.chunksPerLoop.toNat ∧
        algorithm.chunksPerLoop.toNat ∣
          operation.count.toNat * algorithm.sizeMultiplier.toNat ∧
        operation.volume < 2 ^ 64 ∧ algorithm.message operation < 2 ^ 64 ∧
        algorithm.minBytes.toNat ≤ algorithm.message operation ∧
        (algorithm.maxBytes.toNat = 0 ∨
          algorithm.message operation ≤ algorithm.maxBytes.toNat) := by
  have nonempty : (operation.count != 0) = true ↔ 0 < operation.count.toNat := by
    rw [bne_iff_ne, ne_eq, ← UInt64.toNat_inj, Nat.pos_iff_ne_zero]
    rfl
  have unbounded : algorithm.maxBytes = 0 ↔ algorithm.maxBytes.toNat = 0 :=
    UInt64.toNat_inj.symm
  have elements : algorithm.message operation = operation.count.toNat *
      algorithm.sizeMultiplier.toNat * operation.element.bytes.toNat :=
    Nat.mul_right_comm _ _ _
  simp only [sizeFits, Bool.and_eq_true, nonempty, chunksAligned_iff, Option.any_eq_true,
    messageBytes?_eq_some_iff, decide_eq_true_eq, Bool.or_eq_true, beq_iff_eq,
    UInt64.le_iff_toNat_le, unbounded]
  constructor
  · intro fits
    obtain ⟨⟨positive, -, chunked, aligned⟩, bytes, ⟨volume, exact_⟩, least, most⟩ := fits
    rw [exact_] at least most
    exact ⟨positive, chunked, aligned, volume, exact_ ▸ bytes.toNat_lt, least, most⟩
  · intro fits
    obtain ⟨positive, chunked, aligned, volume, message, least, most⟩ := fits
    have exact_ := UInt64.toNat_ofNat_of_lt' message
    refine ⟨⟨positive, ?_, chunked, aligned⟩, _, ⟨volume, exact_⟩, ?_, ?_⟩
    -- The elements are multiplied without their size here, so they fit where the message does.
    · rw [elements] at message
      exact Word.fits_of_fits_mul operation.element.bytes_pos message
    · rw [exact_]
      exact least
    · rw [exact_]
      exact most

/-- The test for acceptance is exact. -/
theorem accepts_iff : algorithm.accepts request request.inPlace = true ↔
    algorithm.Suits request := by
  have placed : (if request.inPlace then algorithm.inPlace else algorithm.outOfPlace) = true ↔
      (request.Coincides → algorithm.inPlace = true) ∧
        (¬ request.Coincides → algorithm.outOfPlace = true) := by
    rw [← Request.inPlace_iff]
    cases request.inPlace <;> simp
  simp only [accepts, Bool.and_eq_true, beq_iff_eq, sizeFits_iff]
  constructor
  · intro accepted
    obtain ⟨⟨⟨⟨nonempty, chunked, aligned, volume, message, least, most⟩, ranks⟩, kind⟩,
      placement⟩ := accepted
    obtain ⟨inPlace, outOfPlace⟩ := placed.mp placement
    exact ⟨kind, ranks, nonempty, chunked, aligned, volume, message, least, most, inPlace,
      outOfPlace⟩
  · intro suits
    refine ⟨⟨⟨⟨?_, ?_, ?_, ?_, ?_, ?_, ?_⟩, ?_⟩, ?_⟩, ?_⟩
    · exact suits.nonempty
    · exact suits.chunked
    · exact suits.aligned
    · exact suits.volume
    · exact suits.message
    · exact suits.least
    · exact suits.most
    · exact suits.ranks
    · exact suits.kind
    · exact placed.mpr ⟨suits.inPlace, suits.outOfPlace⟩

end Metadata

namespace Catalog

variable {catalog : Catalog} {request : Request} {index : Nat}

/-- An entry of the catalog is the first that suits a request. -/
structure Leading (catalog : Catalog) (request : Request) (index : Nat) (entry : Metadata) :
    Prop where
  listed : catalog.get? index = some entry
  suits : entry.Suits request
  first : ∀ earlier other, earlier < index → catalog.get? earlier = some other →
    ¬ other.Suits request

theorem elects_iff_leading {entry : Metadata} :
    catalog.Elects request index entry ↔ catalog.Leading request index entry := by
  have refused (other : Metadata) :
      other.accepts request request.inPlace = false ↔ ¬ other.Suits request := by
    rw [← Metadata.accepts_iff, Bool.not_eq_true]
  constructor
  · intro elects
    constructor
    · exact elects.listed
    · exact Metadata.accepts_iff.mp elects.accepts
    · intro earlier other before listed
      exact (refused other).mp (elects.first earlier other before listed)
  · intro leading
    constructor
    · exact leading.listed
    · exact Metadata.accepts_iff.mpr leading.suits
    · intro earlier other before listed
      exact (refused other).mpr (leading.first earlier other before listed)

theorem firstMatch?_of_elects {entry : Metadata}
    (pointwise : request.operation.reduction.pointwise = true)
    (elects : catalog.Elects request index entry) :
    catalog.firstMatch? request = some index := by
  simp only [firstMatch?, pointwise, if_true]
  obtain ⟨bound, same⟩ := List.getElem?_eq_some_iff.mp elects.listed
  refine List.findIdx?_eq_some_iff_getElem.mpr ⟨bound, ?_, ?_⟩
  · rw [same]
    exact elects.accepts
  · intro earlier before
    have refused := elects.first earlier _ before (List.getElem?_eq_getElem (before.trans bound))
    simp [refused]

/-- Only pointwise reductions are run by algorithms. -/
theorem pointwise_of_firstMatch? (found : catalog.firstMatch? request = some index) :
    request.operation.reduction.pointwise = true := by
  unfold firstMatch? at found
  split at found
  next pointwise => exact pointwise
  next => cases found

/-- The choice of an algorithm is the one of plain arithmetic: of all positions of a catalog,
the one of the first entry that suits, if the reduction is pointwise.  Whatever it is made
with is exact: the distance between two buffers and the size of a message are found as
numbers, or missing where they do not fit a word, and the elements are divided into chunks
only if there are chunks at all. -/
theorem chooses_first_that_suits (catalog : Catalog) (request : Request) :
    (∀ index, catalog.firstMatch? request = some index ↔
      request.operation.reduction.pointwise = true ∧
        ∃ entry, catalog.Leading request index entry) ∧
    (∀ bytes, request.rankOffset? = some bytes ↔ bytes.toNat = request.distance) ∧
    ∀ entry : Metadata,
      (∀ bytes, entry.messageBytes? request.operation = some bytes ↔
        request.operation.volume < 2 ^ 64 ∧ bytes.toNat = entry.message request.operation) ∧
      (entry.chunksAligned request.operation = true ↔
        request.operation.count.toNat * entry.sizeMultiplier.toNat < 2 ^ 64 ∧
          0 < entry.chunksPerLoop.toNat ∧
          entry.chunksPerLoop.toNat ∣
            request.operation.count.toNat * entry.sizeMultiplier.toNat) := by
  refine ⟨fun index => ?_, fun _ => Request.rankOffset?_eq_some_iff, fun _ =>
    ⟨fun _ => Metadata.messageBytes?_eq_some_iff, Metadata.chunksAligned_iff⟩⟩
  constructor
  · intro found
    obtain ⟨entry, elects⟩ := elects_of_firstMatch? found
    exact ⟨pointwise_of_firstMatch? found, entry, elects_iff_leading.mp elects⟩
  · intro first
    obtain ⟨pointwise, entry, leading⟩ := first
    exact firstMatch?_of_elects pointwise (elects_iff_leading.mpr leading)

end Catalog

end Collective
