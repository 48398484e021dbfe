import Collective.Operation.Kind

/-!
# Collective operations

An operation is what one rank asks for: a kind, two device buffers, a number of
elements, and what some kinds need besides.  Each kind has a constructor that takes
exactly the arguments of that kind and leaves every other field at its neutral
value.
-/

namespace Collective

/-- The address of a device buffer, which is compared and offset but never read. -/
structure Address where
  value : UInt64
  deriving DecidableEq, Repr, Inhabited

namespace Address

/-- The address of no buffer. -/
def null : Address := ⟨0⟩

/-- Whether an address is that of no buffer. -/
def isNull (address : Address) : Bool := address.value == 0

/-- The address a number of bytes further on, around the end of the address
space. -/
def offset (address : Address) (bytes : UInt64) : Address :=
  ⟨address.value + bytes⟩

end Address

/-- Counts and displacements per peer, for an exchange of unequal parts. -/
structure PeerCounts where
  sendCounts : List UInt64 := []
  sendOffsets : List UInt64 := []
  recvCounts : List UInt64 := []
  recvOffsets : List UInt64 := []
  deriving DecidableEq, Repr, Inhabited

/-- The length of the shortest of the four lists. -/
def PeerCounts.shortest (counts : PeerCounts) : Nat :=
  min (min counts.sendCounts.length counts.sendOffsets.length)
    (min counts.recvCounts.length counts.recvOffsets.length)

/-- Each of the four lists has an entry for every rank. -/
structure PeerCounts.Reaches (counts : PeerCounts) (ranks : Nat) : Prop where
  sendCounts : ranks ≤ counts.sendCounts.length
  sendOffsets : ranks ≤ counts.sendOffsets.length
  recvCounts : ranks ≤ counts.recvCounts.length
  recvOffsets : ranks ≤ counts.recvOffsets.length

theorem PeerCounts.reaches_iff {counts : PeerCounts} {ranks : Nat} :
    counts.Reaches ranks ↔
      ranks ≤ counts.sendCounts.length ∧ ranks ≤ counts.sendOffsets.length ∧
      ranks ≤ counts.recvCounts.length ∧ ranks ≤ counts.recvOffsets.length := by
  constructor
  · exact fun reaches =>
      ⟨reaches.sendCounts, reaches.sendOffsets, reaches.recvCounts, reaches.recvOffsets⟩
  · exact fun ⟨sendCounts, sendOffsets, recvCounts, recvOffsets⟩ =>
      ⟨sendCounts, sendOffsets, recvCounts, recvOffsets⟩

theorem PeerCounts.le_shortest_iff {counts : PeerCounts} {ranks : Nat} :
    ranks ≤ counts.shortest ↔ counts.Reaches ranks := by
  rw [reaches_iff]
  unfold shortest
  omega

/-- One collective operation, as a rank asks for it. -/
structure Operation where
  kind : Kind
  send : Address := .null
  recv : Address := .null
  peerCounts : Option PeerCounts := none
  count : UInt64 := 0
  element : Element
  root : UInt64 := 0
  peer : UInt64 := 0
  reduction : Reduction := .sum
  deriving DecidableEq, Repr, Inhabited

namespace Operation

/-- Combines the buffers of all ranks at `root`. -/
def reduce (send recv : Address) (count : UInt64) (element : Element)
    (reduction : Reduction) (root : UInt64) : Operation :=
  { kind := .reduce, send, recv, count, element, reduction, root }

/-- Copies the buffer of `root` to all ranks. -/
def broadcast (send recv : Address) (count : UInt64) (element : Element)
    (root : UInt64) : Operation :=
  { kind := .broadcast, send, recv, count, element, root }

/-- Combines the buffers of all ranks at each of them. -/
def allReduce (send recv : Address) (count : UInt64) (element : Element)
    (reduction : Reduction) : Operation :=
  { kind := .allReduce, send, recv, count, element, reduction }

/-- Combines the buffers of all ranks and leaves each rank one part. -/
def reduceScatter (send recv : Address) (count : UInt64) (element : Element)
    (reduction : Reduction) : Operation :=
  { kind := .reduceScatter, send, recv, count, element, reduction }

/-- Collects the buffers of all ranks at each of them. -/
def allGather (send recv : Address) (count : UInt64) (element : Element) : Operation :=
  { kind := .allGather, send, recv, count, element }

/-- Sends a buffer to one rank. -/
def sendTo (send : Address) (count : UInt64) (element : Element) (peer : UInt64) :
    Operation :=
  { kind := .send, send, count, element, peer }

/-- Receives a buffer from one rank. -/
def recvFrom (recv : Address) (count : UInt64) (element : Element) (peer : UInt64) :
    Operation :=
  { kind := .recv, recv, count, element, peer }

/-- Collects the buffers of all ranks at `root`. -/
def gather (send recv : Address) (count : UInt64) (element : Element)
    (root : UInt64) : Operation :=
  { kind := .gather, send, recv, count, element, root }

/-- Hands each rank one part of the buffer of `root`. -/
def scatter (send recv : Address) (count : UInt64) (element : Element)
    (root : UInt64) : Operation :=
  { kind := .scatter, send, recv, count, element, root }

/-- Exchanges equal parts between all ranks. -/
def allToAll (send recv : Address) (count : UInt64) (element : Element) : Operation :=
  { kind := .allToAll, send, recv, count, element }

/-- Exchanges parts of the given sizes between all ranks.  The sizes are in the
lists, so the count is zero. -/
def allToAllv (send recv : Address) (peerCounts : PeerCounts) (element : Element) :
    Operation :=
  { kind := .allToAllv, send, recv, peerCounts := some peerCounts, element }

end Operation

end Collective
