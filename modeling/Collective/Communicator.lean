import Collective.Table

/-!
# Communicators

A communicator is a group of ranks.  Algorithms run only where every rank has a
process of its own, which `Peer.distinct` decides from the identities of the ranks.
-/

namespace Collective

/-- Where a rank lives: the identities of its host and of its process. -/
structure Peer where
  host : UInt64
  process : UInt64
  deriving DecidableEq, Repr, Inhabited

namespace Peer

/-- The processes that were seen so far, host by host. -/
abbrev Seen := Table UInt64 (List UInt64)

/-- The processes that were seen on a host. -/
def Seen.on (seen : Seen) (host : UInt64) : List UInt64 := (seen.get? host).getD []

/-- Notes the process of a rank on its host. -/
def Seen.note (seen : Seen) (peer : Peer) : Seen :=
  seen.insert peer.host (peer.process :: seen.on peer.host)

/-- Notes ranks one after the other, up to the first whose process was seen on its host. -/
def distinctFrom (seen : Seen) : List Peer → Bool
  | [] => true
  | peer :: others =>
      if (seen.on peer.host).contains peer.process then false
      else distinctFrom (seen.note peer) others

/-- Whether no two ranks share both host and process. -/
def distinct (peers : List Peer) : Bool := distinctFrom ∅ peers

end Peer

/-- A group of ranks, as seen by one of them. -/
structure Communicator where
  /-- Tells apart communicators that agree in everything else. -/
  key : Nat := 0
  id : UInt32
  rank : UInt64
  numRanks : UInt64
  /-- How many ranks of the communicator the issuing process drives. -/
  intraRanks : UInt64 := 1
  architecture : UInt32 := 0
  peers : List Peer
  deriving DecidableEq, Repr, Inhabited

/-- A communicator as logs show it, with its mark of compatibility. -/
def Communicator.shown (comm : Communicator) (compatible : Bool) : String :=
  "Communicator \x7b id: CommunicatorId(" ++ toString comm.id.toNat ++ "), rank: " ++
    toString comm.rank.toNat ++ ", num_ranks: " ++ toString comm.numRanks.toNat ++
    ", algo_compatible: " ++ toString compatible ++ " \x7d"

end Collective
