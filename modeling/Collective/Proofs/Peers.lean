import Collective.Proofs.Run

/-!
# Ranks that share a process

The check of the peers reads them once and collects the processes of each host.  What it has
collected is what it has read, so it succeeds exactly if no two positions hold the same host and the
same process, in whatever order they come.  A communicator where two do is marked as unfit when it
joins, and that is all that happens.
-/

namespace Collective

open Procedure

namespace Peer

/-- Two ranks, at different positions, share both host and process. -/
def Shared (peers : List Peer) : Prop :=
  ∃ (first second : Nat) (peer other : Peer), first ≠ second ∧ peers[first]? = some peer ∧
    peers[second]? = some other ∧ peer.host = other.host ∧ peer.process = other.process

variable {seen : Seen} {peer other : Peer} {read others peers : List Peer}

namespace Seen

/-- The processes that were seen are those of the ranks that were read. -/
def Covers (seen : Seen) (read : List Peer) : Prop :=
  ∀ peer : Peer, peer.process ∈ seen.on peer.host ↔ peer ∈ read

theorem covers_nothing : Covers ∅ [] := by
  intro peer
  simp [on]

/-- Beside those that were seen, only the process that was noted is on a host, and only on its
own. -/
theorem mem_on_note :
    other.process ∈ (seen.note peer).on other.host ↔
      other = peer ∨ other.process ∈ seen.on other.host := by
  obtain ⟨host, process⟩ := peer
  obtain ⟨place, found⟩ := other
  unfold note on
  rw [Table.get?_insert]
  split
  next same =>
    obtain rfl : place = host := same
    simp
  next apart =>
    have differ : place ≠ host := apart
    simp [differ]

theorem Covers.note (covers : seen.Covers read) (peer : Peer) :
    (seen.note peer).Covers (read ++ [peer]) := by
  intro other
  rw [mem_on_note, covers other, List.mem_append, List.mem_singleton, or_comm]

end Seen

/-- What is left to be read is found distinct exactly if it is so together with what was read. -/
theorem distinctFrom_iff (covers : seen.Covers read) (distinct : read.Nodup) :
    distinctFrom seen others = true ↔ (read ++ others).Nodup := by
  induction others generalizing seen read with
  | nil => simpa [distinctFrom] using distinct
  | cons peer others ih =>
      unfold distinctFrom
      split
      next found =>
        have again : peer ∈ read := (covers peer).mp (List.contains_iff_mem.mp found)
        have repeated : ¬ (read ++ peer :: others).Nodup := fun apart =>
          (List.nodup_append.mp apart).2.2 peer again peer List.mem_cons_self rfl
        simp [repeated]
      next absent =>
        have fresh : peer ∉ read := fun again =>
          absent (List.contains_iff_mem.mpr ((covers peer).mpr again))
        have longer : (read ++ [peer]).Nodup := by
          rw [← List.concat_eq_append]
          exact distinct.concat fresh
        rw [ih (covers.note peer) longer, List.append_assoc]
        rfl

theorem distinct_iff : distinct peers = true ↔ peers.Nodup :=
  distinctFrom_iff Seen.covers_nothing List.nodup_nil

theorem nodup_iff_not_shared : peers.Nodup ↔ ¬ Shared peers := by
  rw [List.nodup_iff_getElem?_ne_getElem?]
  constructor
  · rintro apart ⟨first, second, ⟨host, process⟩, ⟨_, _⟩, differ, here, there, rfl, rfl⟩
    have same : peers[first]? = peers[second]? := here.trans there.symm
    have inside := (List.getElem?_eq_some_iff.mp here).1
    have insideToo := (List.getElem?_eq_some_iff.mp there).1
    rcases Nat.lt_or_gt_of_ne differ with before | behind
    · exact apart first second before insideToo same
    · exact apart second first behind inside same.symm
  · intro unshared first second order inside same
    have there : peers[second]? = some peers[second] := List.getElem?_eq_getElem inside
    exact unshared ⟨first, second, _, _, Nat.ne_of_lt order, same.trans there, there, rfl, rfl⟩

end Peer

namespace Machine

variable {config : Config} {comm : Communicator}

/-- A communicator of which two ranks share a process is unfit. -/
theorem unfit_of_shared (shared : Peer.Shared comm.peers) : fit config comm = false := by
  have repeated : Peer.distinct comm.peers = false := by
    rw [← Bool.not_eq_true, Peer.distinct_iff, Peer.nodup_iff_not_shared]
    exact not_not_intro shared
  simp [fit, repeated]

end Machine

namespace Run

/-- The ranks of a list are found distinct exactly if no two positions hold the same host and the
same process, and so also in every other order.  Where two positions of a communicator do, it joins
in every scene and for every thread with this effect only: it is marked as unfit, it needs no
channels, and nobody is called. -/
theorem shared_process_unfit (run : Run) (number : Nat) (thread : ThreadId) :
    (∀ peers, Peer.distinct peers = true ↔ ¬ Peer.Shared peers) ∧
    (∀ peers others : List Peer, peers.Perm others → Peer.distinct peers = Peer.distinct others) ∧
    ∀ comm : Communicator, Peer.Shared comm.peers →
      let before := (run.scene number).machine
      let ended := run.outcome (run.scene number) ⟨thread, .join comm⟩
      ended.result = .ok (.channels 0) ∧ ended.history = run.history number ∧
      ended.state.compatible comm = false ∧
      (∀ other, other ≠ comm → ended.state.compatible other = before.compatible other) ∧
      ended.state.status = before.status ∧ ended.state.threads = before.threads := by
  refine ⟨fun peers => ?_, fun peers others perm => ?_, fun comm shared => ?_⟩
  · rw [Peer.distinct_iff, Peer.nodup_iff_not_shared]
  · rw [Bool.eq_iff_iff, Peer.distinct_iff, Peer.distinct_iff]
    exact perm.nodup_iff
  · intro before ended
    have unfit := @Machine.unfit_of_shared run.config comm shared
    have same : ended = ⟨.ok (.channels 0), before.mark comm false, run.history number⟩ := by
      show (Machine.perform run.config thread (.join comm)).run _ _ _ = _
      rw [Machine.perform, run_bind, Machine.run_join_unfit unfit]
      rfl
    rw [same]
    exact ⟨rfl, rfl, if_pos rfl, fun _ differ => if_neg differ, rfl, rfl⟩

end Run

namespace Sample

/-- The first and the last of three ranks share a process. -/
def cramped : Communicator where
  id := 3
  rank := 0
  numRanks := 3
  peers := [⟨1, 10⟩, ⟨2, 10⟩, ⟨1, 10⟩]

/-- Another communicator has joined, and all is up. -/
def spacious : Run := run .allReduce [⟨0, .join (comm 1 0)⟩]

theorem cramped_unfit :
    (spacious.status 1).ready = true ∧ Peer.Shared cramped.peers ∧
    (spacious.outcome (spacious.scene 1) ⟨1, .join cramped⟩).result = .ok (.channels 0) ∧
    (spacious.outcome (spacious.scene 1) ⟨1, .join cramped⟩).history = spacious.history 1 := by
  have shared : Peer.Shared cramped.peers :=
    ⟨0, 2, ⟨1, 10⟩, ⟨1, 10⟩, by decide, rfl, rfl, rfl, rfl⟩
  obtain ⟨-, -, joins⟩ := Run.shared_process_unfit spacious 1 1
  obtain ⟨channels, silent, -⟩ := joins cramped shared
  exact ⟨by decide +kernel, shared, channels, silent⟩

end Sample

end Collective
