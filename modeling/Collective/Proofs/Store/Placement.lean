import Collective.Proofs.Store.Slots

/-!
# What is loaded for catalog entries

A preparation loads an entry for a rank only where no slot is recorded for it.  So what
preparations have loaded is in the recorded slots, one algorithm for each entry and rank.
-/

namespace Collective.Store

open Procedure History

variable {algorithms : List Metadata} {store after : Store} {history later start : History}
variable {before : List Instance}

/-- An algorithm was loaded for a recorded entry, and is in the slot that is recorded. -/
structure Fills (algorithms : List Metadata) (store : Store) (algorithm : Instance)
    (entry : (Nat × UInt64) × Handle) : Prop where
  file : ∃ metadata, algorithms[entry.1.1]? = some metadata ∧ algorithm.file = metadata.file
  rank : algorithm.rank = entry.1.2
  loaded : store.loaded.get? entry.2 = some algorithm

/-- These algorithms were loaded for the recorded entries, one for each. -/
def Placed (algorithms : List Metadata) (store : Store) (loaded : List Instance) : Prop :=
  List.Forall₂ (store.Fills algorithms) loaded store.assigned.entries

/-- What is placed stays so where the slots keep what they hold. -/
theorem Placed.mono {loaded : List Instance} (placed : store.Placed algorithms loaded)
    (extended : ∀ {handle algorithm}, store.loaded.get? handle = some algorithm →
      after.loaded.get? handle = some algorithm)
    (same : after.assigned = store.assigned) : after.Placed algorithms loaded := by
  unfold Placed at placed ⊢
  rw [same]
  exact placed.imp fun _ _ fills => ⟨fills.file, fills.rank, extended fills.loaded⟩

/-- An algorithm that is loaded for an entry is placed after the others. -/
theorem Placed.assign {loaded : List Instance} (placed : store.Placed algorithms loaded)
    (sound : store.Sound algorithms) {handle : Handle} {others : List Handle} {index : Nat}
    {metadata : Metadata} {algorithm : Instance} (image : Option Buffer)
    (next : store.free = handle :: others) (entry : algorithms[index]? = some metadata)
    (file : algorithm.file = metadata.file)
    (fresh : store.handle? index algorithm.rank = none) :
    ((store.occupy others handle algorithm image).record index algorithm.rank handle).Placed
      algorithms (loaded ++ [algorithm]) := by
  have extended := sound.occupy_extends next algorithm image
  have entries : ((store.occupy others handle algorithm image).record index algorithm.rank
      handle).assigned.entries = store.assigned.entries ++ [((index, algorithm.rank), handle)] :=
    Table.entries_insert_of_absent fresh
  unfold Placed at placed ⊢
  rw [entries]
  apply List.rel_append
  · exact placed.imp fun _ _ fills => ⟨fills.file, fills.rank, extended.loaded fills.loaded⟩
  · exact .cons ⟨⟨metadata, entry, file⟩, rfl, Table.get?_insert_self _ _ _⟩ .nil

/-- Since a moment what was loaded is placed, after what was before. -/
structure Placing (algorithms : List Metadata) (start : History) (before : List Instance)
    (store : Store) (now : History) : Prop where
  sound : store.Sound algorithms
  placed : ∃ gained, Gains start gained now ∧ store.Placed algorithms (before ++ gained.reverse)

theorem keeps_placing_assign {index : Nat} {metadata : Metadata} (rank : UInt64)
    (entry : algorithms[index]? = some metadata) :
    (assign index metadata rank).Keeps (Placing algorithms start before) := by
  rintro env store history ⟨sound, gained, gains, placed⟩
  unfold assign
  rw [ensures_bind, ensures_get]
  cases recorded : store.handle? index rank with
  | some handle => exact ⟨sound, gained, gains, placed⟩
  | none =>
      simp only [ensures_bind, ensures_modify, ensures_pure]
      apply ((ensures_load algorithms metadata.file rank).and
        (ensures_load_fails metadata.file rank)).mono
      · rintro handle _ _ ⟨⟨others, algorithm, image, next, file, rfl, rfl, rfl⟩, -⟩
        have move := @Growth.assign algorithms store history _ _ _ _ algorithm image next entry file
          recorded
        refine ⟨move.sound sound, algorithm :: gained,
          gains.trans (.loading algorithm image history), ?_⟩
        rw [List.reverse_cons, ← List.append_assoc]
        exact placed.assign sound image next entry file recorded
      · rintro _ _ _ ⟨⟨rfl, -⟩, -, nothing⟩
        exact ⟨sound, gained, gains.trans nothing, placed⟩

theorem keeps_placing_connect (handle : Handle) (comm : Communicator) :
    (connect handle comm).Keeps (Placing algorithms start before) := by
  rintro env store history ⟨sound, gained, gains, placed⟩
  apply ((ensures_connect algorithms handle comm).and (ensures_connect_gains handle comm)).mono
  · rintro _ after _ ⟨⟨grown, -⟩, loaded, assigned, nothing⟩
    refine ⟨(growing_sound grown sound).1, gained, gains.trans nothing, ?_⟩
    exact placed.mono (fun found => by rwa [loaded]) assigned
  · rintro _ _ _ ⟨-, rfl, nothing, -⟩
    exact ⟨sound, gained, gains.trans nothing, placed⟩

/-- A preparation places what it loads. -/
theorem keeps_placing_prepareFrom (comm : Communicator) (index : Nat) (entries : List Metadata)
    (listed : Listed algorithms index entries) :
    (prepareFrom comm index entries).Keeps (Placing algorithms start before) := by
  induction entries generalizing index with
  | nil => exact .pure _
  | cons entry others ih =>
      have rest := ih (index + 1) listed.tail
      unfold prepareFrom
      split
      · refine .bind (keeps_placing_assign comm.rank listed.head) fun handle => ?_
        exact .bind (keeps_placing_connect handle comm) fun _ => rest
      · exact rest

theorem keeps_placing_prepare (catalog : Catalog) (comm : Communicator) :
    (prepare catalog comm).Keeps (Placing catalog.algorithms start before) :=
  keeps_placing_prepareFrom comm 0 catalog.algorithms (.all catalog.algorithms)

/-- Entries whose files are one are one. -/
theorem eq_of_same_file {first second : Nat} {metadata other : Metadata}
    (apart : (algorithms.map (·.file)).Nodup) (found : algorithms[first]? = some metadata)
    (again : algorithms[second]? = some other) (same : metadata.file = other.file) :
    first = second := by
  have within : first < (algorithms.map (·.file)).length := by
    rw [List.length_map]
    exact (List.getElem?_eq_some_iff.mp found).1
  apply (List.getElem?_inj within apart).mp
  rw [List.getElem?_map, List.getElem?_map, found, again]
  exact congrArg some same

/-- Where no two entries have one file, no two algorithms are placed for one file and rank. -/
theorem Placed.distinct {loaded : List Instance} (placed : store.Placed algorithms loaded)
    (apart : (algorithms.map (·.file)).Nodup) :
    (loaded.map fun algorithm => (algorithm.file, algorithm.rank)).Nodup := by
  obtain ⟨lengths, fills⟩ := List.forall₂_iff_get.mp placed
  apply List.pairwise_iff_getElem.mpr
  intro first second below within order same
  rw [List.length_map] at below within
  rw [List.getElem_map, List.getElem_map] at same
  obtain ⟨⟨metadata, found, file⟩, rank, -⟩ := fills first below (lengths ▸ below)
  obtain ⟨⟨other, again, file'⟩, rank', -⟩ := fills second within (lengths ▸ within)
  -- One file and rank would be recorded twice.
  have index := eq_of_same_file apart found again
    (file.symm.trans ((congrArg Prod.fst same).trans file'))
  have ranks := rank.symm.trans ((congrArg Prod.snd same).trans rank')
  have keys := List.pairwise_iff_getElem.mp store.assigned.distinct first second
    (by rw [List.length_map, ← lengths]; exact below)
    (by rw [List.length_map, ← lengths]; exact within) order
  apply keys
  rw [List.getElem_map, List.getElem_map]
  exact Prod.ext index ranks

end Collective.Store
