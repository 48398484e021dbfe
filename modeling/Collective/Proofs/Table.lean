import Collective.Table
import Mathlib.Data.Multiset.AddSub

/-!
# Keys and values of tables

A table gains exactly one entry when a value is put at a key that had none.
-/

namespace Collective.Table

variable {κ ν : Type}

/-- The values of a table, each as often as it occurs. -/
def values (table : Table κ ν) : Multiset ν := (table.entries.map Prod.snd : List ν)

/-- Visiting the entries in another order visits the same values. -/
theorem values_of_perm {table : Table κ ν} {order : List (κ × ν)}
    (perm : order.Perm table.entries) :
    ((order.map Prod.snd : List ν) : Multiset ν) = table.values :=
  Multiset.coe_eq_coe.mpr (perm.map Prod.snd)

variable [DecidableEq κ] {table : Table κ ν} {key : κ} {value : ν}

theorem mem_keys_of_get? (found : table.get? key = some value) : key ∈ table.keys :=
  List.mem_map_of_mem (f := Prod.fst) (get?_eq_some_iff.mp found)

theorem exists_get?_of_mem_keys (member : key ∈ table.keys) :
    ∃ value, table.get? key = some value := by
  obtain ⟨⟨other, value⟩, entry, rfl⟩ := List.mem_map.mp member
  exact ⟨value, get?_eq_some_iff.mpr entry⟩

theorem get?_eq_none_iff : table.get? key = none ↔ key ∉ table.keys := by
  constructor
  · intro absent member
    obtain ⟨value, found⟩ := exists_get?_of_mem_keys member
    rw [absent] at found
    cases found
  · intro absent
    cases found : table.get? key with
    | none => rfl
    | some value => exact absurd (mem_keys_of_get? found) absent

theorem mem_values_of_get? (found : table.get? key = some value) : value ∈ table.values :=
  Multiset.mem_coe.mpr (List.mem_map_of_mem (f := Prod.snd) (get?_eq_some_iff.mp found))

theorem entries_insert_of_absent (absent : table.get? key = none) :
    (table.insert key value).entries = table.entries ++ [(key, value)] := by
  have kept : table.entries.filter (fun entry => entry.1 ≠ key) = table.entries := by
    apply List.filter_eq_self.mpr
    intro entry member
    have differ : entry.1 ≠ key := fun same =>
      get?_eq_none_iff.mp absent (same ▸ List.mem_map_of_mem (f := Prod.fst) member)
    simpa using differ
  exact congrArg (· ++ [(key, value)]) kept

theorem keys_insert_of_absent (absent : table.get? key = none) :
    (table.insert key value).keys = table.keys ++ [key] := by
  unfold keys
  rw [entries_insert_of_absent absent]
  simp

theorem values_insert_of_absent (absent : table.get? key = none) :
    (table.insert key value).values = value ::ₘ table.values := by
  unfold values
  rw [entries_insert_of_absent absent, List.map_append, ← Multiset.coe_add, Multiset.add_comm]
  rfl

/-- Where all values are distinct, each is at one key. -/
theorem get?_unique {other : κ} (distinct : table.values.Nodup)
    (found : table.get? key = some value) (again : table.get? other = some value) :
    key = other := by
  have entry := get?_eq_some_iff.mp found
  have otherEntry := get?_eq_some_iff.mp again
  have same := List.inj_on_of_nodup_map (Multiset.coe_nodup.mp distinct) entry otherEntry rfl
  exact congrArg Prod.fst same

/-- A new entry leaves those before it in place. -/
theorem get?_insert_of_some {other : κ} {old : ν} (absent : table.get? key = none)
    (found : table.get? other = some old) : (table.insert key value).get? other = some old := by
  have differ : other ≠ key := fun same => by
    rw [same, absent] at found
    cases found
  rw [get?_insert, if_neg differ, found]

end Collective.Table
