/-!
# Finite tables

A table holds at most one value per key.  Putting a value at a key replaces the one
that was there.
-/

namespace Collective

/-- A finite map, as the list of its entries. -/
structure Table (κ ν : Type) where
  entries : List (κ × ν) := []
  distinct : (entries.map Prod.fst).Nodup := by simp

namespace Table

variable {κ ν : Type}

/-- The table without entries. -/
def empty : Table κ ν := {}

instance : EmptyCollection (Table κ ν) := ⟨empty⟩

instance : Inhabited (Table κ ν) := ⟨empty⟩

/-- How many keys have a value. -/
def size (table : Table κ ν) : Nat := table.entries.length

/-- The keys that have a value. -/
def keys (table : Table κ ν) : List κ := table.entries.map Prod.fst

variable [DecidableEq κ]

/-- The value at a key. -/
def get? (table : Table κ ν) (key : κ) : Option ν :=
  (table.entries.find? fun entry => entry.1 = key).map Prod.snd

/-- The table with a value at a key, in place of the one that was there. -/
def insert (table : Table κ ν) (key : κ) (value : ν) : Table κ ν where
  entries := table.entries.filter (fun entry => entry.1 ≠ key) ++ [(key, value)]
  distinct := by
    have kept : ((table.entries.filter fun entry => entry.1 ≠ key).map Prod.fst).Nodup :=
      List.Nodup.sublist (List.filter_sublist.map Prod.fst) table.distinct
    rw [List.map_append, List.nodup_append]
    refine ⟨kept, by simp, ?_⟩
    intro first firstMem second secondMem same
    simp only [List.map_cons, List.map_nil, List.mem_singleton] at secondMem
    subst secondMem same
    simp at firstMem

@[simp] theorem get?_empty (key : κ) : (∅ : Table κ ν).get? key = none := rfl

theorem get?_insert (table : Table κ ν) (key other : κ) (value : ν) :
    (table.insert key value).get? other =
      if other = key then some value else table.get? other := by
  unfold get? insert
  rw [List.find?_append, List.find?_filter]
  split
  next same =>
    subst same
    have missing : table.entries.find? (fun _ => false) = none := by simp
    simp [missing]
  next differ =>
    have same : (fun entry : κ × ν => decide (entry.1 ≠ key) && decide (entry.1 = other)) =
        fun entry => decide (entry.1 = other) := by
      funext entry
      by_cases hit : entry.1 = other
      · simp [hit, differ]
      · simp [hit]
    simp only [ne_eq, decide_not] at same ⊢
    have apart : key ≠ other := fun equal => differ equal.symm
    simp [same, apart]

@[simp] theorem get?_insert_self (table : Table κ ν) (key : κ) (value : ν) :
    (table.insert key value).get? key = some value := by
  simp [get?_insert]

/-- A table has a value at a key exactly when it has that entry. -/
theorem get?_eq_some_iff {table : Table κ ν} {key : κ} {value : ν} :
    table.get? key = some value ↔ (key, value) ∈ table.entries := by
  obtain ⟨entries, distinct⟩ := table
  unfold get?
  dsimp only
  induction entries with
  | nil => simp
  | cons head rest ih =>
      rw [List.map_cons, List.nodup_cons] at distinct
      by_cases equal : head.1 = key
      · have absent : (key, value) ∉ rest := fun member =>
          distinct.1 (equal ▸ List.mem_map_of_mem (f := Prod.fst) member)
        simp only [List.find?_cons, equal, decide_true, Option.map_some, Option.some.injEq,
          List.mem_cons, absent, or_false]
        constructor
        · intro same; exact Prod.ext equal.symm same.symm
        · intro same; rw [← same]
      · have apart : (key, value) ≠ head := fun same => equal (same ▸ rfl)
        simp only [List.find?_cons, equal, decide_false, List.mem_cons, apart, false_or]
        exact ih distinct.2

end Table

end Collective
