/-!
# Slots of loaded algorithms

Loaded algorithms sit in a fixed number of numbered slots.  A handle is the number
of a slot.
-/

namespace Collective

/-- The slot of a loaded algorithm. -/
structure Handle where
  index : UInt32
  deriving DecidableEq, Repr, Inhabited

namespace Handle

/-- How many slots there are. -/
def slots : Nat := 64

/-- The handle of slot `index`. -/
def ofNat (index : Nat) : Handle := ⟨index.toUInt32⟩

/-- Every slot, in ascending order. -/
def all : List Handle := (List.range slots).map ofNat

/-- A handle as messages show it. -/
def shown (handle : Handle) : String :=
  "AlgoHandle(" ++ toString handle.index.toNat ++ ")"

end Handle

end Collective
