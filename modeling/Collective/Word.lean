/-!
# Checked arithmetic on 64-bit words

Element counts, ranks and byte sizes are 64-bit words.  A product that does not
fit a word is no size at all, so it is kept apart from every word.
-/

namespace Collective.Word

/-- The product of two words, where it fits a word. -/
def product? (left right : UInt64) : Option UInt64 :=
  if left.toNat * right.toNat < UInt64.size then some (left * right) else none

/-- The remainder of a division by a word other than zero. -/
def remainder? (value divisor : UInt64) : Option UInt64 :=
  if divisor = 0 then none else some (value % divisor)

/-- A checked product is the exact product, and it exists exactly when the exact
product fits a word. -/
theorem product?_eq_some_iff {left right result : UInt64} :
    product? left right = some result ↔
      result.toNat = left.toNat * right.toNat := by
  unfold product?
  split
  next fits =>
    rw [Option.some.injEq, ← UInt64.toNat_inj, UInt64.toNat_mul,
      Nat.mod_eq_of_lt fits]
    exact eq_comm
  next large =>
    simp only [reduceCtorEq, false_iff]
    intro equal
    exact large (equal ▸ result.toNat_lt)

theorem remainder?_eq_some_zero_iff {value divisor : UInt64} :
    remainder? value divisor = some 0 ↔
      0 < divisor.toNat ∧ divisor.toNat ∣ value.toNat := by
  unfold remainder?
  split
  next zero => simp [zero]
  next nonzero =>
    have positive : 0 < divisor.toNat := by
      rcases Nat.eq_zero_or_pos divisor.toNat with h | h
      · exact absurd (UInt64.toNat_inj.mp (by simpa using h)) nonzero
      · exact h
    rw [Option.some.injEq, ← UInt64.toNat_inj, UInt64.toNat_mod]
    simp [positive, Nat.dvd_iff_mod_eq_zero]

end Collective.Word
