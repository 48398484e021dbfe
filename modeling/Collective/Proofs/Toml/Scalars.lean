import Collective.Toml.Reader
import Collective.Toml.Writer
import Collective.Proofs.Numerals
import Collective.Proofs.Toml.Strings
import Mathlib.Data.List.TakeDrop

/-!
# Values that are read as they were written

An integer is written in decimal digits, of which the first is zero only if that is all.  So it is
no number with a mark of a base, and it is read as the number that it is.
-/

namespace Collective.Integer

variable {c : Char} {chars : List Char}

theorem digit?_of_isDigit (digit : c.isDigit = true) :
    digit? 10 c = some (c.toNat - '0'.toNat) := by
  obtain ⟨least, most⟩ := Char.isDigit_iff_toNat.mp digit
  refine digit?_eq_some_iff.mpr ⟨digit_iff.mpr (.inl ⟨least, most, rfl⟩), ?_⟩
  simp only [Char.reduceToNat] at *
  omega

/-- Decimal digits that follow a number are appended to it. -/
theorem extend?_of_isDigit (digits : ∀ c ∈ chars, c.isDigit = true) (start : Nat) :
    extend? 10 start chars = some (Nat.ofDigitChars 10 chars start) := by
  induction chars generalizing start with
  | nil => rfl
  | cons c others ih =>
      unfold extend?
      rw [digit?_of_isDigit (digits c List.mem_cons_self), Nat.ofDigitChars_cons, Nat.mul_comm 10]
      exact ih (fun c member => digits c (List.mem_cons_of_mem _ member)) _

theorem isDigit_toDigits {number : Nat} : ∀ c ∈ Nat.toDigits 10 number, c.isDigit = true :=
  fun _ => Nat.isDigit_of_mem_toDigits (by decide) (by decide)

theorem magnitude?_toDigits (number : Nat) :
    magnitude? 10 (Nat.toDigits 10 number) = some number := by
  obtain ⟨c, others, spelt⟩ := List.exists_cons_of_ne_nil (@Nat.toDigits_ne_nil number 10)
  have extended := extend?_of_isDigit (@isDigit_toDigits number) 0
  rw [Nat.ofDigitChars_toDigits (by decide) (by decide)] at extended
  rw [spelt] at extended ⊢
  exact extended

/-- The first digit of a number is zero only if the number is. -/
theorem head?_toDigits {number : Nat} (positive : 0 < number) :
    (Nat.toDigits 10 number).head? ≠ some '0' := by
  induction number using Nat.strongRecOn with
  | ind number ih =>
      by_cases small : number < 10
      · rw [Nat.toDigits_of_lt_base small]
        interval_cases number <;> decide
      · rw [Nat.toDigits_of_base_le (by decide) (by omega),
          List.head?_append_of_ne_nil _ Nat.toDigits_ne_nil]
        exact ih (number / 10) (by omega) (by omega)

end Collective.Integer

namespace Collective.Toml

variable {c : Char} {chars rest : List Char}

/-! ## Integers -/

theorem grouped?_of_isDigit (digits : ∀ c ∈ chars, c.isDigit = true) (nonempty : chars ≠ []) :
    grouped? Char.isDigit chars = some chars := by
  induction chars with
  | nil => exact absurd rfl nonempty
  | cons c others ih =>
      have first : c.isDigit = true := digits c List.mem_cons_self
      have later (each : Char) (member : each ∈ others) : each.isDigit = true :=
        digits each (List.mem_cons_of_mem _ member)
      cases others with
      | nil => simp [grouped?, first]
      | cons second more =>
          have underscore : second ≠ '_' := by
            rintro rfl
            cases later '_' List.mem_cons_self
          rw [grouped?]
          · rw [if_pos first, ih later (List.cons_ne_nil _ _)]
            rfl
          · exact List.cons_ne_nil _ _
          · exact fun more same => underscore (List.cons.inj same).1

/-- The digits of an integer as they are written are those of a decimal one. -/
theorem decimalDigits?_toDigits (number : Nat) :
    decimalDigits? (Nat.toDigits 10 number) = some (Nat.toDigits 10 number) := by
  unfold decimalDigits?
  rw [grouped?_of_isDigit Integer.isDigit_toDigits Nat.toDigits_ne_nil]
  split
  next second more zero =>
    have first := congrArg List.head? (Option.some.inj zero)
    rcases Nat.eq_zero_or_pos number with rfl | positive
    · cases zero
    · exact absurd first (Integer.head?_toDigits positive)
  next => rfl

theorem basedInteger?_of_isDigit (digits : ∀ c ∈ chars, c.isDigit = true) :
    basedInteger? chars = (decimalDigits? chars).bind (Integer.magnitude? 10) := by
  unfold basedInteger?
  split
  next => cases digits 'x' (by simp)
  next => cases digits 'o' (by simp)
  next => cases digits 'b' (by simp)
  next => rfl

theorem integer?_toDigits {number : Nat} (fits : number ≤ 2 ^ 63 - 1) :
    integer? (Nat.toDigits 10 number) = some (number : Int) := by
  have digits := @Integer.isDigit_toDigits number
  have read : basedInteger? (Nat.toDigits 10 number) = some number := by
    rw [basedInteger?_of_isDigit digits, decimalDigits?_toDigits]
    exact Integer.magnitude?_toDigits number
  have inRange : Integer.fits (number : Int) = true := by
    rw [Integer.fits_iff]
    omega
  unfold integer?
  split
  next spelt => cases digits '-' (by simp [spelt])
  next spelt => cases digits '+' (by simp [spelt])
  next => simp [read, inRange]

/-! ## Values -/

/-- A run of characters up to the end of its line is read as one scalar. -/
theorem value?_of_run (run : ∀ c ∈ chars, isScalarChar c = true) (nonempty : chars ≠ [])
    (depth : Nat) (rest : List Char) :
    value? depth (chars ++ '\n' :: rest) = (scalar? chars).map (·, '\n' :: rest) := by
  obtain ⟨c, others, rfl⟩ := List.exists_cons_of_ne_nil nonempty
  have first : isScalarChar c = true := run c List.mem_cons_self
  have taken : run? (c :: others ++ '\n' :: rest) =
      (scalar? (c :: others)).map (·, '\n' :: rest) := by
    unfold run?
    rw [List.takeWhile_append_of_pos run, List.dropWhile_append_of_pos run]
    simp [isScalarChar]
  have other (d : Char) (odd : isScalarChar d = false) : c ≠ d := by
    rintro rfl
    rw [odd] at first
    cases first
  rw [← taken]
  unfold value?
  split
  next same => exact absurd (List.cons.inj same).1 (other _ rfl)
  next same => exact absurd (List.cons.inj same).1 (other _ rfl)
  next same => exact absurd (List.cons.inj same).1 (other _ rfl)
  next same => exact absurd (List.cons.inj same).1 (other _ rfl)
  next => rfl

theorem value?_of_string? {text : String} (read : string? chars = some (text, rest))
    (depth : Nat) : value? depth chars = some (.string text, rest) := by
  unfold value?
  split
  next => rw [read]; rfl
  next => rw [read]; rfl
  next => cases read
  next => cases read
  next quote apostrophe _ _ =>
    unfold string? at read
    split at read
    · exact absurd rfl (quote _)
    · exact absurd rfl (apostrophe _)
    · exact absurd rfl (quote _)
    · exact absurd rfl (apostrophe _)
    · cases read

theorem scalar?_toDigits {number : Nat} (fits : number ≤ 2 ^ 63 - 1) :
    scalar? (Nat.toDigits 10 number) = some (.integer number) := by
  have worded (letters : List Char) (letter : 'e' ∈ letters) :
      Nat.toDigits 10 number ≠ letters := by
    rintro rfl
    cases Integer.isDigit_toDigits 'e' letter
  unfold scalar?
  rw [if_neg (worded _ (by decide)), if_neg (worded _ (by decide)), integer?_toDigits fits]

/-- Integers are written up to the largest signed one. -/
theorem text?_integer_eq_some_iff {number : Nat} {shown : List Char} :
    (Plain.integer number).text? = some shown ↔
      number ≤ 2 ^ 63 - 1 ∧ shown = Nat.toDigits 10 number := by
  have largest : Int64.maxValue.toNatClampNeg = 2 ^ 63 - 1 := rfl
  show (if number ≤ Int64.maxValue.toNatClampNeg then some (Nat.toDigits 10 number) else none) =
    some shown ↔ _
  rw [largest]
  split
  next fits =>
    rw [Option.some.injEq]
    exact ⟨fun same => ⟨fits, same.symm⟩, fun written => written.2.symm⟩
  next large => exact ⟨fun written => (nomatch written), fun written => absurd written.1 large⟩

/-- A plain value is read as it was written. -/
theorem value?_text {item : Plain} {shown : List Char} (written : item.text? = some shown)
    (depth : Nat) (rest : List Char) :
    value? depth (shown ++ '\n' :: rest) = some (item.value, '\n' :: rest) := by
  cases item with
  | string text =>
      obtain rfl := Option.some.inj written
      exact value?_of_string? (string?_stringText text rest) depth
  | integer number =>
      obtain ⟨fits, rfl⟩ := text?_integer_eq_some_iff.mp written
      have run (c : Char) (member : c ∈ Nat.toDigits 10 number) : isScalarChar c = true := by
        simp [isScalarChar, Char.isAlphanum, Integer.isDigit_toDigits c member]
      rw [value?_of_run run Nat.toDigits_ne_nil, scalar?_toDigits fits]
      rfl
  | boolean truth =>
      cases truth with
      | true =>
          obtain rfl := Option.some.inj written
          exact value?_of_run (List.all_eq_true.mp rfl) (by decide) depth rest
      | false =>
          obtain rfl := Option.some.inj written
          exact value?_of_run (List.all_eq_true.mp rfl) (by decide) depth rest

end Collective.Toml
