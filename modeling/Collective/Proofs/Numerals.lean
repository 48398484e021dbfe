import Collective.Config.Variables
import Mathlib.Data.List.Forall2
import Mathlib.Data.Nat.Digits.Defs
import Mathlib.Tactic.IntervalCases

/-!
# Numerals

The grammar of integers in environment variables, apart from the reader: digits of three bases, the
mark of a base and one sign.  The reader leaves the digits to a parser that takes a sign of its own
and applies the sign in front last.  So it also takes numerals with a second sign, and the smallest
integer is none for it.  On all other texts it follows the grammar.
-/

namespace Collective

namespace Integer

section Magnitudes

variable {base value start number : Nat} {c : Char} {digits : List Char}

/-- A character stands for a number below sixteen, as a small or a capital letter from ten on. -/
def Digit (c : Char) (value : Nat) : Prop :=
  "0123456789abcdef".toList[value]? = some c ∨ "0123456789ABCDEF".toList[value]? = some c

/-- Digits of a base denote a number, the first one counting most. -/
def Digits (base : Nat) (digits : List Char) (number : Nat) : Prop :=
  digits ≠ [] ∧ ∃ values, List.Forall₂ Digit digits values ∧ (∀ value ∈ values, value < base) ∧
    number = Nat.ofDigits base values.reverse

/-- The codes of digits are in three ranges. -/
theorem digit_iff :
    Digit c value ↔ (48 ≤ c.toNat ∧ c.toNat ≤ 57 ∧ value = c.toNat - 48) ∨
      (97 ≤ c.toNat ∧ c.toNat ≤ 102 ∧ value = c.toNat - 87) ∨
      (65 ≤ c.toNat ∧ c.toNat ≤ 70 ∧ value = c.toNat - 55) := by
  constructor
  · intro stands
    have small : value < 16 := by
      rcases stands with listed | listed <;> exact (List.getElem?_eq_some_iff.mp listed).1
    rcases stands with listed | listed <;> interval_cases value <;>
      obtain rfl := Option.some.inj listed <;> decide
  · have spelt : c = Char.ofNat c.toNat := (Char.ofNat_toNat c).symm
    rintro (⟨least, most, rfl⟩ | ⟨least, most, rfl⟩ | ⟨least, most, rfl⟩)
    · generalize c.toNat = code at *
      subst spelt
      left
      interval_cases code <;> rfl
    · generalize c.toNat = code at *
      subst spelt
      left
      interval_cases code <;> rfl
    · generalize c.toNat = code at *
      subst spelt
      right
      interval_cases code <;> rfl

theorem digit?_eq_some_iff :
    digit? base c = some value ↔ Digit c value ∧ value < base := by
  rw [digit_iff, digit?]
  rw [Option.filter_eq_some_iff, decide_eq_true_eq]
  apply and_congr_left
  intro _
  split_ifs <;> grind

/-- To append a digit and then others is to append them all. -/
theorem append_digits {others : List Char} {values : List Nat}
    (spelt : List.Forall₂ Digit others values) (base start value : Nat) (c : Char) :
    (start * base + value) * base ^ others.length + Nat.ofDigits base values.reverse =
      start * base ^ (c :: others).length + Nat.ofDigits base (value :: values).reverse := by
  rw [List.reverse_cons, Nat.ofDigits_append, Nat.ofDigits_singleton, List.length_reverse,
    ← spelt.length_eq, List.length_cons, Nat.pow_succ]
  ring

/-- Reading on from a number appends digits to it. -/
theorem extend?_eq_some_iff :
    extend? base start digits = some number ↔
      ∃ values, List.Forall₂ Digit digits values ∧ (∀ value ∈ values, value < base) ∧
        number = start * base ^ digits.length + Nat.ofDigits base values.reverse := by
  induction digits generalizing start with
  | nil =>
      simp only [extend?, List.forall₂_nil_left_iff, exists_eq_left, Option.some.injEq]
      simp [eq_comm]
  | cons c others ih =>
      unfold extend?
      cases found : digit? base c with
      | none =>
          simp only [reduceCtorEq, false_iff]
          rintro ⟨_, spelt, small, -⟩
          cases spelt with
          | cons first rest =>
              have known := digit?_eq_some_iff.mpr ⟨first, small _ List.mem_cons_self⟩
              rw [found] at known
              cases known
      | some value =>
          obtain ⟨stands, less⟩ := digit?_eq_some_iff.mp found
          simp only [ih]
          constructor
          · rintro ⟨values, spelt, small, rfl⟩
            refine ⟨value :: values, .cons stands spelt, ?_, append_digits spelt base start value c⟩
            simpa [less] using small
          · rintro ⟨_, spelt, small, rfl⟩
            cases spelt with
            | @cons _ other _ values first rest =>
                have known := digit?_eq_some_iff.mpr ⟨first, small _ List.mem_cons_self⟩
                rw [found] at known
                cases known
                have others (each : Nat) (member : each ∈ values) :=
                  small each (List.mem_cons_of_mem _ member)
                exact ⟨values, rest, others, (append_digits rest base start value c).symm⟩

theorem magnitude?_eq_some_iff :
    magnitude? base digits = some number ↔ Digits base digits number := by
  cases digits with
  | nil => simp [magnitude?, Digits]
  | cons c others => simp [magnitude?, Digits, extend?_eq_some_iff]

end Magnitudes

/-- A sign as it is written, which may be missing, and the factor that it stands for. -/
inductive Sign : List Char → Int → Prop where
  | none : Sign [] 1
  | plus : Sign ['+'] 1
  | minus : Sign ['-'] (-1)

/-- No sign stands in front. -/
def Unsigned (chars : List Char) : Prop :=
  ∀ sign factor rest, Sign sign factor → chars = sign ++ rest → sign = []

/-- Numerals with something of their own in front of the digits: hexadecimal after `0x`, octal after
`0`, and decimal, where only zero itself begins with the digit zero. -/
inductive Numeral (own : List Char) : List Char → Nat → Prop where
  | hexadecimal {mark : Char} {digits : List Char} {size : Nat} :
      mark = 'x' ∨ mark = 'X' → Digits 16 digits size →
      Numeral own ('0' :: mark :: (own ++ digits)) size
  | octal {digits : List Char} {size : Nat} :
      Digits 8 digits size → Numeral own ('0' :: (own ++ digits)) size
  | decimal {digits : List Char} {size : Nat} :
      own ++ digits = ['0'] ∨ (own ++ digits).head? ≠ some '0' → Digits 10 digits size →
      Numeral own (own ++ digits) size

section Signs

variable {sign chars : List Char} {factor : Int}

theorem unsigned_cons {c : Char} {others : List Char} (notPlus : c ≠ '+') (notMinus : c ≠ '-') :
    Unsigned (c :: others) := by
  intro sign factor rest signed same
  cases signed with
  | none => rfl
  | plus => exact absurd (List.cons.inj same).1 notPlus
  | minus => exact absurd (List.cons.inj same).1 notMinus

/-- Digits begin with no sign. -/
theorem Digits.unsigned {base size : Nat} (denotes : Digits base chars size) : Unsigned chars := by
  obtain ⟨nonempty, values, spelt, -⟩ := denotes
  cases spelt with
  | nil => exact absurd rfl nonempty
  | cons first =>
      rw [digit_iff] at first
      apply unsigned_cons
      · rintro rfl
        have code : '+'.toNat = 43 := rfl
        omega
      · rintro rfl
        have code : '-'.toNat = 45 := rfl
        omega

/-- What is read as a sign and what follows it. -/
theorem exists_sign (chars : List Char) :
    ∃ sign, Sign sign (if (signAndRest chars).1 then -1 else 1) ∧
      chars = sign ++ (signAndRest chars).2 ∧ (sign = [] → Unsigned chars) := by
  unfold signAndRest
  split
  next rest => exact ⟨['-'], .minus, rfl, by simp⟩
  next rest => exact ⟨['+'], .plus, rfl, by simp⟩
  next notMinus notPlus =>
    refine ⟨[], .none, rfl, fun _ => ?_⟩
    intro sign factor rest signed same
    cases signed with
    | none => rfl
    | plus => exact absurd same (notPlus _)
    | minus => exact absurd same (notMinus _)

/-- A sign is read where it is written. -/
theorem signAndRest_append (signed : Sign sign factor) (alone : sign = [] → Unsigned chars) :
    signAndRest (sign ++ chars) = (decide (factor = -1), chars) := by
  cases signed with
  | plus | minus => rfl
  | none =>
      have unsigned := alone rfl
      rw [List.nil_append]
      unfold signAndRest
      split
      next rest => cases unsigned ['-'] _ rest .minus rfl
      next rest => cases unsigned ['+'] _ rest .plus rfl
      next => rfl

theorem Sign.factor_eq (signed : Sign sign factor) :
    factor = if decide (factor = -1) then -1 else 1 := by
  cases signed <;> rfl

end Signs

section Reading

variable {base size : Nat} {chars own digits : List Char} {number inner : Int}

theorem signed?_eq (base : Nat) (chars : List Char) :
    signed? base chars = (Option.map (fun size : Nat =>
      (if (signAndRest chars).1 then -1 else 1) * (size : Int))
        (magnitude? base (signAndRest chars).2)).filter fits := by
  unfold signed? signAndRest
  split
  next digits =>
    cases magnitude? base digits with
    | none => rfl
    | some size => simp
  next digits =>
    cases magnitude? base digits with
    | none => rfl
    | some size => simp
  next =>
    cases magnitude? base chars with
    | none => rfl
    | some size => simp

/-- The digits of a base are read with the sign that stands in front of them. -/
theorem signed?_eq_some_iff :
    signed? base chars = some number ↔
      (∃ own inner digits size, Sign own inner ∧ chars = own ++ digits ∧ Digits base digits size ∧
        number = inner * size) ∧ fits number = true := by
  rw [signed?_eq, Option.filter_eq_some_iff]
  apply and_congr_left
  intro _
  simp only [Option.map_eq_some_iff, magnitude?_eq_some_iff]
  constructor
  · rintro ⟨size, denotes, rfl⟩
    obtain ⟨own, signed, same, -⟩ := exists_sign chars
    exact ⟨own, _, _, size, signed, same, denotes, rfl⟩
  · rintro ⟨own, inner, digits, size, signed, rfl, denotes, rfl⟩
    rw [signAndRest_append signed fun _ => denotes.unsigned]
    refine ⟨size, denotes, ?_⟩
    rw [← signed.factor_eq]

/-- No mark of a base is among signs and octal digits. -/
theorem exists_unmarked (sign : Sign own inner) (denotes : Digits 8 digits size) :
    ∃ c rest, own ++ digits = c :: rest ∧ c ≠ 'x' ∧ c ≠ 'X' := by
  cases sign with
  | plus | minus => exact ⟨_, _, rfl, by decide, by decide⟩
  | none =>
      obtain ⟨nonempty, values, spelt, -⟩ := denotes
      cases spelt with
      | nil => exact absurd rfl nonempty
      | cons first =>
          rw [digit_iff] at first
          refine ⟨_, _, rfl, ?_, ?_⟩
          · rintro rfl
            have code : 'x'.toNat = 120 := rfl
            omega
          · rintro rfl
            have code : 'X'.toNat = 88 := rfl
            omega

/-- The three kinds of numerals are told apart as the reader does. -/
theorem numeral_iff (sign : Sign own inner) :
    Numeral own chars size ↔
      ∃ digits, (baseAndDigits chars).2 = own ++ digits ∧
        Digits (baseAndDigits chars).1 digits size := by
  constructor
  · intro numeral
    cases numeral with
    | @hexadecimal mark digits _ isMark denotes =>
        rcases isMark with rfl | rfl <;> exact ⟨digits, rfl, denotes⟩
    | @octal digits _ denotes =>
        have known : baseAndDigits ('0' :: (own ++ digits)) = (8, own ++ digits) := by
          obtain ⟨c, rest, same, small, capital⟩ := exists_unmarked sign denotes
          rw [same]
          unfold baseAndDigits
          split <;> simp_all
        rw [known]
        exact ⟨digits, rfl, denotes⟩
    | @decimal digits _ plain denotes =>
        have known : baseAndDigits (own ++ digits) = (10, own ++ digits) := by
          unfold baseAndDigits
          split <;> simp_all
        rw [known]
        exact ⟨digits, rfl, denotes⟩
  -- One case per kind of numeral, in the order in which the reader tries the marks.
  · unfold baseAndDigits
    split
    next =>
      rintro ⟨digits, rfl, denotes⟩
      exact .hexadecimal (.inl rfl) denotes
    next =>
      rintro ⟨digits, rfl, denotes⟩
      exact .hexadecimal (.inr rfl) denotes
    next =>
      rintro ⟨digits, same, denotes⟩
      dsimp only at same
      exact same ▸ .octal denotes
    next _ _ noMark =>
      rintro ⟨digits, same, denotes⟩
      dsimp only at same
      subst same
      refine .decimal ?_ denotes
      -- Digits that begin with zero and go on have the mark of another base.
      match shape : own ++ digits with
      | [] => exact .inr (by simp)
      | [c] => grind
      | c :: next :: rest =>
          refine .inr fun zero => ?_
          cases zero
          exact noMark next rest shape

end Reading

/-- What the reader takes a text for, white space around it aside: the sign in front, the sign that
the digits of the numeral have of their own, and the number without the one in front. -/
def Scanned (text : String) (own : List Char) (outer inside : Int) : Prop :=
  ∃ sign numeral inner size, Text.trim text.toList = sign ++ numeral ∧ Sign sign outer ∧
    (sign = [] → Unsigned numeral) ∧ Sign own inner ∧ Numeral own numeral size ∧
    inside = inner * size ∧ -2 ^ 63 ≤ inside ∧ inside < 2 ^ 63

/-- A text denotes a signed 64-bit integer by the documented grammar: white space around it aside,
it is a numeral with one sign at most. -/
def Denotes (text : String) (number : Int) : Prop :=
  ∃ sign factor numeral size, Text.trim text.toList = sign ++ numeral ∧ Sign sign factor ∧
    Numeral [] numeral size ∧ number = factor * size ∧ -2 ^ 63 ≤ number ∧ number < 2 ^ 63

/-- A text has a sign in front of the digits of a numeral besides the one that may stand in front of
the numeral, as `--5`, `0x-10` and `0-7` do. -/
def TwiceSigned (text : String) (number : Int) : Prop :=
  ∃ own outer inside, own ≠ [] ∧ Scanned text own outer inside ∧ number = outer * inside

section Texts

variable {text : String} {own : List Char} {number outer inside : Int}

theorem fits_iff : fits number = true ↔ -2 ^ 63 ≤ number ∧ number < 2 ^ 63 := by
  unfold fits
  rw [Bool.and_eq_true, decide_eq_true_eq, decide_eq_true_eq]
  have least : Int64.minValue.toInt = -2 ^ 63 := rfl
  have most : Int64.maxValue.toInt = 2 ^ 63 - 1 := rfl
  omega

/-- A numeral with nothing of its own in front of its digits begins with no sign. -/
theorem Numeral.unsigned {chars : List Char} {size : Nat} (numeral : Numeral [] chars size) :
    Unsigned chars := by
  cases numeral with
  | hexadecimal | octal => exact unsigned_cons (by decide) (by decide)
  | decimal _ denotes => exact denotes.unsigned

theorem Sign.eq_or {sign : List Char} (signed : Sign sign outer) : outer = 1 ∨ outer = -1 := by
  cases signed
  · exact .inl rfl
  · exact .inl rfl
  · exact .inr rfl

theorem Scanned.bounds (scanned : Scanned text own outer inside) :
    (outer = 1 ∨ outer = -1) ∧ -2 ^ 63 ≤ inside ∧ inside < 2 ^ 63 := by
  obtain ⟨_, _, _, _, -, inFront, -, -, -, -, within⟩ := scanned
  exact ⟨inFront.eq_or, within⟩

/-- What a text is scanned as determines the result of reading it. -/
theorem Scanned.read_eq (scanned : Scanned text own outer inside) :
    read text = if outer = -1 ∧ inside = -2 ^ 63 then .overflow else .value (outer * inside) := by
  obtain ⟨sign, numeral, inner, size, trimmed, inFront, alone, sign', spelt, rfl, least, most⟩ :=
    scanned
  obtain ⟨digits, shape, denotes⟩ := (numeral_iff sign').mp spelt
  have inside : signed? (baseAndDigits numeral).1 (baseAndDigits numeral).2 = some (inner * size) :=
    signed?_eq_some_iff.mpr ⟨⟨own, inner, digits, size, sign', shape, denotes, rfl⟩,
      fits_iff.mpr ⟨least, most⟩⟩
  have smallest : Int64.minValue.toInt = -2 ^ 63 := rfl
  unfold read
  rw [trimmed, signAndRest_append inFront alone]
  simp only [inside, smallest, decide_eq_true_eq]
  rcases inFront.eq_or with rfl | rfl
  · simp
  · by_cases extreme : inner * (size : Int) = -2 ^ 63 <;> simp [extreme]

/-- Only what a text is scanned as is read. -/
theorem read_eq_malformed (unscanned : ∀ own outer inside, ¬ Scanned text own outer inside) :
    read text = .malformed := by
  obtain ⟨sign, inFront, trimmed, alone⟩ := exists_sign (Text.trim text.toList)
  generalize numeralIs : (signAndRest (Text.trim text.toList)).2 = numeral at trimmed
  have unread : signed? (baseAndDigits numeral).1 (baseAndDigits numeral).2 = none := by
    by_contra found
    obtain ⟨inside, found⟩ := Option.ne_none_iff_exists'.mp found
    obtain ⟨⟨own, inner, digits, size, sign', shape, denotes, rfl⟩, within⟩ :=
      signed?_eq_some_iff.mp found
    obtain ⟨least, most⟩ := fits_iff.mp within
    refine unscanned own _ _ ⟨sign, numeral, inner, size, trimmed, inFront, ?_, sign',
      (numeral_iff sign').mpr ⟨digits, shape, denotes⟩, rfl, least, most⟩
    rintro rfl
    rw [trimmed] at alone
    exact alone rfl
  unfold read
  simp only [numeralIs, unread]

/-- Documented numerals other than the smallest integer are scanned without a second sign. -/
theorem denotes_iff :
    Denotes text number ∧ number ≠ -2 ^ 63 ↔
      ∃ outer inside, Scanned text [] outer inside ∧ number = outer * inside := by
  constructor
  · rintro ⟨⟨sign, factor, numeral, size, trimmed, inFront, spelt, rfl, least, most⟩, other⟩
    refine ⟨factor, size, ⟨sign, numeral, 1, size, trimmed, inFront, fun _ => spelt.unsigned,
      .none, spelt, (one_mul _).symm, ?_⟩, rfl⟩
    rcases inFront.eq_or with rfl | rfl <;> omega
  · rintro ⟨outer, inside, ⟨sign, numeral, inner, size, trimmed, inFront, -, sign', spelt, rfl,
      least, most⟩, rfl⟩
    cases sign'
    refine ⟨⟨sign, outer, numeral, size, trimmed, inFront, spelt, by ring, ?_⟩, ?_⟩ <;>
      rcases inFront.eq_or with rfl | rfl <;> omega

/-- A documented numeral is not one with a second sign. -/
theorem Denotes.not_twiceSigned {other : Int} (denotes : Denotes text number) :
    ¬ TwiceSigned text other := by
  rintro ⟨own, outer, inside, signed, ⟨sign', numeral', inner, size', trimmed', inFront', alone,
    second, spelt', -⟩, rfl⟩
  obtain ⟨sign, factor, numeral, size, trimmed, inFront, spelt, -⟩ := denotes
  have same : numeral = numeral' := by
    have scans := signAndRest_append inFront fun _ => spelt.unsigned
    rw [← trimmed, trimmed', signAndRest_append inFront' alone] at scans
    exact (Prod.mk.inj scans).2.symm
  subst same
  obtain ⟨digits, shape, plain⟩ := (numeral_iff .none).mp spelt
  obtain ⟨digits', shape', -⟩ := (numeral_iff second).mp spelt'
  rw [shape, List.nil_append] at shape'
  exact signed (plain.unsigned own inner digits' second shape')

/-- The reader takes for a number exactly the documented numerals other than the smallest integer
and those with a second sign. -/
theorem read_eq_value_iff :
    read text = .value number ↔
      Denotes text number ∧ number ≠ -2 ^ 63 ∨ TwiceSigned text number ∧ number ≠ 2 ^ 63 := by
  constructor
  · intro value
    by_cases scanned : ∃ own outer inside, Scanned text own outer inside
    · obtain ⟨own, outer, inside, scanned⟩ := scanned
      rw [scanned.read_eq] at value
      split at value
      next => cases value
      next within =>
        cases value
        by_cases plain : own = []
        · exact .inl (denotes_iff.mpr ⟨outer, inside, plain ▸ scanned, rfl⟩)
        · refine .inr ⟨⟨own, outer, inside, plain, scanned, rfl⟩, ?_⟩
          obtain ⟨rfl | rfl, least, most⟩ := scanned.bounds <;> omega
    · push Not at scanned
      rw [read_eq_malformed scanned] at value
      cases value
  · have known : ∀ {own outer inside}, Scanned text own outer inside → outer * inside ≠ 2 ^ 63 →
        read text = .value (outer * inside) := by
      intro own outer inside scanned within
      rw [scanned.read_eq, if_neg]
      rintro ⟨rfl, rfl⟩
      exact within (by norm_num)
    rintro (⟨denotes, within⟩ | ⟨⟨own, outer, inside, -, scanned, rfl⟩, within⟩)
    · obtain ⟨outer, inside, scanned, rfl⟩ := denotes_iff.mp ⟨denotes, within⟩
      obtain ⟨-, -, -, -, -, -, -, -, -, most⟩ := denotes
      exact known scanned most.ne
    · exact known scanned within

/-- A number overflows where a second sign makes it the smallest integer and a minus is in front. -/
theorem read_eq_overflow_iff : read text = .overflow ↔ TwiceSigned text (2 ^ 63) := by
  constructor
  · intro overflows
    by_cases scanned : ∃ own outer inside, Scanned text own outer inside
    · obtain ⟨own, outer, inside, scanned⟩ := scanned
      rw [scanned.read_eq] at overflows
      split at overflows
      next extreme =>
        obtain ⟨rfl, rfl⟩ := extreme
        refine ⟨own, _, _, ?_, scanned, by norm_num⟩
        rintro rfl
        obtain ⟨denotes, -⟩ := denotes_iff.mpr ⟨_, _, scanned, rfl⟩
        obtain ⟨-, -, -, -, -, -, -, -, -, most⟩ := denotes
        omega
      next => cases overflows
    · push Not at scanned
      rw [read_eq_malformed scanned] at overflows
      cases overflows
  · rintro ⟨own, outer, inside, -, scanned, same⟩
    rw [scanned.read_eq, if_pos]
    obtain ⟨rfl | rfl, least, most⟩ := scanned.bounds <;> omega

end Texts

end Integer

/-- The value of an integer variable is what is read in its text, or else the default. -/
theorem Config.integer?_eq {settings : Variables} {name text : String} (default : Int)
    (set : settings name = some (.ofString text)) :
    integer? settings name default = match Integer.read text with
      | .value number => some number
      | .malformed => some default
      | .overflow => none := by
  unfold integer?
  rw [set, Option.bind_some, Path.toString?_ofString]
  dsimp only
  split
  next empty =>
    obtain rfl := String.isEmpty_iff.mp empty
    rfl
  next => rfl

namespace Integer

/-- Whatever variable a text is set to, the value of the variable is the integer that the text
denotes, and the default where it denotes none. -/
def ReadAsDocumented (text : String) : Prop :=
  ∀ (settings : Variables) (name : String) (default : Int),
    settings name = some (.ofString text) → ∀ number,
      Config.integer? settings name default = some number ↔
        Denotes text number ∨ number = default ∧ ∀ other, ¬ Denotes text other

section Documented

variable {text : String}

/-- The smallest integer is documented and no number for the reader. -/
theorem not_readAsDocumented_of_smallest (smallest : Denotes text (-2 ^ 63)) :
    ¬ ReadAsDocumented text := by
  intro documented
  have value := (documented (fun _ => some (.ofString text)) "" 0 rfl _).mpr (.inl smallest)
  rw [Config.integer?_eq 0 rfl] at value
  cases reading : read text with
  | value number =>
      rw [reading] at value
      cases value
      rcases read_eq_value_iff.mp reading with ⟨-, other⟩ | ⟨twice, -⟩
      · exact other rfl
      · exact smallest.not_twiceSigned twice
  | malformed => simp [reading] at value
  | overflow => simp [reading] at value

/-- No numeral with a second sign is documented, and none gives the default. -/
theorem not_readAsDocumented_of_twiceSigned {number : Int} (twice : TwiceSigned text number) :
    ¬ ReadAsDocumented text := by
  intro documented
  have default := (documented (fun _ => some (.ofString text)) "" (number + 1) rfl _).mpr
    (.inr ⟨rfl, fun _ denotes => denotes.not_twiceSigned twice⟩)
  rw [Config.integer?_eq _ rfl] at default
  by_cases overflows : number = 2 ^ 63
  · rw [read_eq_overflow_iff.mpr (overflows ▸ twice)] at default
    cases default
  · rw [read_eq_value_iff.mpr (.inr ⟨twice, overflows⟩)] at default
    have same := Option.some.inj default
    omega

/-- Every other text gives the integer that it denotes, or else the default. -/
theorem readAsDocumented (notSmallest : ¬ Denotes text (-2 ^ 63))
    (once : ∀ number, ¬ TwiceSigned text number) : ReadAsDocumented text := by
  intro settings name default set number
  rw [Config.integer?_eq default set]
  have value {number : Int} : read text = .value number ↔ Denotes text number := by
    rw [read_eq_value_iff]
    constructor
    · rintro (⟨denotes, -⟩ | ⟨twice, -⟩)
      · exact denotes
      · exact absurd twice (once number)
    · intro denotes
      refine .inl ⟨denotes, ?_⟩
      rintro rfl
      exact notSmallest denotes
  simp only [← value]
  cases reading : read text with
  | value number => simp
  | malformed => simp [eq_comm]
  | overflow => exact absurd (read_eq_overflow_iff.mp reading) (once _)

end Documented

/-- The reader behind the environment variables takes for numbers the documented numerals, but for
the smallest integer, and besides them those with a second sign, but for one that overflows.  So a
text is read as documented exactly if it neither denotes the smallest integer nor has two signs. -/
theorem reads_numerals (text : String) :
    (∀ number, read text = .value number ↔
      Denotes text number ∧ number ≠ -2 ^ 63 ∨ TwiceSigned text number ∧ number ≠ 2 ^ 63) ∧
    (read text = .overflow ↔ TwiceSigned text (2 ^ 63)) ∧
    (ReadAsDocumented text ↔ ¬ Denotes text (-2 ^ 63) ∧ ∀ number, ¬ TwiceSigned text number) := by
  refine ⟨fun _ => read_eq_value_iff, read_eq_overflow_iff, ?_⟩
  constructor
  · intro documented
    exact ⟨fun smallest => not_readAsDocumented_of_smallest smallest documented,
      fun _ twice => not_readAsDocumented_of_twiceSigned twice documented⟩
  · rintro ⟨notSmallest, once⟩
    exact readAsDocumented notSmallest once

/-- Two minuses in front of a digit are read as a number, and the smallest integer is not. -/
theorem two_minuses_and_smallest_misread :
    read "--1" = .value 1 ∧ ¬ ReadAsDocumented "--1" ∧
      read "-9223372036854775808" = .malformed ∧ ¬ ReadAsDocumented "-9223372036854775808" := by
  have one : Digits 10 ['1'] 1 := magnitude?_eq_some_iff.mp rfl
  have twice : TwiceSigned "--1" 1 :=
    ⟨['-'], -1, -1, by decide,
      ⟨['-'], ['-', '1'], -1, 1, by decide, .minus, nofun, .minus, .decimal (.inr (by decide)) one,
        by decide, by decide, by decide⟩, by decide⟩
  have digits : Digits 10 "9223372036854775808".toList (2 ^ 63) := magnitude?_eq_some_iff.mp rfl
  have smallest : Denotes "-9223372036854775808" (-2 ^ 63) :=
    ⟨['-'], -1, _, 2 ^ 63, by decide, .minus, .decimal (.inr (by decide)) digits, by decide,
      by decide, by decide⟩
  obtain ⟨values, -, doubled⟩ := reads_numerals "--1"
  obtain ⟨-, -, least⟩ := reads_numerals "-9223372036854775808"
  exact ⟨(values 1).mpr (.inr ⟨twice, by decide⟩),
    fun documented => (doubled.mp documented).2 1 twice, by decide,
    fun documented => (least.mp documented).1 smallest⟩

end Integer
end Collective
