import Collective.Proofs.Numerals

/-!
# Overflow while the environment is read

Two variables are integers.  All that the parser of their digits gives is a signed 64-bit integer,
and the one step that no parser checks is the negation for a minus in front.  It has no result for
the smallest integer, which the parser gives only for digits with a minus of their own.
-/

namespace Collective

namespace Integer

/-- A text is a minus in front of a numeral whose digits have a minus of their own and denote the
smallest integer with it, as `--9223372036854775808` and `-0x-8000000000000000` do. -/
def NegatesSmallest (text : String) : Prop :=
  ∃ numeral, Text.trim text.toList = '-' :: numeral ∧ Numeral ['-'] numeral (2 ^ 63)

section Texts

variable {text : String}

/-- A text with two signs denotes the successor of the largest integer in one way only. -/
theorem negatesSmallest_iff : NegatesSmallest text ↔ TwiceSigned text (2 ^ 63) := by
  constructor
  · rintro ⟨numeral, trimmed, spelt⟩
    exact ⟨['-'], -1, -2 ^ 63, by decide,
      ⟨['-'], numeral, -1, 2 ^ 63, trimmed, .minus, nofun, .minus, spelt, by norm_num, by norm_num,
        by norm_num⟩, by norm_num⟩
  · rintro ⟨own, outer, inside, signed, scanned, same⟩
    have bounds := scanned.bounds
    obtain ⟨sign, numeral, inner, size, trimmed, inFront, -, second, spelt, rfl, -⟩ := scanned
    -- Only a minus in front can lead beyond the largest integer, and only from the smallest one.
    obtain ⟨outward, least⟩ : outer = -1 ∧ inner * (size : Int) = -2 ^ 63 := by
      obtain ⟨rfl | rfl, -, most⟩ := bounds <;> omega
    cases second with
    | none => exact absurd rfl signed
    | plus => omega
    | minus =>
        have extreme : size = 2 ^ 63 := by omega
        cases inFront with
        | none | plus => cases outward
        | minus => exact ⟨numeral, trimmed, extreme ▸ spelt⟩

/-- What the reader gives as a number is a signed 64-bit integer. -/
theorem bounds_of_read {number : Int} (value : read text = .value number) :
    -2 ^ 63 ≤ number ∧ number < 2 ^ 63 := by
  rcases read_eq_value_iff.mp value with ⟨denotes, -⟩ | ⟨⟨_, _, _, -, scanned, rfl⟩, other⟩
  · obtain ⟨-, -, -, -, -, -, -, -, within⟩ := denotes
    exact within
  · obtain ⟨rfl | rfl, least, most⟩ := scanned.bounds <;> omega

end Texts

end Integer

namespace Config

variable {settings : Variables} {name : String}

/-- An integer variable has no value exactly if its text overflows. -/
theorem integer?_eq_none_iff (default : Int) :
    integer? settings name default = none ↔
      ∃ text, settings name = some (.ofString text) ∧ Integer.NegatesSmallest text := by
  simp only [Integer.negatesSmallest_iff, ← Integer.read_eq_overflow_iff]
  constructor
  · intro unread
    cases spelt : (settings name).bind Path.toString? with
    | none => simp [integer?, spelt] at unread
    | some text =>
        obtain ⟨path, set, spells⟩ := Option.bind_eq_some_iff.mp spelt
        obtain rfl := Path.toString?_eq_some_iff.mp spells
        rw [integer?_eq default set] at unread
        refine ⟨text, set, ?_⟩
        cases reading : Integer.read text with
        | overflow => rfl
        | value number | malformed => simp [reading] at unread
  · rintro ⟨text, set, overflows⟩
    rw [integer?_eq default set, overflows]

/-- Reading the environment gives a configuration, whatever the variables are set to, but for one
case: one of the two integers is a minus in front of the smallest integer, which is then negated.
No other step leaves the signed 64-bit integers. -/
theorem overflows_on_negated_smallest_only (settings : Variables) :
    (∀ text number, Integer.read text = .value number → -2 ^ 63 ≤ number ∧ number < 2 ^ 63) ∧
    (ofVariables? settings = none ↔
      ∃ name ∈ ["MSCCL_ENABLE", "NCCL_SET_STACK_SIZE"], ∃ text,
        settings name = some (.ofString text) ∧ Integer.NegatesSmallest text) := by
  refine ⟨fun _ _ value => Integer.bounds_of_read value, ?_⟩
  have enable := @integer?_eq_none_iff settings "MSCCL_ENABLE" 1
  have stack := @integer?_eq_none_iff settings "NCCL_SET_STACK_SIZE" 0
  simp only [List.mem_cons, List.not_mem_nil, or_false, exists_eq_or_imp, exists_eq_left,
    ← enable, ← stack]
  unfold ofVariables?
  cases integer? settings "MSCCL_ENABLE" 1 <;> cases integer? settings "NCCL_SET_STACK_SIZE" 0 <;>
    simp

/-- A stack size with two minuses in front of the digits of the smallest integer overflows. -/
theorem no_configuration_for_stack_size :
    ofVariables? (fun name =>
      if name = "NCCL_SET_STACK_SIZE" then some (.ofString "--9223372036854775808") else none) =
      none := by
  have digits : Integer.Digits 10 "9223372036854775808".toList (2 ^ 63) :=
    Integer.magnitude?_eq_some_iff.mp rfl
  apply (overflows_on_negated_smallest_only _).2.mpr
  exact ⟨"NCCL_SET_STACK_SIZE", by decide, "--9223372036854775808", rfl, _, rfl,
    .decimal (.inr (by decide)) digits⟩

end Config

end Collective
