import Collective.Toml.Strings
import Collective.Toml.Writer
import Mathlib.Data.List.Basic
import Mathlib.Order.MinMax

/-!
# Strings that are read as they were written

The writer spells every character between double quotes in one of a few ways, `Spelt`, and the
readers take each of them for that character.  Between apostrophes characters stand for themselves,
which is only possible where no run of apostrophes could be taken for the closing ones.
-/

namespace Collective.Toml

/-- How a character is spelt between double quotes. -/
inductive Spelt (multiline : Bool) (c : Char) : List Char → Prop where
  | itself : isBasicChar c = true → Spelt multiline c [c]
  | lineEnd : multiline = true → c = '\n' → Spelt multiline c ['\n']
  | escaped {letter : Char} : escaped? letter = some c → Spelt multiline c ['\x5c', letter]
  | numbered {first second third fourth : Char} :
      numbered? [first, second, third, fourth] = some c →
      Spelt multiline c ['\x5c', 'u', first, second, third, fourth]

variable {multiline : Bool} {c : Char} {chars shown rest : List Char}

/-- A control character has four digits, which give its number. -/
theorem numbered?_of_control (control : c.toNat < 0x20 ∨ c = '\x7f') :
    let shown := (Nat.toDigits 16 c.toNat).map Char.toUpper
    ∃ first second third fourth, List.replicate (4 - shown.length) '0' ++ shown =
      [first, second, third, fourth] ∧ numbered? [first, second, third, fourth] = some c := by
  -- There are few enough control characters to look at each.
  have all : ∀ code < 0x80, code < 0x20 ∨ code = 0x7f →
      let shown := (Nat.toDigits 16 code).map Char.toUpper
      let digits := List.replicate (4 - shown.length) '0' ++ shown
      digits.length = 4 ∧ numbered? digits = some (Char.ofNat code) := by decide
  have code : c.toNat < 0x80 ∧ (c.toNat < 0x20 ∨ c.toNat = 0x7f) := by
    rcases control with low | rfl
    · exact ⟨by omega, .inl low⟩
    · decide
  intro shown
  obtain ⟨four, given⟩ := all c.toNat code.1 code.2
  change (List.replicate (4 - shown.length) '0' ++ shown).length = 4 at four
  change numbered? (List.replicate (4 - shown.length) '0' ++ shown) = _ at given
  obtain ⟨first, others, digits⟩ := List.exists_cons_of_length_eq_add_one four
  rw [digits] at four given ⊢
  obtain ⟨second, third, fourth, rfl⟩ := List.length_eq_three.mp (Nat.succ.inj four)
  rw [Char.ofNat_toNat] at given
  exact ⟨first, second, third, fourth, rfl, given⟩

theorem spelt_basicChar (multiline : Bool) (c : Char) :
    Spelt multiline c (basicChar multiline c) := by
  unfold basicChar
  split_ifs with backspace tab lineEnd inLines feed carriage quote control
  · subst backspace
    exact .escaped rfl
  · subst tab
    exact .escaped rfl
  · exact .lineEnd inLines lineEnd
  · subst lineEnd
    exact .escaped rfl
  · subst feed
    exact .escaped rfl
  · subst carriage
    exact .escaped rfl
  · rcases quote with rfl | rfl
    · exact .escaped rfl
    · exact .escaped rfl
  · obtain ⟨first, second, third, fourth, digits, given⟩ := numbered?_of_control control
    rw [List.append_assoc, digits]
    exact .numbered given
  · refine .itself ?_
    simp only [not_or, not_lt] at quote control
    simp [isBasicChar, quote, control]

theorem basicBody_of_spelt (spelt : Spelt false c shown) (rest : List Char) :
    basicBody (shown ++ rest) = prepend c (basicBody rest) := by
  cases spelt with
  | itself basic =>
      have quote : c ≠ '\x22' := by rintro rfl; cases basic
      have backslash : c ≠ '\x5c' := by rintro rfl; cases basic
      simp [basicBody, basic, backslash]
  | lineEnd inLines => cases inLines
  | @escaped letter spells =>
      have narrow : letter ≠ 'u' := by rintro rfl; cases spells
      have wide : letter ≠ 'U' := by rintro rfl; cases spells
      simp [basicBody, spells, narrow, wide]
  | numbered given => simp [basicBody, given]

theorem multilineBody_of_spelt (spelt : Spelt true c shown) (rest : List Char) :
    multilineBody false (shown ++ rest) = prepend c (multilineBody false rest) := by
  cases spelt with
  | itself basic =>
      have quote : c ≠ '\x22' := by rintro rfl; cases basic
      have backslash : c ≠ '\x5c' := by rintro rfl; cases basic
      have lineEnd : c ≠ '\n' := by rintro rfl; cases basic
      have carriage : c ≠ '\r' := by rintro rfl; cases basic
      simp [multilineBody, basic, quote, backslash, carriage]
  | lineEnd inLines same =>
      subst same
      simp [multilineBody]
  | @escaped letter spells =>
      have narrow : letter ≠ 'u' := by rintro rfl; cases spells
      have wide : letter ≠ 'U' := by rintro rfl; cases spells
      simp [multilineBody, spells, narrow, wide]
  | numbered given => simp [multilineBody, given]

/-! ## Apostrophes -/

theorem literalBody_of_literal (literal : ∀ c ∈ chars, isLiteralChar c = true)
    (rest : List Char) : literalBody (chars ++ '\x27' :: rest) = some (chars, rest) := by
  induction chars with
  | nil => rfl
  | cons c others ih =>
      have first : isLiteralChar c = true := literal c List.mem_cons_self
      have quote : c ≠ '\x27' := by rintro rfl; cases first
      rw [List.cons_append, literalBody]
      · rw [ih fun c member => literal c (List.mem_cons_of_mem _ member)]
        simp [first, prepend]
      · exact quote

theorem le_longestQuoteRun (run : Nat) (chars : List Char) : run ≤ longestQuoteRun run chars := by
  induction chars generalizing run with
  | nil => exact le_rfl
  | cons c others ih =>
      unfold longestQuoteRun
      split
      · exact (Nat.le_succ run).trans (ih (run + 1))
      · exact le_max_left _ _

theorem longestQuoteRun_mono {first second : Nat} (order : first ≤ second) (chars : List Char) :
    longestQuoteRun first chars ≤ longestQuoteRun second chars := by
  induction chars generalizing first second with
  | nil => exact order
  | cons c others ih =>
      unfold longestQuoteRun
      split
      · exact ih (Nat.succ_le_succ order)
      · exact max_le_max order le_rfl

theorem longestQuoteRun_le_append (run : Nat) (front rest : List Char) :
    longestQuoteRun 0 rest ≤ longestQuoteRun run (front ++ rest) := by
  induction front generalizing run with
  | nil => exact longestQuoteRun_mono (Nat.zero_le run) rest
  | cons c others ih =>
      rw [List.cons_append, longestQuoteRun]
      split
      · exact ih (run + 1)
      · exact (ih 0).trans (le_max_right _ _)

/-- What tripled apostrophes can enclose. -/
structure Enclosable (chars : List Char) : Prop where
  plain : ∀ c ∈ chars, needsEscape c = false
  runs : longestQuoteRun 0 chars < 3
  last : chars.getLast? ≠ some '\x27'

namespace Enclosable

theorem of_append {front : List Char} (enclosable : Enclosable (front ++ chars)) :
    Enclosable chars where
  plain c member := enclosable.plain c (List.mem_append_right front member)
  runs := (longestQuoteRun_le_append 0 front chars).trans_lt enclosable.runs
  last ends := enclosable.last (by simp [ends])

/-- An enclosed apostrophe is followed by fewer than two others. -/
theorem not_closing (enclosable : Enclosable ('\x27' :: chars)) (more : List Char) :
    chars ++ ['\x27', '\x27', '\x27'] ++ '\n' :: rest ≠ '\x27' :: '\x27' :: more := by
  intro same
  -- Two more apostrophes would end the text with one, or make a run of three.
  rcases chars with _ | ⟨second, _ | ⟨third, others⟩⟩
  · exact enclosable.last rfl
  · obtain ⟨rfl, -⟩ := List.cons.inj same
    exact enclosable.last rfl
  · obtain ⟨rfl, later⟩ := List.cons.inj same
    obtain ⟨rfl, -⟩ := List.cons.inj later
    exact absurd enclosable.runs (not_lt.mpr (le_longestQuoteRun 3 others))

end Enclosable

/-- What needs no escape stands for itself between apostrophes, except for two characters. -/
theorem isLiteralChar_of_plain (plain : needsEscape c = false) (lineEnd : c ≠ '\n')
    (quote : c ≠ '\x27') : isLiteralChar c = true := by
  grind [needsEscape, isLiteralChar]

theorem multilineLiteralBody_of_plain (plain : needsEscape c = false) (quote : c ≠ '\x27')
    (rest : List Char) :
    multilineLiteralBody (c :: rest) = prepend c (multilineLiteralBody rest) := by
  by_cases lineEnd : c = '\n'
  · subst lineEnd
    simp [multilineLiteralBody]
  · have carriage : c ≠ '\r' := by rintro rfl; cases plain
    have literal := isLiteralChar_of_plain plain lineEnd quote
    simp [multilineLiteralBody, quote, carriage, literal]

theorem multilineLiteralBody_of_quote (single : ∀ more, rest ≠ '\x27' :: '\x27' :: more) :
    multilineLiteralBody ('\x27' :: rest) = prepend '\x27' (multilineLiteralBody rest) := by
  rw [multilineLiteralBody]
  · exact fun more same => single _ same
  · exact fun more same => single _ same
  · exact fun more same => single _ same

theorem multilineLiteralBody_of_enclosable (enclosable : Enclosable chars) (rest : List Char) :
    multilineLiteralBody (chars ++ ['\x27', '\x27', '\x27'] ++ '\n' :: rest) =
      some (chars, '\n' :: rest) := by
  induction chars with
  | nil => rfl
  | cons c others ih =>
      have known := ih (@Enclosable.of_append others [c] enclosable)
      by_cases quote : c = '\x27'
      · subst quote
        rw [List.cons_append, List.cons_append,
          multilineLiteralBody_of_quote enclosable.not_closing, known]
        rfl
      · have plain := enclosable.plain c List.mem_cons_self
        rw [List.cons_append, List.cons_append, multilineLiteralBody_of_plain plain quote, known]
        rfl

/-! ## Strings as a whole -/

theorem basicBody_flatMap (chars rest : List Char) :
    basicBody (chars.flatMap (basicChar false) ++ '\x22' :: rest) = some (chars, rest) := by
  induction chars with
  | nil => rfl
  | cons c others ih =>
      rw [List.flatMap_cons, List.append_assoc, basicBody_of_spelt (spelt_basicChar false c), ih]
      rfl

theorem multilineBody_flatMap (chars rest : List Char) :
    multilineBody false
        (chars.flatMap (basicChar true) ++ ['\x22', '\x22', '\x22'] ++ '\n' :: rest) =
      some (chars, '\n' :: rest) := by
  induction chars with
  | nil => rfl
  | cons c others ih =>
      rw [List.flatMap_cons, List.append_assoc, List.append_assoc,
        multilineBody_of_spelt (spelt_basicChar true c), ← List.append_assoc, ih]
      rfl

/-- Where apostrophes are preferred, they can enclose the text. -/
theorem enclosable_of_prefersLiteral (literal : prefersLiteral chars = true) :
    Enclosable chars := by
  simp only [prefersLiteral, Bool.and_eq_true, decide_eq_true_eq, bne_iff_ne, Bool.not_eq_true',
    List.any_eq_false, Bool.not_eq_true] at literal
  obtain ⟨⟨⟨-, plain⟩, runs⟩, last⟩ := literal
  exact ⟨plain, runs, last⟩

/-- No character is spelt with a quote at the front. -/
theorem Spelt.exists_head (spelt : Spelt multiline c shown) :
    ∃ first others, shown = first :: others ∧ first ≠ '\x22' := by
  cases spelt with
  | itself basic => exact ⟨c, [], rfl, by rintro rfl; cases basic⟩
  | lineEnd => exact ⟨'\n', [], rfl, by decide⟩
  | escaped | numbered => exact ⟨'\x5c', _, rfl, by decide⟩

/-- A single quote opens a string on one line. -/
theorem string?_of_quote (single : ∀ more, rest ≠ '\x22' :: '\x22' :: more) :
    string? ('\x22' :: rest) =
      (basicBody rest).map fun (content, rest) => (String.ofList content, rest) := by
  rw [string?]
  · rfl
  · exact fun more same => single more same

theorem string?_of_apostrophe (single : ∀ more, rest ≠ '\x27' :: '\x27' :: more) :
    string? ('\x27' :: rest) =
      (literalBody rest).map fun (content, rest) => (String.ofList content, rest) := by
  rw [string?]
  · rfl
  · exact fun more same => single more same

theorem string?_basicText (multiline : Bool) (text : String) (rest : List Char) :
    string? (basicText multiline text.toList ++ '\n' :: rest) = some (text, '\n' :: rest) := by
  cases multiline with
  | true =>
      show string?.finish (multilineBody false (text.toList.flatMap (basicChar true) ++
        ['\x22', '\x22', '\x22'] ++ '\n' :: rest)) = _
      rw [multilineBody_flatMap]
      simp [string?.finish]
  | false =>
      show string? ('\x22' :: (text.toList.flatMap (basicChar false) ++ ['\x22'] ++
        '\n' :: rest)) = _
      have single (more : List Char) : text.toList.flatMap (basicChar false) ++ ['\x22'] ++
          '\n' :: rest ≠ '\x22' :: '\x22' :: more := by
        intro same
        cases spelt : text.toList with
        | nil => simp [spelt] at same
        | cons c others =>
            obtain ⟨first, tail, shown, other⟩ := (spelt_basicChar false c).exists_head
            rw [spelt, List.flatMap_cons, shown] at same
            exact other (List.cons.inj same).1
      rw [string?_of_quote single, List.append_assoc, List.singleton_append, basicBody_flatMap]
      simp

theorem skipNewline_of_plain (plain : needsEscape c = false) (lineEnd : c ≠ '\n')
    (rest : List Char) : skipNewline (c :: rest) = c :: rest := by
  have carriage : c ≠ '\r' := by rintro rfl; cases plain
  simp [skipNewline, carriage, lineEnd]

/-- A text that tripled apostrophes enclose is read as it is, also if it starts a line. -/
theorem string?_of_enclosable {text : String} (enclosable : Enclosable text.toList)
    {front : List Char}
    (skipped : skipNewline (front ++ text.toList ++ ['\x27', '\x27', '\x27'] ++ '\n' :: rest) =
      text.toList ++ ['\x27', '\x27', '\x27'] ++ '\n' :: rest) :
    string? (['\x27', '\x27', '\x27'] ++ front ++ text.toList ++ ['\x27', '\x27', '\x27'] ++
      '\n' :: rest) = some (text, '\n' :: rest) := by
  show string?.finish (multilineLiteralBody (skipNewline (front ++ text.toList ++
    ['\x27', '\x27', '\x27'] ++ '\n' :: rest))) = _
  rw [skipped, multilineLiteralBody_of_enclosable enclosable]
  simp [string?.finish]

/-- A text between two apostrophes is read as it is. -/
theorem string?_of_literal {text : String} (literal : ∀ c ∈ text.toList, isLiteralChar c = true)
    (nonempty : text.toList ≠ []) :
    string? (['\x27'] ++ text.toList ++ ['\x27'] ++ '\n' :: rest) = some (text, '\n' :: rest) := by
  show string? ('\x27' :: (text.toList ++ ['\x27'] ++ '\n' :: rest)) = _
  have single (more : List Char) :
      text.toList ++ ['\x27'] ++ '\n' :: rest ≠ '\x27' :: '\x27' :: more := by
    intro same
    obtain ⟨c, others, spelt⟩ := List.exists_cons_of_ne_nil nonempty
    rw [spelt] at same
    obtain ⟨rfl, -⟩ := List.cons.inj same
    have first := literal '\x27' (by simp [spelt])
    cases first
  rw [string?_of_apostrophe single, List.append_assoc, List.singleton_append,
    literalBody_of_literal literal]
  simp

/-- A string is read as it was written. -/
theorem string?_stringText (text : String) (rest : List Char) :
    string? (stringText text ++ '\n' :: rest) = some (text, '\n' :: rest) := by
  unfold stringText
  dsimp only
  split
  next literal =>
    have enclosable := enclosable_of_prefersLiteral literal
    have nonempty : text.toList ≠ [] := by
      intro empty
      rw [empty] at literal
      cases literal
    split
    next => exact @string?_of_enclosable rest text enclosable ['\n'] rfl
    next oneLine =>
      have lineEnd (c : Char) (member : c ∈ text.toList) : c ≠ '\n' := by
        rintro rfl
        exact oneLine (List.contains_iff_mem.mpr member)
      split
      next =>
        refine @string?_of_enclosable rest text enclosable [] ?_
        obtain ⟨c, others, spelt⟩ := List.exists_cons_of_ne_nil nonempty
        have member : c ∈ text.toList := by simp [spelt]
        rw [spelt]
        exact skipNewline_of_plain (enclosable.plain c member) (lineEnd c member) _
      next unquoted =>
        refine string?_of_literal (fun c member => ?_) nonempty
        apply isLiteralChar_of_plain (enclosable.plain c member) (lineEnd c member)
        rintro rfl
        exact unquoted (List.contains_iff_mem.mpr member)
  next => exact string?_basicText _ text rest

end Collective.Toml
