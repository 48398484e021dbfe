import Collective.Proofs.Toml.Scalars
import Collective.Toml.Format

/-!
# Documents that are read as they were written

A document is written as one line for each pair.  If the keys need no quotes and each is given once,
it is read as the table of these pairs, in their order.  What is relied on of other formats is less:
they may spell a document otherwise, and read its entries in another order.
-/

namespace Collective.Toml

/-- A key that needs no quotes. -/
def Bare (key : String) : Prop :=
  key.toList ≠ [] ∧ key.toList.all isKeyChar = true

instance (key : String) : Decidable (Bare key) :=
  inferInstanceAs (Decidable (key.toList ≠ [] ∧ key.toList.all isKeyChar = true))

/-- The keys of some pairs need no quotes, and each is given once. -/
structure Keyed (pairs : List (String × Plain)) : Prop where
  bare : ∀ pair ∈ pairs, Bare pair.1
  distinct : (pairs.map (·.1)).Nodup

/-- Some of a list of keys are given once each, in the order of the list. -/
theorem Keyed.of_sublist {pairs : List (String × Plain)} {names : List String}
    (keys : (pairs.map (·.1)).Sublist names) (bare : ∀ name ∈ names, Bare name)
    (distinct : names.Nodup) : Keyed pairs where
  bare _ member := bare _ (keys.subset (List.mem_map_of_mem member))
  distinct := distinct.sublist keys

/-- The entries that pairs are read as. -/
def entries (pairs : List (String × Plain)) : Entries :=
  pairs.map fun pair => (pair.1, pair.2.value)

/-- A value that a document can hold: an integer must be one of the signed 64-bit ones. -/
def Plain.Fits : Plain → Prop
  | .integer number => number ≤ 2 ^ 63 - 1
  | .string _ | .boolean _ => True

variable {c : Char} {key : String} {item : Plain} {shown rest : List Char}

theorem skipBlanks_cons (blank : c ≠ ' ') (tab : c ≠ '\t') (rest : List Char) :
    skipBlanks (c :: rest) = c :: rest := by
  simp [skipBlanks, blank, tab]

/-! ## Lines -/

theorem exists_head_stringText (text : String) :
    ∃ others, stringText text = '\x22' :: others ∨ stringText text = '\x27' :: others := by
  unfold stringText
  dsimp only
  split_ifs
  · exact ⟨_, .inr rfl⟩
  · exact ⟨_, .inr rfl⟩
  · exact ⟨_, .inr rfl⟩
  · unfold basicText
    dsimp only
    split_ifs
    · exact ⟨_, .inl rfl⟩
    · exact ⟨_, .inl rfl⟩

/-- No value starts with a blank. -/
theorem skipBlanks_text (written : item.text? = some shown) (rest : List Char) :
    skipBlanks (shown ++ rest) = shown ++ rest := by
  cases item with
  | string text =>
      obtain rfl := Option.some.inj written
      obtain ⟨others, quote | apostrophe⟩ := exists_head_stringText text
      · rw [quote]
        exact skipBlanks_cons (by decide) (by decide) _
      · rw [apostrophe]
        exact skipBlanks_cons (by decide) (by decide) _
  | integer number =>
      obtain ⟨-, rfl⟩ := text?_integer_eq_some_iff.mp written
      obtain ⟨c, others, spelt⟩ := List.exists_cons_of_ne_nil (@Nat.toDigits_ne_nil number 10)
      have digit : c.isDigit = true := Integer.isDigit_toDigits c (spelt ▸ List.mem_cons_self)
      rw [spelt]
      refine skipBlanks_cons ?_ ?_ _
      · rintro rfl; cases digit
      · rintro rfl; cases digit
  | boolean truth =>
      cases truth with
      | true => obtain rfl := Option.some.inj written; rfl
      | false => obtain rfl := Option.some.inj written; rfl

/-- A key without quotes starts with no other character than it may hold. -/
theorem Bare.exists_head (bare : Bare key) : ∃ c others, key.toList = c :: others ∧
    ∀ other, isKeyChar other = false → c ≠ other := by
  obtain ⟨c, others, spelt⟩ := List.exists_cons_of_ne_nil bare.1
  refine ⟨c, others, spelt, ?_⟩
  rintro _ odd rfl
  have right := List.all_eq_true.mp bare.2 c (by simp [spelt])
  rw [odd] at right
  cases right

theorem simpleKey?_bare (bare : Bare key) (rest : List Char) :
    simpleKey? (key.toList ++ ' ' :: rest) = some (key, ' ' :: rest) := by
  obtain ⟨c, others, spelt, first⟩ := bare.exists_head
  unfold simpleKey?
  split
  next same =>
    rw [spelt] at same
    exact absurd (List.cons.inj same).1 (first _ (by decide))
  next same =>
    rw [spelt] at same
    exact absurd (List.cons.inj same).1 (first _ (by decide))
  next =>
    have chars := List.all_eq_true.mp bare.2
    rw [List.takeWhile_append_of_pos chars, List.dropWhile_append_of_pos chars]
    have blank : isKeyChar ' ' = false := by decide
    simp [blank, bare.1]

theorem skipBlanks_bare (bare : Bare key) (rest : List Char) :
    skipBlanks (key.toList ++ rest) = key.toList ++ rest := by
  obtain ⟨c, others, spelt, first⟩ := bare.exists_head
  rw [spelt]
  exact skipBlanks_cons (first _ (by decide)) (first _ (by decide)) _

/-- A key without quotes is followed by the sign between key and value. -/
theorem key?_bare (bare : Bare key) (parts : Nat) (rest : List Char) :
    key? (parts + 1) (key.toList ++ ' ' :: '=' :: rest) = some ([key], '=' :: rest) := by
  unfold key?
  rw [skipBlanks_bare bare, simpleKey?_bare bare]
  rfl

/-- The line of a pair. -/
def line (key : String) (shown : List Char) : List Char :=
  key.toList ++ [' ', '=', ' '] ++ shown ++ ['\n']

theorem pair?_line (bare : Bare key) (written : item.text? = some shown) (depth : Nat)
    (rest : List Char) :
    pair? (value? depth) (line key shown ++ rest) = some (([key], item.value), '\n' :: rest) := by
  have split : line key shown ++ rest =
      key.toList ++ ' ' :: '=' :: ' ' :: (shown ++ '\n' :: rest) := by simp [line]
  have item : skipBlanks (' ' :: (shown ++ '\n' :: rest)) = shown ++ '\n' :: rest :=
    skipBlanks_text written ('\n' :: rest)
  unfold pair?
  rw [split, show maxDepth = 126 + 1 from rfl, key?_bare bare]
  simp [item, value?_text written depth rest]

/-- A new key is added to the root as long as there is no header. -/
theorem add?_new {draft : Draft} (headless : draft.header = [])
    (new : draft.root.lookup key = none) (value : Value) :
    draft.add? [key] value = some { draft with root := draft.root ++ [(key, value)] } := by
  obtain ⟨root, header⟩ := draft
  cases headless
  have added : root.insertNew? key value = some (root ++ [(key, value)]) := by
    unfold Entries.insertNew?
    rw [new]
    rfl
  show (root.insertNew? key value).bind _ = _
  rw [added]
  rfl

theorem Bare.line_ne (bare : Bare key) {other : Char} (odd : isKeyChar other = false)
    (more : List Char) : line key shown ++ rest ≠ other :: more := by
  obtain ⟨c, others, spelt, first⟩ := bare.exists_head
  rw [line, spelt]
  exact fun same => first other odd (List.cons.inj same).1

/-- A line adds its pair to the document so far. -/
theorem statements?_line {draft : Draft} (headless : draft.header = [])
    (new : draft.root.lookup key = none) (bare : Bare key) (written : item.text? = some shown)
    (fuel : Nat) (rest : List Char) :
    statements? (fuel + 1) draft (line key shown ++ rest) =
      statements? fuel { draft with root := draft.root ++ [(key, item.value)] } rest := by
  have front : skipBlanks (line key shown ++ rest) = line key shown ++ rest := by
    simp only [line, List.append_assoc]
    exact skipBlanks_bare bare _
  rw [statements?, front]
  -- The line starts with a character of its key, so it is neither empty nor a comment nor a header.
  split
  next empty => simp [line] at empty
  next same => exact absurd same (bare.line_ne (by decide) _)
  next same => exact absurd same (bare.line_ne (by decide) _)
  next same => exact absurd same (bare.line_ne (by decide) _)
  next same => exact absurd same (bare.line_ne (by decide) _)
  next same => exact absurd same (bare.line_ne (by decide) _)
  next =>
    rw [pair?_line bare written]
    simp only [Option.bind_eq_bind, Option.bind_some, add?_new headless new]
    rfl

theorem lines?_cons_eq_some_iff {others : List (String × Plain)} {text : List Char} :
    lines? ((key, item) :: others) = some text ↔ ∃ shown rest, item.text? = some shown ∧
      lines? others = some rest ∧ text = line key shown ++ rest := by
  simp only [lines?, Option.bind_eq_bind, Option.bind_eq_some_iff, Option.some.injEq]
  constructor
  · rintro ⟨shown, value, rest, lines, rfl⟩
    exact ⟨shown, rest, value, lines, rfl⟩
  · rintro ⟨shown, rest, value, lines, rfl⟩
    exact ⟨shown, value, rest, lines, rfl⟩

/-- The lines of pairs add them to the document so far. -/
theorem statements?_lines {pairs : List (String × Plain)} {text : List Char} {draft : Draft}
    {fuel : Nat} (written : lines? pairs = some text) (enough : pairs.length < fuel)
    (headless : draft.header = []) (bare : ∀ pair ∈ pairs, Bare pair.1)
    (distinct : (pairs.map (·.1)).Nodup)
    (new : ∀ pair ∈ pairs, draft.root.lookup pair.1 = none) :
    statements? fuel draft text = some (draft.root ++ entries pairs) := by
  induction pairs generalizing text draft fuel with
  | nil =>
      obtain rfl := Option.some.inj written
      obtain ⟨fuel, rfl⟩ := Nat.exists_eq_succ_of_ne_zero (Nat.ne_of_gt enough)
      simp [statements?, skipBlanks, entries]
  | cons pair others ih =>
      obtain ⟨key, item⟩ := pair
      obtain ⟨fuel, rfl⟩ := Nat.exists_eq_succ_of_ne_zero (Nat.ne_of_gt (Nat.zero_lt_of_lt enough))
      obtain ⟨shown, rest, value, lines, rfl⟩ := lines?_cons_eq_some_iff.mp written
      obtain ⟨once, distinct⟩ := List.nodup_cons.mp distinct
      have first : (key, item) ∈ (key, item) :: others := List.mem_cons_self
      rw [statements?_line headless (new _ first) (bare _ first) value, ih lines]
      · simp [entries]
      · exact Nat.lt_of_succ_lt_succ enough
      · exact headless
      · exact fun pair member => bare pair (List.mem_cons_of_mem _ member)
      · exact distinct
      · intro pair member
        have listed : pair.1 ∈ others.map (·.1) := List.mem_map_of_mem member
        have other : pair.1 ≠ key := fun same => once (same ▸ listed)
        rw [List.lookup_append, new pair (List.mem_cons_of_mem _ member)]
        simp [List.lookup_cons, beq_false_of_ne other]

/-- Every line has its end. -/
theorem length_le_of_lines? {pairs : List (String × Plain)} {text : List Char}
    (written : lines? pairs = some text) : pairs.length ≤ text.length := by
  induction pairs generalizing text with
  | nil => simp
  | cons pair others ih =>
      obtain ⟨shown, rest, -, lines, rfl⟩ := lines?_cons_eq_some_iff.mp written
      have more := ih lines
      simp only [line, List.length_append, List.length_cons]
      omega

/-- A document is read as it was written, if its keys need no quotes and each is given once. -/
theorem parse?_of_render? {pairs : List (String × Plain)} {text : String}
    (written : render? pairs = some text) (keyed : Keyed pairs) :
    parse? text = some (entries pairs) := by
  obtain ⟨chars, lines, rfl⟩ := Option.map_eq_some_iff.mp written
  have read : statements? (chars.length + 1) {} chars = some (entries pairs) :=
    statements?_lines lines (Nat.lt_succ_of_le (length_le_of_lines? lines)) rfl keyed.bare
      keyed.distinct fun _ _ => rfl
  unfold parse?
  rw [String.toList_ofList]
  split
  next mark _ =>
    -- A byte order mark is no character of a key.
    cases pairs with
    | nil => cases lines
    | cons pair others =>
        obtain ⟨shown, rest, -, -, same⟩ := lines?_cons_eq_some_iff.mp lines
        exact absurd same.symm ((keyed.bare pair List.mem_cons_self).line_ne (by decide) _)
  next => exact read

/-- A pair is found under its key. -/
theorem lookup_entries {pairs : List (String × Plain)} (distinct : (pairs.map (·.1)).Nodup)
    (member : (key, item) ∈ pairs) : (entries pairs).lookup key = some item.value := by
  induction pairs with
  | nil => cases member
  | cons pair others ih =>
      obtain ⟨once, distinct⟩ := List.nodup_cons.mp distinct
      rcases List.mem_cons.mp member with rfl | later
      · simp [entries]
      · have listed : key ∈ others.map (·.1) := List.mem_map_of_mem later
        have other : key ≠ pair.1 := by
          rintro rfl
          exact once listed
        rw [← ih distinct later]
        simp [entries, List.lookup_cons, beq_false_of_ne other]

theorem text?_isSome_iff : item.text?.isSome = true ↔ item.Fits := by
  cases item with
  | string | boolean => simp [Plain.text?, Plain.Fits]
  | integer number =>
      rw [Option.isSome_iff_exists]
      constructor
      · rintro ⟨shown, written⟩
        exact (text?_integer_eq_some_iff.mp written).1
      · exact fun fits => ⟨_, text?_integer_eq_some_iff.mpr ⟨fits, rfl⟩⟩

/-- A document is written if it can hold each of its values. -/
theorem render?_isSome_iff {pairs : List (String × Plain)} :
    (render? pairs).isSome = true ↔ ∀ pair ∈ pairs, pair.2.Fits := by
  unfold render?
  rw [Option.isSome_map]
  induction pairs with
  | nil => simp [lines?]
  | cons pair others ih =>
      rw [List.forall_mem_cons, ← ih, ← text?_isSome_iff, Option.isSome_iff_exists,
        Option.isSome_iff_exists, Option.isSome_iff_exists]
      constructor
      · rintro ⟨text, written⟩
        obtain ⟨shown, rest, value, lines, -⟩ := lines?_cons_eq_some_iff.mp written
        exact ⟨⟨shown, value⟩, rest, lines⟩
      · rintro ⟨⟨shown, value⟩, rest, lines⟩
        exact ⟨_, lines?_cons_eq_some_iff.mpr ⟨shown, rest, value, lines, rfl⟩⟩

/-! ## Formats -/

/-- The order of entries makes no difference, if each key is given once. -/
theorem lookup_eq_of_perm {first second : Entries} (perm : first.Perm second)
    (distinct : (first.map (·.1)).Nodup) (key : String) :
    first.lookup key = second.lookup key := by
  induction perm with
  | nil => rfl
  | cons pair _ ih => rw [List.lookup_cons, List.lookup_cons, ih (List.nodup_cons.mp distinct).2]
  | swap pair other rest =>
      obtain ⟨name, value⟩ := pair
      obtain ⟨otherName, otherValue⟩ := other
      obtain ⟨once, -⟩ := List.nodup_cons.mp distinct
      have differ : otherName ≠ name := by
        rintro rfl
        simp at once
      by_cases here : key = otherName
      · subst here
        simp [List.lookup_cons, beq_false_of_ne differ]
      · simp [List.lookup_cons, beq_false_of_ne here]
  | trans before _ first second =>
      exact (first distinct).trans (second ((before.map (·.1)).nodup_iff.mp distinct))

/-- What is relied on of a format: it writes strings, truth values and the signed 64-bit integers,
and no other integers; and it reads the pairs that it has written, in whatever order. -/
structure Format.Lawful (format : Format) : Prop where
  written_iff : ∀ {pairs : List (String × Plain)}, Keyed pairs →
    ((format.write? pairs).isSome = true ↔ ∀ pair ∈ pairs, pair.2.Fits)
  reads : ∀ {pairs : List (String × Plain)} {text : String}, Keyed pairs →
    format.write? pairs = some text →
    ∃ found, format.read? text = some found ∧ found.Perm (entries pairs)

theorem Format.own_lawful : Format.own.Lawful where
  written_iff _ := render?_isSome_iff
  reads keyed written := ⟨_, parse?_of_render? written keyed, .refl _⟩

/-- Settings that do not depend on the order of their entries are read from a document as from the
pairs that were written. -/
theorem Format.Lawful.read_written {α : Type} {format : Format} {ofEntries? : Entries → Option α}
    {pairs : List (String × Plain)} {text : String} (lawful : format.Lawful) (keyed : Keyed pairs)
    (orderless : ∀ {first second : Entries}, first.Perm second → (second.map (·.1)).Nodup →
      ofEntries? first = ofEntries? second)
    (written : format.write? pairs = some text) :
    (format.read? text).bind ofEntries? = ofEntries? (entries pairs) := by
  obtain ⟨found, read, perm⟩ := lawful.reads keyed written
  have keys : (entries pairs).map (·.1) = pairs.map (·.1) := by
    rw [entries, List.map_map]
    rfl
  rw [read]
  exact orderless perm (keys ▸ keyed.distinct)

end Collective.Toml
