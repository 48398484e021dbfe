/-!
# Paths

A path is a byte string, because file names need not be valid UTF-8.  Paths are
ordered by their bytes: two files of one directory compare as their names do.
-/

namespace Collective

/-- A path of the file system, as its bytes. -/
structure Path where
  bytes : List UInt8
  deriving DecidableEq, Inhabited

namespace Path

/-- The byte that separates the components of a path. -/
def separator : UInt8 := 47

/-- The path that a text spells, in UTF-8. -/
def ofString (text : String) : Path :=
  ⟨text.toByteArray.data.toList⟩

/-- The text of a path whose bytes are valid UTF-8. -/
def toString? (path : Path) : Option String :=
  String.fromUTF8? ⟨path.bytes.toArray⟩

@[simp] theorem toString?_ofString (text : String) :
    (ofString text).toString? = some text := by
  unfold toString? ofString String.fromUTF8?
  rw [dif_pos text.isValidUTF8]
  rfl

/-- A path has a text exactly if it is the path that the text spells. -/
theorem toString?_eq_some_iff {path : Path} {text : String} :
    path.toString? = some text ↔ path = ofString text := by
  constructor
  · intro spelt
    unfold toString? String.fromUTF8? at spelt
    split at spelt
    next valid =>
      cases spelt
      rfl
    next => cases spelt
  · rintro rfl
    exact toString?_ofString text

/-- A path that starts at the root of the file system. -/
def isAbsolute (path : Path) : Bool :=
  path.bytes.head? == some separator

/-- The path of `name` inside the directory `dir`.  An absolute name stands for
itself, and no second separator follows one at the end of `dir`. -/
def join (dir name : Path) : Path :=
  if name.isAbsolute then name
  else if dir.bytes.isEmpty || dir.bytes.getLast? == some separator then
    ⟨dir.bytes ++ name.bytes⟩
  else
    ⟨dir.bytes ++ separator :: name.bytes⟩

/-- The bytes between the separators of a path, empty pieces included. -/
def pieces : List UInt8 → List (List UInt8)
  | [] => [[]]
  | byte :: rest =>
      if byte = separator then [] :: pieces rest
      else
        match pieces rest with
        | [] => [[byte]]
        | piece :: others => (byte :: piece) :: others

/-- The components of a path.  Empty pieces are dropped; a separator at the end
leaves the component `.`, which asks for a directory. -/
def components (path : Path) : List (List UInt8) :=
  let all := pieces path.bytes
  let named := all.filter fun piece => !piece.isEmpty
  if all.getLast? == some [] && !path.bytes.isEmpty then named ++ [[46]] else named

/-- The last named component of a path, if it is a name. -/
def lastName? (path : Path) : Option (List UInt8) :=
  match (path.components.filter (· ≠ [46])).getLast? with
  | some name => if name = [46, 46] then none else some name
  | none => none

instance : LT Path := ⟨fun first second => first.bytes < second.bytes⟩

instance (first second : Path) : Decidable (first < second) :=
  inferInstanceAs (Decidable (first.bytes < second.bytes))

/-- Adds a path to a strictly ascending list of paths, unless it is there. -/
def insertSorted (path : Path) : List Path → List Path
  | [] => [path]
  | head :: rest =>
      if path < head then path :: head :: rest
      else if path = head then head :: rest
      else head :: insertSorted path rest

/-- The paths of a list, each once and in ascending order. -/
def sorted (paths : List Path) : List Path :=
  paths.foldr insertSorted []

@[simp] theorem mem_insertSorted {path other : Path} {paths : List Path} :
    other ∈ insertSorted path paths ↔ other = path ∨ other ∈ paths := by
  induction paths with
  | nil => simp [insertSorted]
  | cons head rest ih =>
      unfold insertSorted
      split
      · simp
      · split
        next same => simp [same]
        next =>
          simp only [List.mem_cons, ih]
          exact or_left_comm

@[simp] theorem mem_sorted {path : Path} {paths : List Path} :
    path ∈ sorted paths ↔ path ∈ paths := by
  induction paths with
  | nil => simp [sorted]
  | cons head rest ih =>
      unfold sorted at ih ⊢
      simp [ih]

/-- Of two paths that are not one, one comes first. -/
theorem lt_of_not_lt {first second : Path} (behind : ¬ first < second) (differ : first ≠ second) :
    second < first := by
  by_cases before : second < first
  · exact before
  · have same : first.bytes = second.bytes :=
      List.le_antisymm (List.not_lt.mp before) (List.not_lt.mp behind)
    cases first
    cases second
    exact absurd (congrArg Path.mk same) differ

theorem ascending_insertSorted {path : Path} {paths : List Path}
    (ascending : paths.Pairwise (· < ·)) : (insertSorted path paths).Pairwise (· < ·) := by
  induction paths with
  | nil => simp [insertSorted]
  | cons head rest ih =>
      obtain ⟨first, others⟩ := List.pairwise_cons.mp ascending
      unfold insertSorted
      split
      next before =>
        refine List.pairwise_cons.mpr ⟨?_, ascending⟩
        intro other member
        rcases List.mem_cons.mp member with rfl | later
        · exact before
        · exact List.lt_trans before (first other later)
      next behind =>
        split
        next => exact ascending
        next differ =>
          refine List.pairwise_cons.mpr ⟨?_, ih others⟩
          intro other member
          rcases mem_insertSorted.mp member with rfl | later
          · exact lt_of_not_lt behind differ
          · exact first other later

/-- Sorting leaves every path once, each before those after it. -/
theorem ascending_sorted (paths : List Path) : (sorted paths).Pairwise (· < ·) := by
  induction paths with
  | nil => exact .nil
  | cons head rest ih => exact ascending_insertSorted ih

/-- Sorting leaves every path once. -/
theorem sorted_nodup (paths : List Path) : (sorted paths).Nodup := by
  apply (ascending_sorted paths).imp
  rintro first _ before rfl
  exact List.lt_irrefl first.bytes before

end Path

end Collective
