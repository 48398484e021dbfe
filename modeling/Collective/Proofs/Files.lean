import Collective.Config.Document
import Collective.Metadata.Document
import Collective.Proofs.Toml.Documents

/-!
# Files of configurations and metadata

What is written of a configuration or of metadata is read as the same again, whatever lawful format
spells it.  What is written and what is read agree on the keys, on what an absent setting stands for
and on how a value stands for a word, a path or a kind, so it does not matter which text a path or a
name is.
-/

namespace Collective

namespace Path

theorem exists_text {path : Path} (valid : path.toString?.isSome = true) :
    ∃ text, path = ofString text := by
  obtain ⟨text, spelt⟩ := Option.isSome_iff_exists.mp valid
  exact ⟨text, toString?_eq_some_iff.mp spelt⟩

theorem exists_optional_text {path : Option Path}
    (valid : ∀ given ∈ path.toList, given.toString?.isSome = true) :
    ∃ text : Option String, path = text.map ofString := by
  cases path with
  | none => exact ⟨none, rfl⟩
  | some path =>
      obtain ⟨text, rfl⟩ := exists_text (valid path (by simp))
      exact ⟨some text, rfl⟩

end Path

namespace Toml

variable {α : Type} {entries : Entries} {key : String} {value : Value} {read? : Value → Option α}

theorem required?_of_lookup (found : entries.lookup key = some value) :
    required? entries key read? = read? value := by
  rw [required?, found]
  rfl

theorem optional?_of_lookup (found : entries.lookup key = some value) (default : α) :
    optional? entries key read? default = read? value := by
  rw [optional?, found]

end Toml

namespace Config

/-- The paths of a configuration. -/
def paths (config : Config) : List Path :=
  config.schedulerPath :: (config.algorithmDirectory.toList ++ config.installDirectory.toList ++
    config.packageDirectory.toList)

/-- The pair of a setting that may be absent. -/
def textPair (key : String) (text : Option String) : List (String × Toml.Plain) :=
  text.toList.map fun text => (key, .string text)

theorem pathPair?_ofString (key : String) (text : Option String) :
    pathPair? key (text.map .ofString) = some (textPair key text) := by
  cases text with
  | none => rfl
  | some text => simp [pathPair?, textPair]

theorem keys_textPair (key : String) (text : Option String) :
    ((textPair key text).map (·.1)).Sublist [key] := by
  cases text with
  | none => exact List.nil_sublist _
  | some text => exact List.Sublist.refl _

section Written

variable (enabled unitTestMode setStackSize : Bool) (scheduler : String)
variable (algorithms install package : Option String)

/-- The pairs of a configuration whose paths are texts. -/
def pairs : List (String × Toml.Plain) :=
  [("enabled", .boolean enabled), ("scheduler_path", .string scheduler)] ++
    textPair "algo_dir" algorithms ++ textPair "install_dir" install ++
    textPair "package_share_dir" package ++
    [("unit_test_mode", .boolean unitTestMode), ("set_stack_size", .boolean setStackSize)]

/-- Every setting is written once at most, and in the order of the settings. -/
theorem keys_pairs :
    ((pairs enabled unitTestMode setStackSize scheduler algorithms install package).map
      (·.1)).Sublist settings := by
  simp only [pairs, List.map_append]
  exact ((((List.Sublist.refl ["enabled", "scheduler_path"]).append
    (keys_textPair "algo_dir" algorithms)).append (keys_textPair "install_dir" install)).append
    (keys_textPair "package_share_dir" package)).append
    (List.Sublist.refl ["unit_test_mode", "set_stack_size"])

/-- The pairs are read as the configuration. -/
theorem ofEntries?_pairs :
    ofEntries? (Toml.entries
        (pairs enabled unitTestMode setStackSize scheduler algorithms install package)) =
      some {
        enabled, unitTestMode, setStackSize
        schedulerPath := .ofString scheduler
        algorithmDirectory := algorithms.map .ofString
        installDirectory := install.map .ofString
        packageDirectory := package.map .ofString } := by
  cases algorithms <;> cases install <;> cases package <;> rfl

theorem fits_pairs :
    ∀ pair ∈ pairs enabled unitTestMode setStackSize scheduler algorithms install package,
      pair.2.Fits := by
  cases algorithms <;> cases install <;> cases package <;> simp [pairs, textPair, Toml.Plain.Fits]

end Written

variable {config : Config}

/-- The pairs of a configuration whose paths are texts are some of the settings, and they are
read as the configuration. -/
theorem exists_pairs (valid : ∀ path ∈ config.paths, path.toString?.isSome = true) :
    ∃ pairs, config.toPairs? = some pairs ∧ Toml.Keyed pairs ∧ (∀ pair ∈ pairs, pair.2.Fits) ∧
      ofEntries? (Toml.entries pairs) = some config := by
  obtain ⟨enabled, schedulerPath, algorithmDirectory, installDirectory, packageDirectory,
    unitTestMode, setStackSize⟩ := config
  simp only [paths, List.forall_mem_cons, List.forall_mem_append] at valid
  obtain ⟨scheduler, rfl⟩ := Path.exists_text valid.1
  obtain ⟨algorithms, rfl⟩ := Path.exists_optional_text valid.2.1.1
  obtain ⟨install, rfl⟩ := Path.exists_optional_text valid.2.1.2
  obtain ⟨package, rfl⟩ := Path.exists_optional_text valid.2.2
  refine ⟨pairs enabled unitTestMode setStackSize scheduler algorithms install package, ?_,
    .of_sublist (keys_pairs ..) (by decide) (by decide), ?_, ofEntries?_pairs ..⟩
  · unfold toPairs?
    simp only [Path.toString?_ofString, pathPair?_ofString]
    rfl
  · exact fits_pairs enabled unitTestMode setStackSize scheduler algorithms install package

theorem ofEntries?_eq_of_perm {first second : Toml.Entries} (perm : first.Perm second)
    (distinct : (second.map (·.1)).Nodup) : ofEntries? first = ofEntries? second := by
  unfold ofEntries? Toml.optional?
  simp only [Toml.lookup_eq_of_perm perm.symm distinct, perm.all_eq]

/-- A configuration whose paths are texts is written, and read as it was. -/
theorem ofToml?_toToml? {format : Toml.Format} (lawful : format.Lawful)
    (valid : ∀ path ∈ config.paths, path.toString?.isSome = true) :
    ∃ text, config.toToml? format = some text ∧ ofToml? format text = some config := by
  obtain ⟨pairs, made, keyed, fits, read⟩ := exists_pairs valid
  obtain ⟨text, written⟩ := Option.isSome_iff_exists.mp ((lawful.written_iff keyed).mpr fits)
  refine ⟨text, ?_, ?_⟩
  · rw [toToml?, made]
    exact written
  · rw [ofToml?, lawful.read_written keyed ofEntries?_eq_of_perm written]
    exact read

end Config

namespace Metadata

variable {algorithm : Metadata}

/-- The integers of metadata. -/
def integers (algorithm : Metadata) : List Nat :=
  [algorithm.numRanks.toNat, algorithm.numChannels.toNat, algorithm.sizeMultiplier.toNat,
    algorithm.chunksPerLoop.toNat, algorithm.minBytes.toNat, algorithm.maxBytes.toNat]

/-- The names of the settings of metadata. -/
def settings : List String :=
  ["file_path", "name", "func", "num_ranks", "num_channels", "size_multiplier",
    "num_chunks_per_loop", "min_bytes", "max_bytes", "in_place", "out_of_place"]

theorem word64?_toNat (word : UInt64) : (Toml.Value.integer word.toNat).word64? = some word := by
  simp [Toml.Value.word64?]

theorem word32?_toNat (word : UInt32) : (Toml.Value.integer word.toNat).word32? = some word := by
  have small : word.toNat < 4294967296 := word.toNat_lt
  simp [Toml.Value.word32?, small]

/-- The pairs of metadata whose path is a text. -/
def pairs (algorithm : Metadata) (file : String) : List (String × Toml.Plain) :=
  [("file_path", .string file),
    ("name", .string algorithm.name),
    ("func", .string algorithm.kind.word),
    ("num_ranks", .integer algorithm.numRanks.toNat),
    ("num_channels", .integer algorithm.numChannels.toNat),
    ("size_multiplier", .integer algorithm.sizeMultiplier.toNat),
    ("num_chunks_per_loop", .integer algorithm.chunksPerLoop.toNat),
    ("min_bytes", .integer algorithm.minBytes.toNat),
    ("max_bytes", .integer algorithm.maxBytes.toNat),
    ("in_place", .boolean algorithm.inPlace),
    ("out_of_place", .boolean algorithm.outOfPlace)]

theorem toPairs?_eq {file : String} (spelt : algorithm.file = .ofString file) :
    algorithm.toPairs? = some (algorithm.pairs file) := by
  rw [toPairs?, spelt, Path.toString?_ofString]
  rfl

theorem keyed_pairs {file : String} : Toml.Keyed (algorithm.pairs file) :=
  .of_sublist (.refl settings) (by decide) (by decide)

theorem fits_pairs_iff {file : String} :
    (∀ pair ∈ algorithm.pairs file, pair.2.Fits) ↔
      ∀ number ∈ algorithm.integers, number ≤ 2 ^ 63 - 1 := by
  simp [pairs, integers, Toml.Plain.Fits]

/-- The pairs are read as the metadata. -/
theorem ofEntries?_pairs {file : String} (spelt : algorithm.file = .ofString file) :
    ofEntries? (Toml.entries (algorithm.pairs file)) = some algorithm := by
  have found {key : String} {item : Toml.Plain} (member : (key, item) ∈ algorithm.pairs file) :
      (Toml.entries (algorithm.pairs file)).lookup key = some item.value :=
    Toml.lookup_entries keyed_pairs.distinct member
  generalize Toml.entries (algorithm.pairs file) = entries at found ⊢
  have path : Toml.optional? entries "file_path" Toml.Value.path? ⟨[]⟩ = some algorithm.file := by
    rw [Toml.optional?_of_lookup (@found _ (.string file) (by simp [pairs])), spelt]
    rfl
  have name : Toml.optional? entries "name" Toml.Value.text? "" = some algorithm.name :=
    Toml.optional?_of_lookup (@found _ (.string algorithm.name) (by simp [pairs])) ""
  have kind : Toml.required? entries "func" kind? = some algorithm.kind := by
    rw [Toml.required?_of_lookup (@found _ (.string algorithm.kind.word) (by simp [pairs]))]
    exact Kind.ofWord?_word algorithm.kind
  have word {key : String} {number : UInt64}
      (member : (key, Toml.Plain.integer number.toNat) ∈ algorithm.pairs file) :
      Toml.required? entries key Toml.Value.word64? = some number := by
    rw [Toml.required?_of_lookup (found member)]
    exact word64?_toNat number
  have bound {key : String} {number : UInt64}
      (member : (key, Toml.Plain.integer number.toNat) ∈ algorithm.pairs file) :
      Toml.optional? entries key Toml.Value.word64? 0 = some number := by
    rw [Toml.optional?_of_lookup (found member)]
    exact word64?_toNat number
  have channels : Toml.required? entries "num_channels" Toml.Value.word32? =
      some algorithm.numChannels := by
    rw [Toml.required?_of_lookup
      (@found _ (.integer algorithm.numChannels.toNat) (by simp [pairs]))]
    exact word32?_toNat algorithm.numChannels
  have truth {key : String} {truth : Bool}
      (member : (key, Toml.Plain.boolean truth) ∈ algorithm.pairs file) :
      Toml.required? entries key Toml.Value.boolean? = some truth :=
    Toml.required?_of_lookup (found member)
  unfold ofEntries?
  refine Option.bind_eq_some_iff.mpr ⟨_, path, ?_⟩
  refine Option.bind_eq_some_iff.mpr ⟨_, name, ?_⟩
  refine Option.bind_eq_some_iff.mpr ⟨_, kind, ?_⟩
  refine Option.bind_eq_some_iff.mpr ⟨_, @word _ algorithm.numRanks (by simp [pairs]), ?_⟩
  refine Option.bind_eq_some_iff.mpr ⟨_, channels, ?_⟩
  refine Option.bind_eq_some_iff.mpr ⟨_, @word _ algorithm.sizeMultiplier (by simp [pairs]), ?_⟩
  refine Option.bind_eq_some_iff.mpr ⟨_, @word _ algorithm.chunksPerLoop (by simp [pairs]), ?_⟩
  refine Option.bind_eq_some_iff.mpr ⟨_, @bound _ algorithm.minBytes (by simp [pairs]), ?_⟩
  refine Option.bind_eq_some_iff.mpr ⟨_, @bound _ algorithm.maxBytes (by simp [pairs]), ?_⟩
  refine Option.bind_eq_some_iff.mpr ⟨_, @truth _ algorithm.inPlace (by simp [pairs]), ?_⟩
  exact Option.bind_eq_some_iff.mpr ⟨_, @truth _ algorithm.outOfPlace (by simp [pairs]), rfl⟩

theorem ofEntries?_eq_of_perm {first second : Toml.Entries} (perm : first.Perm second)
    (distinct : (second.map (·.1)).Nodup) : ofEntries? first = ofEntries? second := by
  unfold ofEntries? Toml.optional? Toml.required?
  simp only [Toml.lookup_eq_of_perm perm.symm distinct]

section Files

variable {format : Toml.Format} (lawful : format.Lawful)
variable (valid : algorithm.file.toString?.isSome = true)
include lawful valid

/-- Metadata whose path is a text are written exactly if their integers are signed ones. -/
theorem toToml?_isSome_iff :
    (algorithm.toToml? format).isSome = true ↔
      ∀ number ∈ algorithm.integers, number ≤ 2 ^ 63 - 1 := by
  obtain ⟨file, spelt⟩ := Path.exists_text valid
  rw [toToml?, toPairs?_eq spelt, ← fits_pairs_iff]
  exact lawful.written_iff keyed_pairs

/-- Metadata whose path is a text are read as they were written. -/
theorem ofToml?_of_toToml? {text : String} (shown : algorithm.toToml? format = some text) :
    ofToml? format text = some algorithm := by
  obtain ⟨file, spelt⟩ := Path.exists_text valid
  rw [toToml?, toPairs?_eq spelt] at shown
  rw [ofToml?, lawful.read_written keyed_pairs ofEntries?_eq_of_perm shown]
  exact ofEntries?_pairs spelt

end Files

end Metadata

/-- In every lawful format a configuration whose paths are texts is written, and read as it was.
Metadata whose path is a text are written exactly if none of their integers is above the signed
64-bit ones, and they are read as they were. -/
theorem files_read_as_written {format : Toml.Format} (lawful : format.Lawful) :
    (∀ config : Config, (∀ path ∈ config.paths, path.toString?.isSome = true) →
      ∃ text, config.toToml? format = some text ∧ Config.ofToml? format text = some config) ∧
    ∀ algorithm : Metadata, algorithm.file.toString?.isSome = true →
      ((algorithm.toToml? format).isSome = true ↔
        ∀ number ∈ algorithm.integers, number ≤ 2 ^ 63 - 1) ∧
      ∀ text, algorithm.toToml? format = some text →
        Metadata.ofToml? format text = some algorithm := by
  refine ⟨fun config valid => Config.ofToml?_toToml? lawful valid, fun algorithm valid => ⟨?_, ?_⟩⟩
  · exact Metadata.toToml?_isSome_iff lawful valid
  · exact fun text shown => Metadata.ofToml?_of_toToml? lawful valid shown

namespace Sample

/-- A configuration with a path of several lines and quotes of both kinds, and with an empty one. -/
def oddConfig : Config where
  schedulerPath := .ofString "a\\b'\n\"\x07é"
  packageDirectory := some (.ofString "")

/-- Metadata with a name that is spelt between tripled apostrophes, and with the largest bound. -/
def oddMetadata : Metadata where
  file := .ofString "''\\"
  name := "it's \\"
  kind := .allToAllv
  numRanks := 2
  numChannels := 1
  sizeMultiplier := 1
  chunksPerLoop := 1
  maxBytes := 9223372036854775807
  inPlace := true
  outOfPlace := false

/-- They are read as they were written here. -/
theorem odd_files_read :
    let own := Toml.Format.own
    own.Lawful ∧
    (∃ text, oddConfig.toToml? own = some text ∧ Config.ofToml? own text = some oddConfig) ∧
    ∃ text, oddMetadata.toToml? own = some text ∧
      Metadata.ofToml? own text = some oddMetadata := by
  intro own
  obtain ⟨configs, metadata⟩ := files_read_as_written Toml.Format.own_lawful
  have paths : ∀ path ∈ oddConfig.paths, path.toString?.isSome = true := by
    simp [Config.paths, oddConfig]
  obtain ⟨written, read⟩ := metadata oddMetadata (by simp [oddMetadata])
  have small : ∀ number ∈ oddMetadata.integers, number ≤ 2 ^ 63 - 1 := by
    simp [Metadata.integers, oddMetadata]
  obtain ⟨text, shown⟩ := Option.isSome_iff_exists.mp (written.mpr small)
  exact ⟨Toml.Format.own_lawful, configs oddConfig paths, text, shown, read text shown⟩

end Sample

end Collective
