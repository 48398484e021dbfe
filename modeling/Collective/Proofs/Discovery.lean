import Collective.Proofs.Scheduling
import Mathlib.Data.List.Sort
import Mathlib.Data.Option.Basic

/-!
# How algorithms are discovered

Discovery takes the first directory that can be opened, lists it, and parses its files in the
order of their paths.  It fills the catalog with all of them, or leaves it as it was.  A directory
may list its entries in any order: the catalog is the same, and so is every choice from it.
-/

namespace Collective

open Procedure

instance : Std.Irrefl fun first second : Path => first < second where
  irrefl path := List.lt_irrefl path.bytes

instance : Std.Antisymm fun first second : Path => first < second where
  antisymm first _ before after := absurd (List.lt_trans before after) (List.lt_irrefl first.bytes)

namespace Catalog

/-- The regular files and symbolic links of a directory, in ascending order. -/
structure Lists (directory : Path) (entries : List DirectoryEntry) (files : List Path) : Prop where
  ascending : files.Pairwise (· < ·)
  exact : ∀ file, file ∈ files ↔ ∃ entry ∈ entries,
    (entry.kind = .file ∨ entry.kind = .link) ∧ file = directory.join ⟨entry.name⟩

/-- A file that was parsed, and what it says. -/
structure Reading where
  file : Path
  content : Metadata

/-- The call that parses a file. -/
def Reading.event (reading : Reading) : Event := ⟨.parse reading.file, .ok reading.content⟩

/-- What the catalog keeps of a file. -/
def Reading.entry (reading : Reading) : Metadata := { reading.content with file := reading.file }

/-- Calls for directories that cannot be opened, the latest first. -/
def unopened (directories : List Path) : History :=
  (directories.map fun directory => ⟨.openDirectory directory, false⟩).reverse

/-- The calls that find the first directory that can be opened, the latest first. -/
def opening (before : List Path) (directory : Path) : History :=
  ⟨.openDirectory directory, true⟩ :: unopened before

/-- Calls that parse files, the latest first. -/
def parsings (readings : List Reading) : History := (readings.map Reading.event).reverse

/-- How discovery ends: the catalog was filled before; no directory can be opened; the first one
that can be opened cannot be listed; a file of it does not parse, all before it do, and none after
it is parsed; or all files parse and make up the catalog. -/
inductive Discovery (candidates : List Path) (catalog : Catalog) (history : History) :
    Outcome Catalog Unit → Prop where
  | known : catalog.loaded = true → Discovery candidates catalog history ⟨.ok (), catalog, history⟩
  | missing : catalog.loaded = false →
      Discovery candidates catalog history
        ⟨.error (.noAlgorithmDirectory candidates), catalog, unopened candidates ++ history⟩
  | unlistable {before others : List Path} {directory : Path} (reason : String) :
      catalog.loaded = false → candidates = before ++ directory :: others →
      Discovery candidates catalog history
        ⟨.error (.unlistable directory reason), catalog,
          ⟨.listDirectory directory, .error reason⟩ :: opening before directory ++ history⟩
  | unparsable {before others : List Path} {directory : Path} {entries : List DirectoryEntry}
      {readings : List Reading} {file : Path} {rest : List Path} (reason : String) :
      catalog.loaded = false → candidates = before ++ directory :: others →
      Lists directory entries (readings.map Reading.file ++ file :: rest) →
      Discovery candidates catalog history
        ⟨.error (.unparsable file reason), catalog,
          ⟨.parse file, .error reason⟩ :: parsings readings ++
            ⟨.listDirectory directory, .ok entries⟩ :: opening before directory ++ history⟩
  | filled {before others : List Path} {directory : Path} {entries : List DirectoryEntry}
      {readings : List Reading} :
      catalog.loaded = false → candidates = before ++ directory :: others →
      Lists directory entries (readings.map Reading.file) →
      Discovery candidates catalog history
        ⟨.ok (), { algorithms := readings.map Reading.entry, loaded := true },
          parsings readings ++
            ⟨.listDirectory directory, .ok entries⟩ :: opening before directory ++ history⟩

theorem lists_algorithmFiles (directory : Path) (entries : List DirectoryEntry) :
    Lists directory entries (algorithmFiles directory entries) := by
  constructor
  · exact Path.ascending_sorted _
  · intro file
    unfold algorithmFiles
    rw [Path.mem_sorted, List.mem_map]
    constructor
    · intro found
      obtain ⟨entry, member, same⟩ := found
      obtain ⟨listed, kind⟩ := List.mem_filter.mp member
      refine ⟨entry, listed, ?_, same.symm⟩
      cases shown : entry.kind with
      | file => exact .inl rfl
      | link => exact .inr rfl
      | other => simp [shown] at kind
    · intro found
      obtain ⟨entry, listed, kind, same⟩ := found
      refine ⟨entry, List.mem_filter.mpr ⟨listed, ?_⟩, same.symm⟩
      cases kind with
      | inl file => simp [file]
      | inr link => simp [link]

/-- The order of the entries makes no difference. -/
theorem Lists.eq_of_perm {directory : Path} {entries others : List DirectoryEntry}
    {files again : List Path} (lists : Lists directory entries files)
    (relists : Lists directory others again) (perm : entries.Perm others) : files = again := by
  apply lists.ascending.eq_of_mem_iff relists.ascending
  intro file
  rw [lists.exact, relists.exact]
  simp only [perm.mem_iff]

section Calls

variable {S : Type} {env : Environment} {state : S} {history : History}

/-- A search ends with the first directory that can be opened, if there is one. -/
theorem ensures_firstOpen_exact (directories : List Path) :
    (firstOpen directories : Procedure S _).Ensures env state history
      (fun found after later => after = state ∧ match found with
        | none => later = unopened directories ++ history
        | some directory => ∃ before others,
            directories = before ++ directory :: others ∧
            later = opening before directory ++ history)
      (fun _ _ _ => False) := by
  induction directories generalizing history with
  | nil => exact ⟨rfl, rfl⟩
  | cons directory others ih =>
      unfold firstOpen
      simp only [ensures_bind, ensures_ask]
      generalize env.answer history (.openDirectory directory) = opens
      cases opens with
      | true => exact ⟨rfl, [], others, rfl, rfl⟩
      | false =>
          apply ih.mono
          · intro found after later searched
            refine ⟨searched.1, ?_⟩
            have ended := searched.2
            cases found with
            | none => simpa [unopened] using ended
            | some place =>
                obtain ⟨before, rest, parts, grown⟩ := ended
                refine ⟨directory :: before, rest, by rw [parts]; rfl, ?_⟩
                simpa [opening, unopened] using grown
          · exact fun _ _ _ never => never

/-- Files are parsed in order, up to the first that does not parse. -/
theorem ensures_parseAll_exact (files : List Path) :
    (parseAll files : Procedure S _).Ensures env state history
      (fun algorithms after later => after = state ∧ ∃ readings : List Reading,
        readings.map Reading.file = files ∧ algorithms = readings.map Reading.entry ∧
        later = parsings readings ++ history)
      (fun error after later => after = state ∧ ∃ (readings : List Reading) (file : Path)
        (rest : List Path) (reason : String), files = readings.map Reading.file ++ file :: rest ∧
        error = .unparsable file reason ∧
        later = ⟨.parse file, .error reason⟩ :: parsings readings ++ history) := by
  induction files generalizing history with
  | nil => exact ⟨rfl, [], rfl, rfl, rfl⟩
  | cons file others ih =>
      unfold parseAll
      simp only [ensures_bind, ensures_ask]
      generalize env.answer history (.parse file) = answer
      cases answer with
      | error reason => exact ⟨rfl, [], file, others, reason, rfl, rfl, rfl⟩
      | ok content =>
          simp only [ensures_bind, ensures_pure]
          apply ih.mono
          · rintro algorithms after later ⟨same, readings, rfl, rfl, rfl⟩
            exact ⟨same, ⟨file, content⟩ :: readings, rfl, rfl, by simp [parsings, Reading.event]⟩
          · rintro error after later ⟨same, readings, failing, rest, reason, rfl, rfl, rfl⟩
            exact ⟨same, ⟨file, content⟩ :: readings, failing, rest, reason, rfl, rfl,
              by simp [parsings, Reading.event]⟩

end Calls

/-- A catalog that is filled stays as it is, and nothing is called. -/
theorem run_discover_of_loaded {catalog : Catalog} (config : Config) (env : Environment)
    (history : History) (loaded : catalog.loaded = true) :
    (discover config).run env catalog history = ⟨.ok (), catalog, history⟩ := by
  unfold discover
  rw [run_bind, run_get]
  simp [loaded]

theorem discovers (config : Config) (env : Environment) (catalog : Catalog) (history : History) :
    Discovery (config.candidates env.executableDirectory) catalog history
      ((discover config).run env catalog history) := by
  cases listed : catalog.loaded with
  | true =>
      rw [run_discover_of_loaded config env history listed]
      exact .known listed
  | false =>
      apply Ensures.whole
      unfold discover
      simp only [ensures_bind, ensures_get, listed, Bool.false_eq_true, if_false,
        ensures_executableDirectory]
      apply (ensures_firstOpen_exact _).mono
      · intro found after past searched
        obtain ⟨rfl, ended⟩ := searched
        cases found with
        | none =>
            rw [ended]
            exact .missing listed
        | some directory =>
            obtain ⟨before, others, parts, rfl⟩ := ended
            unfold filesIn
            simp only [ensures_bind, ensures_ask, ensures_set]
            generalize env.answer _ (.listDirectory directory) = shown
            cases shown with
            | error reason => exact .unlistable reason listed parts
            | ok entries =>
                have lists := lists_algorithmFiles directory entries
                rw [ensures_pure]
                apply (ensures_parseAll_exact _).mono
                · rintro algorithms _ later ⟨-, readings, files, rfl, rfl⟩
                  rw [← files] at lists
                  have filled : Discovery _ _ history _ := .filled listed parts lists
                  simpa using filled
                · rintro error _ later ⟨rfl, readings, file, rest, reason, files, rfl, rfl⟩
                  rw [files] at lists
                  have unparsable : Discovery _ _ history _ :=
                    .unparsable reason listed parts lists
                  simpa using unparsable
      · exact fun _ _ _ never => never.elim

/-! ## Choices -/

/-- An entry accepts a request, and its path is the least of those that do. -/
structure Leads (catalog : Catalog) (request : Request) (entry : Metadata) : Prop where
  listed : entry ∈ catalog.algorithms
  accepts : entry.accepts request request.inPlace = true
  least : ∀ other ∈ catalog.algorithms, other.accepts request request.inPlace = true →
    other = entry ∨ entry.file < other.file

variable {catalog : Catalog} {request : Request} {entry : Metadata}

theorem Leads.unique {other : Metadata} (leads : catalog.Leads request entry)
    (again : catalog.Leads request other) : entry = other := by
  cases leads.least other again.listed again.accepts with
  | inl same => exact same.symm
  | inr before =>
      cases again.least entry leads.listed leads.accepts with
      | inl same => exact same
      | inr behind => exact absurd (List.lt_trans before behind) (List.lt_irrefl entry.file.bytes)

/-- Where the paths ascend, the first entry that accepts a request has the least path. -/
theorem Elects.leads {index : Nat} (elects : catalog.Elects request index entry)
    (ascending : (catalog.algorithms.map (·.file)).Pairwise (· < ·)) :
    catalog.Leads request entry := by
  refine ⟨List.mem_of_getElem? elects.listed, elects.accepts, ?_⟩
  intro other member accepted
  obtain ⟨place, found⟩ := List.mem_iff_getElem?.mp member
  rcases Nat.lt_trichotomy place index with before | rfl | behind
  · have refused := elects.first place other before found
    rw [accepted] at refused
    cases refused
  · exact .inl (Option.some.inj (found.symm.trans elects.listed))
  · obtain ⟨bound, rfl⟩ := List.getElem?_eq_some_iff.mp elects.listed
    obtain ⟨reach, rfl⟩ := List.getElem?_eq_some_iff.mp found
    have inOrder := List.pairwise_iff_getElem.mp (List.pairwise_map.mp ascending)
    exact .inr (inOrder index place bound reach behind)

/-- What the catalog chooses for a request. -/
def choice? (catalog : Catalog) (request : Request) : Option Metadata :=
  (catalog.firstMatch? request).bind catalog.get?

theorem choice?_eq_some_iff (ascending : (catalog.algorithms.map (·.file)).Pairwise (· < ·)) :
    catalog.choice? request = some entry ↔
      request.operation.reduction.pointwise = true ∧ catalog.Leads request entry := by
  have leads {index : Nat} (found : catalog.firstMatch? request = some index) :
      ∃ elected, catalog.choice? request = some elected ∧ catalog.Leads request elected := by
    obtain ⟨elected, elects⟩ := elects_of_firstMatch? found
    refine ⟨elected, ?_, elects.leads ascending⟩
    rw [choice?, found]
    exact elects.listed
  constructor
  · intro chosen
    obtain ⟨index, found, listed⟩ := Option.bind_eq_some_iff.mp chosen
    have possible := firstMatch?_isSome.mp (Option.isSome_of_eq_some found)
    obtain ⟨elected, same, leading⟩ := leads found
    rw [chosen] at same
    cases same
    exact ⟨possible.1, leading⟩
  · intro both
    obtain ⟨pointwise, leading⟩ := both
    have possible := firstMatch?_isSome.mpr ⟨pointwise, entry, leading.listed, leading.accepts⟩
    obtain ⟨index, found⟩ := Option.isSome_iff_exists.mp possible
    obtain ⟨elected, same, elects⟩ := leads found
    rw [same, leading.unique elects]

end Catalog

/-! ## Two listing orders -/

/-- A file system: which directories can be opened, the entries of those that can be listed, and
what the algorithm files say. -/
structure FileSystem where
  opens : Path → Bool
  listing : Path → Fallible (List DirectoryEntry)
  content : Path → Fallible Metadata

/-- An environment shows a file system, the entries of a directory in whatever order each time. -/
structure Environment.Shows (env : Environment) (system : FileSystem) : Prop where
  opened : ∀ history directory,
    env.answer history (.openDirectory directory) = system.opens directory
  listed : ∀ history directory entries, system.listing directory = .ok entries →
    ∃ shown, env.answer history (.listDirectory directory) = .ok shown ∧ shown.Perm entries
  unlisted : ∀ history directory reason, system.listing directory = .error reason →
    env.answer history (.listDirectory directory) = .error reason
  parsed : ∀ history file, env.answer history (.parse file) = system.content file

namespace FileSystem

/-- The algorithm files of a directory, if it can be listed. -/
def filesIn (system : FileSystem) (directory : Path) : Except Error (List Path) :=
  match system.listing directory with
  | .ok entries => .ok (Catalog.algorithmFiles directory entries)
  | .error reason => .error (.unlistable directory reason)

/-- What the catalog keeps of a file, if the file can be parsed. -/
def entry (system : FileSystem) (file : Path) : Except Error Metadata :=
  match system.content file with
  | .ok content => .ok { content with file }
  | .error reason => .error (.unparsable file reason)

/-- The catalog of the algorithm files, if it can be filled. -/
def catalog (system : FileSystem) (candidates : List Path) : Except Error Catalog :=
  match candidates.find? system.opens with
  | none => .error (.noAlgorithmDirectory candidates)
  | some directory => do
      let algorithms ← (← system.filesIn directory).mapM system.entry
      return { algorithms, loaded := true }

end FileSystem

namespace Catalog

variable {S : Type} {env : Environment} {state : S} {history : History} {system : FileSystem}

theorem algorithmFiles_eq_of_perm {entries others : List DirectoryEntry} (directory : Path)
    (perm : entries.Perm others) :
    algorithmFiles directory entries = algorithmFiles directory others :=
  (lists_algorithmFiles directory entries).eq_of_perm (lists_algorithmFiles directory others) perm

theorem ensures_firstOpen_shown (shown : env.Shows system) (directories : List Path) :
    (firstOpen directories : Procedure S _).Ensures env state history
      (fun found after _ => after = state ∧ found = directories.find? system.opens)
      (fun _ _ _ => False) := by
  induction directories generalizing history with
  | nil => exact ⟨rfl, rfl⟩
  | cons directory others ih =>
      unfold firstOpen
      simp only [ensures_bind, ensures_ask, shown.opened, List.find?_cons]
      cases system.opens directory with
      | true => exact ⟨rfl, rfl⟩
      | false => exact ih

theorem ensures_filesIn_shown (shown : env.Shows system) (directory : Path) :
    (filesIn directory : Procedure S _).Ensures env state history
      (fun files after _ => after = state ∧ system.filesIn directory = .ok files)
      (fun error after _ => after = state ∧ system.filesIn directory = .error error) := by
  unfold filesIn FileSystem.filesIn
  simp only [ensures_bind, ensures_ask]
  cases listing : system.listing directory with
  | ok entries =>
      obtain ⟨answer, told, perm⟩ := shown.listed history directory entries listing
      rw [told]
      exact ⟨rfl, congrArg Except.ok (algorithmFiles_eq_of_perm directory perm).symm⟩
  | error reason =>
      rw [shown.unlisted history directory reason listing]
      exact ⟨rfl, rfl⟩

theorem ensures_parseAll_shown (shown : env.Shows system) (files : List Path) :
    (parseAll files : Procedure S _).Ensures env state history
      (fun algorithms _ _ => files.mapM system.entry = .ok algorithms)
      (fun error _ _ => files.mapM system.entry = .error error) := by
  induction files generalizing history with
  | nil => rfl
  | cons file others ih =>
      unfold parseAll
      simp only [ensures_bind, ensures_ask, List.mapM_cons]
      have parsed := shown.parsed history file
      generalize env.answer history (.parse file) = answer at parsed
      cases answer with
      | error reason =>
          have failed : system.entry file = .error (.unparsable file reason) := by
            rw [FileSystem.entry, ← parsed]
          rw [failed]
          rfl
      | ok content =>
          have kept : system.entry file = .ok { content with file } := by
            rw [FileSystem.entry, ← parsed]
          simp only [ensures_bind, ensures_pure, kept]
          apply ih.mono
          · intro algorithms _ _ rest
            rw [rest]
            rfl
          · intro error _ _ failed
            rw [failed]
            rfl

/-- A discovery finds a catalog, or fails and leaves the catalog as it was. -/
structure EndsAs (found : Except Error Catalog) (catalog : Catalog)
    (outcome : Outcome Catalog Unit) : Prop where
  result : outcome.result = found.map fun _ => ()
  state : outcome.state = found.toOption.getD catalog

/-- What discovery finds of a file system does not depend on listing orders. -/
theorem discover_endsAs (config : Config) (catalog : Catalog) (history : History)
    (shown : env.Shows system) (unlisted : catalog.loaded = false) :
    EndsAs (system.catalog (config.candidates env.executableDirectory)) catalog
      ((discover config).run env catalog history) := by
  apply Ensures.whole
  unfold discover FileSystem.catalog
  simp only [ensures_bind, ensures_get, unlisted, Bool.false_eq_true, if_false,
    ensures_executableDirectory]
  apply (ensures_firstOpen_shown shown _).mono
  · rintro found _ past ⟨rfl, first⟩
    rw [← first]
    cases found with
    | none => exact ⟨rfl, rfl⟩
    | some directory =>
        simp only [ensures_bind, ensures_set]
        apply (ensures_filesIn_shown shown directory).mono
        · rintro files _ _ ⟨rfl, listed⟩
          rw [listed]
          apply ((ensures_parseAll_shown shown files).and (ensures_parseAll files)).mono
          · intro algorithms _ _ parsed
            dsimp only [bind, Except.bind]
            rw [parsed.1]
            exact ⟨rfl, rfl⟩
          · intro error _ _ failed
            dsimp only [bind, Except.bind]
            rw [failed.1]
            exact ⟨rfl, failed.2.1⟩
        · rintro error _ _ ⟨rfl, failed⟩
          rw [failed]
          exact ⟨rfl, rfl⟩
  · exact fun _ _ _ never => never.elim

/-- Where discovery succeeds the paths of the catalog ascend. -/
theorem Discovery.ascending {candidates : List Path} {catalog : Catalog}
    {outcome : Outcome Catalog Unit} (discovery : Discovery candidates catalog history outcome)
    (unlisted : catalog.loaded = false) (succeeded : outcome.result = .ok ()) :
    (outcome.state.algorithms.map (·.file)).Pairwise (· < ·) := by
  cases discovery with
  | known listed =>
      rw [unlisted] at listed
      cases listed
  | missing => cases succeeded
  | unlistable reason => cases succeeded
  | unparsable reason => cases succeeded
  | @filled before others directory entries readings _ parts lists =>
      have paths : (readings.map Reading.entry).map (·.file) = readings.map Reading.file := by
        rw [List.map_map]
        rfl
      show ((readings.map Reading.entry).map (·.file)).Pairwise (· < ·)
      rw [paths]
      exact lists.ascending

/-- Discovery ends in one of five ways: the catalog was filled before, and nothing is called; no
candidate can be opened; the first one that can be opened cannot be listed; a file of it does not
parse, after all files with lesser paths did and before any other is parsed; or all files are
parsed, in the order of their paths, and the catalog has one entry for each.  In the three ways
that fail the catalog stays as it was.  Of the entries that accept a request the one with the
least path is chosen.  In two environments that show the same file system discovery ends alike,
in whatever orders they list directories. -/
theorem discovery_ignores_order (config : Config) :
    (∀ env catalog history, Discovery (config.candidates env.executableDirectory) catalog history
      ((discover config).run env catalog history)) ∧
    (∀ env catalog history, catalog.loaded = false →
      ((discover config).run env catalog history).result = .ok () → ∀ request entry,
        (((discover config).run env catalog history).state.choice? request = some entry ↔
          request.operation.reduction.pointwise = true ∧
            ((discover config).run env catalog history).state.Leads request entry)) ∧
    ∀ (system : FileSystem) (first second : Environment), first.Shows system → second.Shows system →
      first.executableDirectory = second.executableDirectory → ∀ catalog past other,
        ((discover config).run first catalog past).result =
          ((discover config).run second catalog other).result ∧
        ((discover config).run first catalog past).state =
          ((discover config).run second catalog other).state := by
  refine ⟨discovers config, ?_, ?_⟩
  · intro env catalog history unlisted succeeded request entry
    exact choice?_eq_some_iff ((discovers config env catalog history).ascending unlisted succeeded)
  · intro system first second shownFirst shownSecond place catalog past other
    cases listed : catalog.loaded with
    | true =>
        rw [run_discover_of_loaded config first past listed,
          run_discover_of_loaded config second other listed]
        exact ⟨rfl, rfl⟩
    | false =>
        have one := discover_endsAs config catalog past shownFirst listed
        have two := discover_endsAs config catalog other shownSecond listed
        rw [place] at one
        exact ⟨one.result.trans two.result.symm, one.state.trans two.state.symm⟩

end Catalog

/-- The environment that shows a file system and arranges what it lists. -/
def FileSystem.arranged (system : FileSystem)
    (arrange : List DirectoryEntry → List DirectoryEntry) : Environment :=
  .inOrder fun
    | _, .openDirectory directory => system.opens directory
    | _, .listDirectory directory => (system.listing directory).map arrange
    | _, .parse file => system.content file
    | history, call => (Environment.obliging (Sample.algorithm .allReduce)).answer history call

theorem FileSystem.shows_arranged (system : FileSystem)
    {arrange : List DirectoryEntry → List DirectoryEntry}
    (perm : ∀ entries, (arrange entries).Perm entries) :
    (system.arranged arrange).Shows system where
  opened _ _ := rfl
  listed _ _ entries listing :=
    ⟨arrange entries, congrArg (Except.map arrange) listing, perm entries⟩
  unlisted _ _ _ listing := congrArg (Except.map arrange) listing
  parsed _ _ := rfl

namespace Sample

/-- One directory can be opened.  It has a file, a link whose path is less, and something else. -/
def shelf : FileSystem where
  opens directory := directory = ⟨[2]⟩
  listing _ := .ok [⟨[1], .file⟩, ⟨[3], .other⟩, ⟨[0], .link⟩]
  content _ := .ok (algorithm .allReduce)

/-- Three directories are searched, the one that can be opened last. -/
def searching : Config where
  schedulerPath := ⟨[]⟩
  installDirectory := some ⟨[4]⟩
  packageDirectory := some ⟨[2]⟩

/-- In either order the same is found, and the link has the least path of what accepts the
request. -/
theorem chosen_in_either_order :
    ((Catalog.discover searching).run (shelf.arranged List.reverse) {} []).state.Leads
      ((comm 1 0).request allReduce) { algorithm .allReduce with file := ⟨[2, 47, 0]⟩ } ∧
    ((Catalog.discover searching).run (shelf.arranged id) {} []).state =
      ((Catalog.discover searching).run (shelf.arranged List.reverse) {} []).state := by
  obtain ⟨-, chosen, alike⟩ := Catalog.discovery_ignores_order searching
  have forward : (shelf.arranged id).Shows shelf :=
    shelf.shows_arranged fun entries => .refl entries
  have backward := shelf.shows_arranged List.reverse_perm
  constructor
  · have chooses := chosen (shelf.arranged List.reverse) {} [] rfl (by decide +kernel)
      ((comm 1 0).request allReduce) { algorithm .allReduce with file := ⟨[2, 47, 0]⟩ }
    exact (chooses.mp (by decide +kernel)).2
  · exact (alike shelf _ _ forward backward rfl {} [] []).2

end Sample

end Collective
