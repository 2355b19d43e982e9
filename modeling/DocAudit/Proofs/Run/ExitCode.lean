import DocAudit.Proofs.Discovery.Failures
import DocAudit.Proofs.Scan.Reports
import DocAudit.Proofs.Settings.Usable
import DocAudit.Run

/-!
# Exit codes

When a run ends with an exit code, and when with exit code 2. The conditions speak of the inputs of
a run: the words of the command line, the options file, the ignore file, the targets and the file of
the report. Each step of a run has an input that it refuses, which leads to exit code 2, and inputs
on which it fails without refusing them, and then the run has no exit code at all.
-/

namespace DocAudit

/-! ## Null characters -/

/-- A character other than the separator is in a text exactly if it is in one of its pieces. -/
theorem Text.exists_mem_splitOn_iff {separator c : Char} (distinct : c ≠ separator) (text : Text) :
    (∃ piece ∈ splitOn separator text, c ∈ piece) ↔ c ∈ text := by
  fun_induction splitOn separator text with
  | case1 => simp
  | case2 rest ih => simp [ih, distinct]
  | case3 d rest other empty ih =>
      rw [empty] at ih
      simp [← ih]
  | case4 d rest other piece pieces cut ih =>
      rw [cut] at ih
      simp only [List.mem_cons, exists_eq_or_imp] at ih ⊢
      rw [← ih, or_assoc]

namespace FileTree

/-- A path has a null character exactly if its text has one. -/
theorem hasNull_ofText (text : Text) : hasNull (Path.ofText text) ↔ Char.ofNat 0 ∈ text := by
  have distinct : Char.ofNat 0 ≠ '/' := by decide
  rw [← Text.exists_mem_splitOn_iff distinct]
  simp only [hasNull, Path.ofText, Path.partsOf, List.any_eq_true, List.mem_filter,
    List.contains_eq_mem, decide_eq_true_eq]
  constructor
  · rintro ⟨piece, ⟨mem, -⟩, null⟩
    exact ⟨piece, mem, null⟩
  · rintro ⟨piece, mem, null⟩
    refine ⟨piece, ⟨mem, ?_, ?_⟩, null⟩
    · rintro rfl
      exact absurd null List.not_mem_nil
    · rintro rfl
      exact absurd null (by decide)

variable {tree : FileTree} {path : Path}

theorem hasNull_parent (null : hasNull path.parent) : hasNull path := by
  rw [hasNull, List.any_eq_true] at null ⊢
  obtain ⟨part, mem, inside⟩ := null
  exact ⟨part, (List.dropLast_sublist path.parts).subset mem, inside⟩

theorem makeDirectory_eq_nullCharacter_iff (tree : FileTree) (path : Path) :
    tree.makeDirectory path = .error .nullCharacter ↔ hasNull path := by
  rw [makeDirectory]
  cases hasNull path with
  | true => simp
  | false =>
    simp only [Bool.false_eq_true, if_false, iff_false]
    split
    · simp
    · split
      · simp
      · repeat' split
        all_goals simp

theorem ensureDirectory_eq_nullCharacter_iff (tree : FileTree) (path : Path) :
    (tree.ensureDirectory path).2 = .error .nullCharacter ↔ hasNull path := by
  rw [← makeDirectory_eq_nullCharacter_iff tree, ensureDirectory]
  cases tree.makeDirectory path with
  | ok made => simp
  | error error =>
      cases error with
      | nullCharacter => simp
      | refused fault =>
          simp only
          split <;> simp

/-- Making directories meets a null character exactly if the path has one. -/
theorem ensureAncestors_eq_nullCharacter_iff (depth : Nat) (tree : FileTree) (path : Path) :
    (ensureAncestors depth tree path).2 = .error .nullCharacter ↔ hasNull path := by
  induction depth generalizing tree path with
  | zero => exact ensureDirectory_eq_nullCharacter_iff tree path
  | succ depth ih =>
      rw [ensureAncestors]
      split
      · rename_i text made
        have free : ¬ hasNull path := by
          rw [← makeDirectory_eq_nullCharacter_iff tree path, made]
          simp
        split
        · simp [free]
        · split
          · exact ensureDirectory_eq_nullCharacter_iff _ path
          · rename_i failure
            rw [ih]
            exact ⟨fun null => absurd (hasNull_parent null) free, fun null => absurd null free⟩
      · exact ensureDirectory_eq_nullCharacter_iff tree path

end FileTree

/-! ## Settings -/

/-- Whether options that could not be merged are refused. -/
def OptionFailure.isRefusal : OptionFailure → Bool
  | .refused _ => true
  | .fatalPattern _ => false

/-- Whether a failed access is refused by the operating system. -/
def Files.AccessError.isRefusal : Files.AccessError → Bool
  | .refused _ => true
  | .nullCharacter => false

/-- Whether an options file that could not be loaded is refused. -/
def OptionsFileFailure.isRefusal : OptionsFileFailure → Bool
  | .refused _ => true
  | _ => false

namespace Settings

/-- Options that are refused: one is not usable, and the first such one is not fatal. -/
def OptionsRefused (options : Options) : Prop :=
  ¬ FatalOptions options ∧ ∃ option ∈ options, ¬ Usable option

theorem merge_decides (settings : Settings) (options : Options) :
    Decides OptionFailure.isRefusal (FatalOptions options) (OptionsRefused options)
      (settings.merge options) := by
  have refused : (∃ option ∈ options, ¬ Usable option) ↔ ¬ ∀ option ∈ options, Usable option := by
    simp
  rw [OptionsRefused, refused, ← exists_merge_iff settings, ← isFatal_merge_iff settings]
  cases settings.merge options with
  | ok merged => simp [Decides, IsFatal]
  | error failure => cases failure <;> simp [Decides, IsFatal, OptionFailure.isRefusal]

/-- A text that stops being read as JSON at an integer with too many digits. -/
def HasLongInteger (text : Text) : Prop :=
  ∃ error count, Json.read text = .error error ∧ error.cause = .tooManyDigits count

/-- The file of a name cannot be loaded, and this is not refused: the name has a null character, or
the text of the file an integer with too many digits. -/
def LoadEscapes (tree : FileTree) (name : Text) : Prop :=
  Char.ofNat 0 ∈ name ∨ ∃ text, tree.readText (Path.ofText name) = .ok text ∧ HasLongInteger text

/-- The file of a name cannot be loaded, and this is refused: it cannot be read as text, or the text
is no JSON object. -/
def LoadRefused (tree : FileTree) (name : Text) : Prop :=
  Char.ofNat 0 ∉ name ∧ ((∃ error, tree.readText (Path.ofText name) = .error error) ∨
    ∃ text, tree.readText (Path.ofText name) = .ok text ∧ ¬ HasLongInteger text ∧
      ∀ options, Json.read text ≠ .ok (.obj options))

theorem parseOptions_decides (path : Path) (text : Text) :
    Decides OptionsFileFailure.isRefusal (HasLongInteger text)
      (¬ HasLongInteger text ∧ ∀ options, Json.read text ≠ .ok (.obj options))
      (parseOptions path text) := by
  rw [parseOptions, HasLongInteger]
  cases read : Json.read text with
  | error error =>
    cases cause : error.cause <;> simp [Decides, OptionsFileFailure.isRefusal, cause]
  | ok value => cases value <;> simp [Decides, OptionsFileFailure.isRefusal]

theorem loadOptions_decides (tree : FileTree) (name : Text) :
    Decides OptionsFileFailure.isRefusal (LoadEscapes tree name) (LoadRefused tree name)
      (loadOptions tree (Path.ofText name)) := by
  rw [loadOptions, LoadEscapes, LoadRefused, ← FileTree.hasNull_ofText,
    ← FileTree.readText_eq_nullCharacter_iff tree]
  cases read : tree.readText (Path.ofText name) with
  | ok text => simpa [Decides] using parseOptions_decides (Path.ofText name) text
  | error error =>
      cases error with
      | decoding fault => simp [Decides, OptionsFileFailure.isRefusal]
      | access error => cases error <;> simp [Decides, OptionsFileFailure.isRefusal]

end Settings

namespace Run

open Settings

/-- Whether a step that did not succeed refuses its input. -/
def StepFailure.isRefusal {ε : Type} : StepFailure ε → Bool
  | .refused _ => true
  | .failed _ => false

variable {tree : FileTree} {arguments : CommandLine.Arguments}

/-- The options file makes a run fail. -/
def ConfigEscapes (tree : FileTree) (config : Option Text) : Prop :=
  ∃ name, config = some name ∧ name ≠ [] ∧ (LoadEscapes tree name ∨
    ∃ options, loadOptions tree (Path.ofText name) = .ok options ∧ FatalOptions options)

/-- The options file is refused. -/
def ConfigRefused (tree : FileTree) (config : Option Text) : Prop :=
  ∃ name, config = some name ∧ name ≠ [] ∧ (LoadRefused tree name ∨
    ∃ options, loadOptions tree (Path.ofText name) = .ok options ∧ OptionsRefused options)

theorem mergeInto_decides (settings : Settings) (options : Options) (records : List Record) :
    Decides StepFailure.isRefusal (FatalOptions options) (OptionsRefused options)
      (mergeInto settings options records).2 := by
  have decided := merge_decides settings options
  rw [mergeInto]
  cases merged : settings.merge options with
  | ok merged => simp_all [Decides]
  | error failure =>
      cases failure <;>
        simp_all [Decides, ofOptionFailure, StepFailure.isRefusal, OptionFailure.isRefusal]

theorem fileSettings_decides (tree : FileTree) (config : Option Text) :
    Decides StepFailure.isRefusal (ConfigEscapes tree config) (ConfigRefused tree config)
      (fileSettings tree config).2 := by
  rw [ConfigEscapes, ConfigRefused]
  match config with
  | none => simp [fileSettings, Decides]
  | some [] => simp [fileSettings, Decides]
  | some (c :: rest) =>
      have decided := loadOptions_decides tree (c :: rest)
      rw [fileSettings]
      · cases loaded : loadOptions tree (Path.ofText (c :: rest)) with
        | error failure =>
            rw [loaded] at decided
            cases failure <;>
              simp_all [Decides, ofFileFailure, StepFailure.isRefusal, OptionsFileFailure.isRefusal]
        | ok options =>
            rw [loaded] at decided
            have merged := mergeInto_decides Settings.default options []
            simp_all [Decides]
      · simp

/-- Of the options that the command line sets only the pattern can be fatal. It comes first, so no
other option is refused before it. -/
theorem fatalOptions_givenOptions_iff : FatalOptions (givenOptions arguments) ↔
    ∃ source, arguments.paramDocPattern = .value source ∧ FatalPattern source := by
  have pattern : FatalOption (Field.paramPattern.name, textOption arguments.paramDocPattern) ↔
      ∃ source, arguments.paramDocPattern = .value source ∧ FatalPattern source := by
    have known : fieldOf? Field.paramPattern.name = some .paramPattern := by decide
    cases arguments.paramDocPattern <;> simp [FatalOption, known, textOption]
  have others {field : Field} {value : Json} (other : fieldOf? field.name ≠ some .paramPattern) :
      ¬ FatalOption (field.name, value) :=
    fun fatal => other fatal.1
  constructor
  · rintro ⟨front, option, back, split, -, fatal⟩
    have mem : option ∈ givenOptions arguments := by simp [split]
    simp only [givenOptions, List.mem_cons, List.not_mem_nil, or_false] at mem
    rcases mem with rfl | rfl | rfl | rfl | rfl | rfl
    · exact pattern.mp fatal
    all_goals exact absurd fatal (others (by decide))
  · intro fatal
    exact ⟨[], _, _, rfl, by simp, pattern.mpr fatal⟩

/-- The settings of a run make it fail: by the options file, or by the pattern on the command line
if the file is not refused. -/
def SettingsEscape (tree : FileTree) (arguments : CommandLine.Arguments) : Prop :=
  ConfigEscapes tree arguments.config ∨ ¬ ConfigRefused tree arguments.config ∧
    ∃ source, arguments.paramDocPattern = .value source ∧ FatalPattern source

/-- The settings of a run are refused: those of the options file, or those of the command line. -/
def SettingsRefused (tree : FileTree) (arguments : CommandLine.Arguments) : Prop :=
  ConfigRefused tree arguments.config ∨ ¬ ConfigEscapes tree arguments.config ∧
    OptionsRefused (givenOptions arguments)

theorem settingsFor_decides (tree : FileTree) (arguments : CommandLine.Arguments) :
    Decides StepFailure.isRefusal (SettingsEscape tree arguments) (SettingsRefused tree arguments)
      (settingsFor tree arguments).2 := by
  have decided := fileSettings_decides tree arguments.config
  rw [settingsFor, SettingsEscape, SettingsRefused, ← fatalOptions_givenOptions_iff]
  rcases loaded : fileSettings tree arguments.config with ⟨records, failure | settings⟩
  · rw [loaded] at decided
    cases failure <;> simp_all [Decides, StepFailure.isRefusal]
  · rw [loaded] at decided
    have merged := mergeInto_decides settings (givenOptions arguments) records
    simp_all [Decides]

/-! ## Scanning and the report -/

/-- A path whose scan fails: it is too long, or the pattern for tags finds a group in it that ends
before it begins. -/
def PathEscapes (settings : Settings) (tree : FileTree) (path : Path) : Prop :=
  tree.TooLong path ∨ ∃ text, tree.isFile path = .ok true ∧ tree.readText path = .ok text ∧
    Scan.isTangled settings text

theorem exists_scanPath_error_iff (settings : Settings) (tree : FileTree) (path : Path) :
    (∃ failure, ScanFiles.scanPath settings tree path = .error failure) ↔
      PathEscapes settings tree path := by
  rw [PathEscapes, ← FileTree.exists_isFile_error_iff, ← ScanFiles.isTangledAt_iff,
    ScanFiles.scanPath_eq]
  cases tree.isFile path with
  | error fault => exact iff_of_true ⟨.access fault, rfl⟩ (.inl ⟨fault, rfl⟩)
  | ok there =>
      cases ScanFiles.isTangledAt settings tree path with
      | true => exact iff_of_true ⟨.tangledGroups, rfl⟩ (.inr rfl)
      | false =>
          refine iff_of_false ?_ (by simp)
          rintro ⟨failure, failed⟩
          cases failed

theorem exists_scanAll_error_iff (settings : Settings) (tree : FileTree) (paths : List Path) :
    (∃ failure, (ScanFiles.scanAll settings tree paths).2 = .error failure) ↔
      ∃ path ∈ paths, PathEscapes settings tree path := by
  induction paths with
  | nil => simp [ScanFiles.scanAll]
  | cons path rest ih =>
      simp only [List.mem_cons, exists_eq_or_imp]
      rw [← ih, ← exists_scanPath_error_iff, ScanFiles.scanAll]
      cases ScanFiles.scanPath settings tree path with
      | error failure => simp
      | ok outcome =>
          cases others : (ScanFiles.scanAll settings tree rest).2 <;>
            simp [others, Functor.map, Except.map]

/-- The file of the report makes a run fail: its path has a null character, in front of its last
component or behind directories that can be made. -/
def OutputEscapes (tree : FileTree) (path : Path) : Prop :=
  FileTree.hasNull path ∧
    (FileTree.hasNull path.parent ∨ (tree.makeDirectories path.parent).2 = .ok ())

/-- The file of the report is refused: its directory cannot be made, or the file cannot be written
there. -/
def OutputRefused (tree : FileTree) (path : Path) : Prop :=
  (∃ fault, (tree.makeDirectories path.parent).2 = .error (.refused fault)) ∨
    (tree.makeDirectories path.parent).2 = .ok () ∧ FileTree.hasNull path = false ∧
      ∀ location, (tree.makeDirectories path.parent).1.resolve true path = .ok location →
        (tree.makeDirectories path.parent).1.isDirectoryAt location

theorem store_decides (tree : FileTree) (path : Path) (text : Text) :
    Decides Files.AccessError.isRefusal (OutputEscapes tree path) (OutputRefused tree path)
      (Report.store tree path text).2 := by
  have null := FileTree.ensureAncestors_eq_nullCharacter_iff (path.parent.parts.length + 1) tree
    path.parent
  rw [← FileTree.makeDirectories] at null
  have inherited : FileTree.hasNull path.parent → FileTree.hasNull path := FileTree.hasNull_parent
  rw [Report.store, OutputEscapes, OutputRefused]
  rcases made : tree.makeDirectories path.parent with ⟨prepared, error | done⟩
  · rw [made] at null
    cases error with
    | refused fault =>
        simp_all [Decides, Files.AccessError.isRefusal]
    | nullCharacter => simp_all [Decides, Files.AccessError.isRefusal]
  · rw [made] at null
    simp only [FileTree.writeBytes]
    cases free : FileTree.hasNull path with
    | true => simp_all [Decides, Files.AccessError.isRefusal]
    | false =>
        cases resolved : prepared.resolve true path with
        | error reason => simp_all [Decides, Files.AccessError.isRefusal]
        | ok location =>
            by_cases directory : prepared.isDirectoryAt location <;>
              simp_all [Decides, Files.AccessError.isRefusal]

/-- A report is delivered unless its file makes the run fail or is refused. -/
theorem deliver_decides (settings : Settings) (width : Nat) (reports : List FileReport)
    (summary : Summary) (tree : FileTree) :
    Decides Files.AccessError.isRefusal (OutputEscapes tree settings.output)
      (OutputRefused tree settings.output)
      (Report.deliver settings width reports summary tree).result := by
  have decided := store_decides tree settings.output
    (Report.renderAs settings.reporter reports summary)
  rw [Report.deliver]
  rcases stored : Report.store tree settings.output
    (Report.renderAs settings.reporter reports summary) with ⟨after, error | done⟩
  · rw [stored] at decided
    exact decided
  · rw [stored] at decided
    exact decided

/-! ## Whole runs -/

/-- What makes a run with settings fail: the search for files, the scan of one of them, or the file
of the report. -/
def FilesEscape (tree : FileTree) (query : Discovery.Query) (settings : Settings) : Prop :=
  Discovery.Escapes tree query ∨
    ∃ paths, (Discovery.run tree query).2 = .ok paths ∧
      ((∃ path ∈ paths, PathEscapes settings tree path) ∨ OutputEscapes tree settings.output)

/-- What is refused in a run with settings: the root, or the file of the report once all files are
scanned. -/
def FilesRefused (tree : FileTree) (query : Discovery.Query) (settings : Settings) : Prop :=
  Discovery.RootRefused tree query ∨
    ∃ paths, (Discovery.run tree query).2 = .ok paths ∧
      (¬ ∃ path ∈ paths, PathEscapes settings tree path) ∧ OutputRefused tree settings.output

/-- What makes a run of an understood command line end without an exit code. -/
def Escapes (tree : FileTree) (arguments : CommandLine.Arguments) : Prop :=
  SettingsEscape tree arguments ∨
    ∃ settings, (settingsFor tree arguments).2 = .ok settings ∧
      ∀ root, arguments.root = some root → FilesEscape tree (queryOf arguments root) settings

/-- What makes a run of an understood command line end with exit code 2. -/
def Refused (tree : FileTree) (arguments : CommandLine.Arguments) : Prop :=
  SettingsRefused tree arguments ∨
    ∃ settings root, (settingsFor tree arguments).2 = .ok settings ∧
      arguments.root = some root ∧ FilesRefused tree (queryOf arguments root) settings

theorem exitCode_le_one (summary : Summary) (failOn : FailOn) : summary.exitCode failOn ≤ 1 := by
  cases failOn with
  | never => exact Nat.zero_le 1
  | error | warning =>
      rw [Summary.exitCode]
      split <;> omega

/-- What the outcome of a run says about its inputs: there is an exit code exactly if they do not
make the run fail, and it is 2 exactly if they are refused. -/
def Settles (escapes refused : Prop) : Except RunFailure Nat → Prop
  | .ok code => ¬ escapes ∧ code ≤ 2 ∧ (refused ↔ code = 2)
  | .error _ => escapes ∧ ¬ refused

theorem conclude_settles (tree : FileTree) (arguments : CommandLine.Arguments)
    (settings : Settings) (records : List Record) (scanned : Nat) (reports : List FileReport) :
    Settles (OutputEscapes tree settings.output) (OutputRefused tree settings.output)
      (conclude tree arguments settings records scanned reports).outcome := by
  have decided := deliver_decides settings consoleWidth reports
    (Summary.ofReports reports scanned) tree
  have least := exitCode_le_one (Summary.ofReports reports scanned) arguments.failOn
  rw [conclude]
  cases delivered : (Report.deliver settings consoleWidth reports
    (Summary.ofReports reports scanned) tree).result with
  | ok text =>
      rw [delivered] at decided
      simp only [Settles, decided.1, decided.2, false_iff]
      exact ⟨not_false, by omega, by omega⟩
  | error error =>
      rw [delivered] at decided
      cases error <;> simp_all [Settles, Decides, Files.AccessError.isRefusal, refusedCode]

theorem checkFiles_settles (tree : FileTree) (arguments : CommandLine.Arguments) (root : Text)
    (settings : Settings) (records : List Record) :
    Settles (FilesEscape tree (queryOf arguments root) settings)
      (FilesRefused tree (queryOf arguments root) settings)
      (checkFiles tree arguments root settings records).outcome := by
  have decided := Discovery.run_decides tree (queryOf arguments root)
  rw [checkFiles, FilesEscape, FilesRefused]
  rcases found : Discovery.run tree (queryOf arguments root) with ⟨more, failure | paths⟩
  · rw [found] at decided
    cases failure <;>
      simp_all [Settles, Decides, DiscoveryFailure.isRefusal, ofDiscoveryFailure, stopped,
        refusedCode]
  · rw [found] at decided
    have scanned := exists_scanAll_error_iff settings tree paths
    simp only [Except.ok.injEq, exists_eq_left', ← scanned, decided.1, decided.2, false_or]
    rcases result : ScanFiles.scanAll settings tree paths with ⟨scanRecords, failure | reports⟩
    · simp [Settles, stopped]
    · simpa [result] using conclude_settles tree arguments settings
        (records ++ more ++ scanRecords) paths.length reports

theorem check_settles (tree : FileTree) (arguments : CommandLine.Arguments) :
    Settles (Escapes tree arguments) (Refused tree arguments)
      (check tree arguments).outcome := by
  have decided := settingsFor_decides tree arguments
  rw [check, Escapes, Refused]
  rcases found : settingsFor tree arguments with ⟨records, failure | settings⟩
  · rw [found] at decided
    cases failure <;> simp_all [Settles, Decides, StepFailure.isRefusal, stopped, refusedCode]
  · rw [found] at decided
    simp only [Except.ok.injEq, exists_eq_left', exists_and_left, decided.1, decided.2, false_or]
    cases given : arguments.root with
    | none => simp [Settles, stopped]
    | some root => simpa using checkFiles_settles tree arguments root settings records

/-- A run ends with exit code 0, 1 or 2 unless its inputs make a step fail that does not refuse
them, and with exit code 2 exactly if the command line is not understood or some step refuses its
input. -/
theorem exit_code_iff (words : List Text) (tree : FileTree) :
    ((∃ code ≤ 2, (run words tree).outcome = .ok code) ↔
      ∀ arguments, CommandLine.read words = .check arguments → ¬ Escapes tree arguments) ∧
    ((run words tree).outcome = .ok 2 ↔
      ∀ arguments, CommandLine.read words = .check arguments → Refused tree arguments) := by
  rw [run]
  cases request : CommandLine.read words with
  | help => simp [stopped, refusedCode]
  | refuse error => simp [stopped, refusedCode]
  | check arguments =>
      have settled := check_settles tree arguments
      cases outcome : (check tree arguments).outcome with
      | ok code =>
          rw [outcome] at settled
          simp_all [Settles]
      | error failure =>
          rw [outcome] at settled
          simp_all [Settles]

/-- An ignore file with a lone exclamation mark is an input that is not refused: the run has no exit
code. -/
theorem outcome_of_lone_exclamation_mark :
    (run ["a.js"] ⟨[(["a.js"], .file []), ([".gitignore"], .file [33, 10])], []⟩).outcome =
      .error (.badRule (.invalid "!")) :=
  rfl

end Run

end DocAudit
