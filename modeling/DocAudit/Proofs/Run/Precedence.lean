import DocAudit.Proofs.Run.ExitCode
import DocAudit.Proofs.Settings.Merging

/-!
# Where the settings of a run come from

For every field on its own, the command line comes before the options file, and the options file
before the defaults. A value that does not count is still looked at: an entry of the options file
that is unknown or unusable spoils the settings, also if the command line sets the same field. The
settings are then refused, except for patterns with a defect that is not counted as an error of the
pattern. Those are neither used nor refused, but end the run.
-/

namespace DocAudit

namespace Settings

variable {field : Field} {key : Text} {value : Json}

theorem usable_iff (known : fieldOf? key = some field) :
    Usable (key, value) ↔ ∀ given, value.given? = some given → Accepts field given := by
  by_cases null : value = .null
  · subst null
    constructor
    · intro _ given none
      cases none
    · intro _
      exact .skipped key
  · rw [Json.given?_of_ne_null null]
    constructor
    · intro usable given same
      obtain rfl := Option.some.inj same
      cases usable with
      | skipped => exact absurd rfl null
      | accepted other accepts =>
          obtain rfl := Option.some.inj (known.symm.trans other)
          exact accepts
    · intro accepts
      exact .accepted known (accepts value rfl)

theorem not_usable_iff {option : Text × Json} : ¬ Usable option ↔
    option.2 ≠ .null ∧ ∀ field, fieldOf? option.1 = some field → ¬ Accepts field option.2 := by
  constructor
  · intro unusable
    refine ⟨fun null => unusable ?_, fun field known accepts => unusable (.accepted known accepts)⟩
    obtain ⟨key, value⟩ := option
    obtain rfl : value = .null := null
    exact .skipped key
  · rintro ⟨given, unaccepted⟩ (_ | ⟨known, accepts⟩)
    · exact given rfl
    · exact unaccepted _ known accepts

/-- What is wrong with a pattern. -/
def defect? (source : Text) : Option Pattern.Error :=
  match Pattern.read source with
  | .error error => some error
  | .ok _ => none

theorem read_of_defect {source : Text} {error : Pattern.Error} (found : defect? source = some error) :
    Pattern.read source = .error error := by
  rw [defect?] at found
  split at found
  case h_1 read => rw [read, Option.some.inj found]
  case h_2 => cases found

end Settings

namespace Run

open Settings

variable {tree : FileTree} {arguments : CommandLine.Arguments} {settings merged : Settings}
  {options : Options} {records : List Record} {config : Option Text}

/-! ## The command line as a source -/

/-- What the command line says about a field, null if it says nothing. The echo can only be
switched off, by asking for quiet. -/
def flagOption (arguments : CommandLine.Arguments) : Field → Json
  | .paramPattern => textOption arguments.paramDocPattern
  | .shortDocWarnings => switchOption arguments.shortDocWarnings
  | .strictTypes => switchOption arguments.strictTypes
  | .reporter => reporterOption arguments.reporter
  | .output => textOption arguments.reporterOutput
  | .verbose => switchOption (if arguments.quiet then some false else none)

/-- The value that the command line gives to a field. -/
def flag? (arguments : CommandLine.Arguments) (field : Field) : Option Json :=
  (flagOption arguments field).given?

theorem fieldOf?_name (field : Field) : fieldOf? field.name = some field := by
  cases field <;> decide

/-- The fields in the order in which the command line sets them. -/
def fields : List Field :=
  [.paramPattern, .shortDocWarnings, .strictTypes, .reporter, .output, .verbose]

theorem mem_fields (field : Field) : field ∈ fields := by
  cases field <;> decide

theorem givenOptions_eq (arguments : CommandLine.Arguments) :
    givenOptions arguments = fields.map fun field => (field.name, flagOption arguments field) :=
  rfl

theorem lastValue?_givenOptions (arguments : CommandLine.Arguments) (field : Field) :
    lastValue? field (givenOptions arguments) = flag? arguments field := by
  have value (other : Field) (value : Json) :
      valueFor? field (other.name, value) = if other = field then value.given? else none := by
    rw [valueFor?, fieldOf?_name]
    simp only [Option.some.injEq]
  rw [givenOptions]
  simp only [lastValue?_cons, value]
  cases field <;> simp [flag?, flagOption, lastValue?]

theorem usable_givenOptions_iff : (∀ option ∈ givenOptions arguments, Usable option) ↔
    ∀ field value, flag? arguments field = some value → Accepts field value := by
  constructor
  · intro usable field
    rw [givenOptions_eq] at usable
    have own := List.forall_mem_map.mp usable field (mem_fields field)
    exact (usable_iff (fieldOf?_name field)).mp own
  · intro accepts option mem
    rw [givenOptions_eq] at mem
    obtain ⟨field, -, rfl⟩ := List.mem_map.mp mem
    exact (usable_iff (fieldOf?_name field)).mpr (accepts field)

/-! ## The options file as a source -/

/-- The options of the options file; none if no file is named. -/
def fileOptions (tree : FileTree) (config : Option Text) : Except OptionsFileFailure Options :=
  match config with
  | none => .ok []
  | some [] => .ok []
  | some name => loadOptions tree (Path.ofText name)

theorem fileSettings_of_loaded (loaded : fileOptions tree config = .ok options) :
    fileSettings tree config = mergeInto Settings.default options [] := by
  rcases config with - | name
  · obtain rfl := Except.ok.inj loaded
    rfl
  · cases name with
    | nil =>
        obtain rfl := Except.ok.inj loaded
        rfl
    | cons c rest =>
        rw [fileOptions] at loaded
        · rw [fileSettings, loaded]
          exact List.cons_ne_nil c rest
        · exact List.cons_ne_nil c rest

theorem fileSettings_of_failure {failure : OptionsFileFailure}
    (failed : fileOptions tree config = .error failure) :
    (fileSettings tree config).2 = .error (ofFileFailure failure) := by
  rcases config with - | name
  · cases failed
  · cases name with
    | nil => cases failed
    | cons c rest =>
        rw [fileOptions] at failed
        · rw [fileSettings, failed]
          exact List.cons_ne_nil c rest
        · exact List.cons_ne_nil c rest

theorem exists_merge_of_mergeInto
    (merging : (mergeInto settings options records).2 = .ok merged) :
    ∃ more, settings.merge options = .ok (merged, more) := by
  rw [mergeInto] at merging
  cases result : settings.merge options with
  | error failure =>
      rw [result] at merging
      cases merging
  | ok made =>
      rw [result] at merging
      obtain rfl := Except.ok.inj merging
      exact ⟨made.2, rfl⟩

theorem exists_mergeInto_iff : (∃ merged, (mergeInto settings options records).2 = .ok merged) ↔
    ∀ option ∈ options, Usable option := by
  rw [← exists_merge_iff settings, mergeInto]
  cases settings.merge options with
  | error failure => simp
  | ok made => simp

/-! ## Both sources -/

/-- Settings that a run ends up with come from the defaults by two merges. -/
theorem merges_of_settingsFor (settled : (settingsFor tree arguments).2 = .ok settings) :
    ∃ options middle records, fileOptions tree arguments.config = .ok options ∧
      (mergeInto Settings.default options []).2 = .ok middle ∧
      (mergeInto middle (givenOptions arguments) records).2 = .ok settings := by
  rw [settingsFor] at settled
  cases loaded : fileOptions tree arguments.config with
  | error failure =>
      have failed := fileSettings_of_failure loaded
      rcases found : fileSettings tree arguments.config with ⟨records, result⟩
      rw [found] at failed settled
      obtain rfl : result = .error (ofFileFailure failure) := failed
      cases settled
  | ok options =>
      rw [fileSettings_of_loaded loaded] at settled
      rcases found : mergeInto Settings.default options [] with ⟨records, failure | middle⟩
      · rw [found] at settled
        cases settled
      · rw [found] at settled
        exact ⟨options, middle, records, rfl, congrArg Prod.snd found, settled⟩

/-- There are settings exactly if the options file can be loaded and all options are usable. -/
theorem exists_settingsFor_iff : (∃ settings, (settingsFor tree arguments).2 = .ok settings) ↔
    (∃ options, fileOptions tree arguments.config = .ok options ∧
      ∀ option ∈ options, Usable option) ∧
    ∀ field value, flag? arguments field = some value → Accepts field value := by
  rw [← usable_givenOptions_iff]
  constructor
  · rintro ⟨settings, settled⟩
    obtain ⟨options, middle, records, loaded, first, last⟩ := merges_of_settingsFor settled
    exact ⟨⟨options, loaded, exists_mergeInto_iff.mp ⟨middle, first⟩⟩,
      exists_mergeInto_iff.mp ⟨settings, last⟩⟩
  · rintro ⟨⟨options, loaded, usable⟩, flags⟩
    obtain ⟨middle, first⟩ :
        ∃ middle, (mergeInto Settings.default options []).2 = .ok middle :=
      exists_mergeInto_iff.mpr usable
    rw [settingsFor, fileSettings_of_loaded loaded]
    rcases found : mergeInto Settings.default options [] with ⟨records, result⟩
    rw [found] at first
    obtain rfl : result = .ok middle := first
    exact exists_mergeInto_iff.mpr flags

/-- Inputs that do not give settings: the options file, if its name is not empty, cannot be read as
text, holds no object or holds an entry that is not null and is unknown or not accepted; or a value
on the command line is not accepted. -/
inductive Unusable (tree : FileTree) (arguments : CommandLine.Arguments) : Prop where
  | unread {name : Text} {error : ReadTextError} (named : arguments.config = some name)
      (nonempty : name ≠ []) (failed : tree.readText (Path.ofText name) = .error error)
  | noObject {name text : Text} (named : arguments.config = some name) (nonempty : name ≠ [])
      (read : tree.readText (Path.ofText name) = .ok text)
      (other : ∀ options, Json.read text ≠ .ok (.obj options))
  | entry {name text : Text} {options : Options} {option : Text × Json}
      (named : arguments.config = some name) (nonempty : name ≠ [])
      (read : tree.readText (Path.ofText name) = .ok text)
      (object : Json.read text = .ok (.obj options)) (mem : option ∈ options)
      (given : option.2 ≠ .null)
      (unaccepted : ∀ field, fieldOf? option.1 = some field → ¬ Accepts field option.2)
  | flag {field : Field} {value : Json} (given : flag? arguments field = some value)
      (unaccepted : ¬ Accepts field value)

theorem fileOptions_of_name {name : Text} (nonempty : name ≠ []) :
    fileOptions tree (some name) = loadOptions tree (Path.ofText name) := by
  rw [fileOptions]
  exact nonempty

theorem loadOptions_eq_ok_iff {path : Path} : loadOptions tree path = .ok options ↔
    ∃ text, tree.readText path = .ok text ∧ Json.read text = .ok (.obj options) := by
  constructor
  · intro loaded
    cases read : tree.readText path with
    | error error =>
        rw [loadOptions, read] at loaded
        split at loaded <;> exact absurd loaded (by simp_all)
    | ok text =>
        rw [loadOptions, read] at loaded
        simp only [parseOptions] at loaded
        refine ⟨text, rfl, ?_⟩
        split at loaded
        case h_1 fields whole => rw [whole, Except.ok.inj loaded]
        case h_2 => cases loaded
        case h_3 => split at loaded <;> cases loaded
  · rintro ⟨text, read, whole⟩
    simp only [loadOptions, read, parseOptions, whole]

theorem exists_settingsFor_iff_not_unusable :
    (∃ settings, (settingsFor tree arguments).2 = .ok settings) ↔ ¬ Unusable tree arguments := by
  rw [exists_settingsFor_iff]
  constructor
  · rintro ⟨⟨options, loaded, usable⟩, flags⟩ unusable
    -- Each reason contradicts that the file was loaded or that what it names is accepted.
    cases unusable with
    | unread named nonempty failed =>
        rw [named, fileOptions_of_name nonempty, loadOptions_eq_ok_iff] at loaded
        obtain ⟨text, read, -⟩ := loaded
        cases failed.symm.trans read
    | noObject named nonempty read other =>
        rw [named, fileOptions_of_name nonempty, loadOptions_eq_ok_iff] at loaded
        obtain ⟨text, again, object⟩ := loaded
        obtain rfl := Except.ok.inj (read.symm.trans again)
        exact other options object
    | entry named nonempty read object mem given unaccepted =>
        rw [named, fileOptions_of_name nonempty, loadOptions_eq_ok_iff] at loaded
        obtain ⟨text, again, same⟩ := loaded
        obtain rfl := Except.ok.inj (read.symm.trans again)
        obtain rfl := Json.obj.inj (Except.ok.inj (object.symm.trans same))
        exact not_usable_iff.mpr ⟨given, unaccepted⟩ (usable _ mem)
    | flag given unaccepted => exact unaccepted (flags _ _ given)
  · intro usable
    refine ⟨?_, fun field value given => ?_⟩
    · rcases config : arguments.config with - | name
      · exact ⟨[], rfl, List.forall_mem_nil _⟩
      · by_cases nonempty : name = []
        · subst nonempty
          exact ⟨[], rfl, List.forall_mem_nil _⟩
        · rw [fileOptions_of_name nonempty]
          cases read : tree.readText (Path.ofText name) with
          | error error => exact absurd (.unread config nonempty read) usable
          | ok text =>
              by_cases object : ∃ options, Json.read text = .ok (.obj options)
              · obtain ⟨options, object⟩ := object
                refine ⟨options, loadOptions_eq_ok_iff.mpr ⟨text, read, object⟩, ?_⟩
                intro option mem
                by_cases fine : Usable option
                · exact fine
                · obtain ⟨given, unaccepted⟩ := not_usable_iff.mp fine
                  exact absurd (.entry config nonempty read object mem given unaccepted) usable
              · exact absurd (.noObject config nonempty read (not_exists.mp object)) usable
    · by_cases accepts : Accepts field value
      · exact accepts
      · exact absurd (.flag given accepts) usable

/-- What the settings of a run are made of, and when they are refused. If there are settings, each
field has the value that the command line gives it, else the last value from the options file, else
its default. There are none exactly if some input is unusable, and then they are refused, unless
what ends the run is a null character in the name of the options file, an integer with too many
digits in its text, or a pattern with a defect that is not counted as an error of the pattern. -/
theorem settings_from_sources (tree : FileTree) (arguments : CommandLine.Arguments) :
    (∀ settings, (settingsFor tree arguments).2 = .ok settings →
      ∃ options, fileOptions tree arguments.config = .ok options ∧
        ∀ field, settings.Takes Settings.default field
          ((flag? arguments field).or (lastValue? field options))) ∧
    ((∃ settings, (settingsFor tree arguments).2 = .ok settings) ↔ ¬ Unusable tree arguments) ∧
    ((∃ error, (settingsFor tree arguments).2 = .error (.refused error)) ↔
      Unusable tree arguments ∧ ¬ SettingsEscape tree arguments) := by
  refine ⟨?_, exists_settingsFor_iff_not_unusable, ?_⟩
  · intro settings settled
    obtain ⟨options, middle, records, loaded, first, last⟩ := merges_of_settingsFor settled
    obtain ⟨more, first⟩ := exists_merge_of_mergeInto first
    obtain ⟨others, last⟩ := exists_merge_of_mergeInto last
    refine ⟨options, loaded, fun field => ?_⟩
    have given := takes_of_merge last field
    rw [lastValue?_givenOptions] at given
    exact given.or (takes_of_merge first field)
  · have decided := settingsFor_decides tree arguments
    have usable : (∃ settings, (settingsFor tree arguments).2 = .ok settings) ↔
        ¬ Unusable tree arguments := exists_settingsFor_iff_not_unusable
    cases result : (settingsFor tree arguments).2 with
    | ok settings =>
        have fine := usable.mp ⟨settings, result⟩
        simp [fine]
    | error failure =>
        rw [result] at decided usable
        -- No settings, so something is unusable; whether it is refused is decided by the escape.
        have spoilt : Unusable tree arguments := by simpa using usable
        cases failure with
        | refused error =>
            have fails : ¬ SettingsEscape tree arguments := by
              intro escapes
              cases decided.1.mp escapes
            simp [spoilt, fails]
        | failed failure =>
            have fails : SettingsEscape tree arguments := decided.1.mpr rfl
            simp [fails]

/-- A pattern with flags that exclude each other is no value for its field, but it is not refused. -/
theorem exists_unusable_not_refused :
    let source : Text := "(?a)(?u)(x)(y)"
    let arguments : CommandLine.Arguments := { CommandLine.Arguments.initial with
      targets := ["a.js"], paramDocPattern := .value source }
    let tree : FileTree := ⟨[(["a.js"], .file [])], []⟩
    CommandLine.read ["--param-doc-pattern", source, "a.js"] = .check arguments ∧
      Unusable tree arguments ∧
      ¬ ∃ error, (settingsFor tree arguments).2 = .error (.refused error) := by
  intro source arguments tree
  have failed : Pattern.read source = .error ⟨.conflictingTypeFlags, none⟩ :=
    read_of_defect (by decide +kernel)
  refine ⟨rfl, .flag (show flag? arguments .paramPattern = some (.str source) from rfl) ?_, ?_⟩
  · rintro ⟨read, -⟩
    cases failed.symm.trans read
  · have escapes : SettingsEscape tree arguments := by
      refine .inr ⟨?_, source, rfl, _, failed, rfl⟩
      rintro ⟨name, named, -⟩
      cases named
    rintro ⟨error, refused⟩
    have decided := settingsFor_decides tree arguments
    rw [refused] at decided
    cases decided.1.mp escapes

end Run

end DocAudit
