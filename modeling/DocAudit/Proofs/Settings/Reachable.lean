import DocAudit.Proofs.Files.Paths
import DocAudit.Proofs.Results
import DocAudit.Proofs.Settings.Usable
import DocAudit.Settings.Values

/-!
# What settings hold after any attempts to merge options

Whatever is merged over the default settings, and whatever of it fails, the settings stay valid:
their pattern has groups for a type and a description, their format is one of the three, and the
path of their report was made from a text that is not empty. A merge adds nothing but the changes of
its options, each of which was checked for its field; this is the step, and the rest is induction on
the attempts.
-/

namespace DocAudit.Settings

/-- The texts that the output path can be made from after some attempts: that of the default path,
and those that the options give for it. -/
inductive OutputText (steps : List ValueOptions) : Text → Prop
  | default : OutputText steps "tmp/output.xml"
  | given {options : ValueOptions} {key text : Text} {value : OptionValue} (step : options ∈ steps)
      (mem : (key, value) ∈ options) (known : fieldOf? key = some .output)
      (reads : value.text? = some text) : OutputText steps text

/-- Settings that some attempts can lead to. -/
structure Valid (steps : List ValueOptions) (settings : Settings) : Prop where
  groups : 2 ≤ settings.paramPattern.groups
  reporter : settings.reporter.name ∈ (["text", "json", "xml"] : List Text)
  output : ∃ text, OutputText steps text ∧ text ≠ [] ∧ settings.output = Path.ofText text

/-- Changes that the options of some attempts can make. -/
def Change.Valid (steps : List ValueOptions) : Change → Prop
  | .paramPattern pattern => 2 ≤ pattern.groups
  | .output path => ∃ text, OutputText steps text ∧ text ≠ [] ∧ path = Path.ofText text
  | .shortDocWarnings _ | .strictTypes _ | .reporter _ | .verbose _ => True

variable {steps : List ValueOptions} {options : ValueOptions} {settings : Settings} {field : Field}
  {key : Text} {value : OptionValue} {change : Change} {made : List Change}

theorem reporter_name_mem (format : Reporter) :
    format.name ∈ (["text", "json", "xml"] : List Text) := by
  cases format <;> decide

/-! ## One value -/

theorem groups_of_checkGroups {pattern checked : Pattern}
    (passed : checkGroups pattern = .ok checked) : 2 ≤ checked.groups := by
  rw [checkGroups] at passed
  split at passed
  · cases passed
  · obtain rfl := Except.ok.inj passed
    omega

theorem groups_of_readParamPattern {source : Text} {pattern : Pattern}
    (read : readParamPattern source = .ok pattern) : 2 ≤ pattern.groups := by
  rw [readParamPattern] at read
  split at read
  · exact groups_of_checkGroups read
  · split at read <;> cases read

theorem Change.valid_of_coerceSwitch {set : Bool → Change} {value : Json}
    (sets : ∀ on, (set on).Valid steps) (coerced : coerceSwitch field set value = .ok change) :
    change.Valid steps := by
  cases value with
  | bool on =>
      obtain rfl := Except.ok.inj coerced
      exact sets on
  | _ => cases coerced

/-- A structured value makes a valid change, if the text of the output path may be its own. -/
theorem Change.valid_of_coerce {value : Json}
    (named : ∀ text, field = .output → value = .str text → OutputText steps text)
    (coerced : coerce field value = .ok change) : change.Valid steps := by
  cases field with
  | paramPattern =>
      cases value with
      | str source =>
          obtain ⟨pattern, read, rfl⟩ := exists_of_map_eq_ok coerced
          exact groups_of_readParamPattern read
      | _ => cases coerced
  | shortDocWarnings | strictTypes | verbose =>
      apply valid_of_coerceSwitch _ coerced
      exact fun _ => True.intro
  | reporter =>
      cases value with
      | str label =>
          rw [coerce] at coerced
          split at coerced
          · obtain rfl := Except.ok.inj coerced
            exact True.intro
          · cases coerced
      | _ => cases coerced
  | output =>
      cases value with
      | str text =>
          cases text with
          | nil => cases coerced
          | cons c rest =>
              obtain rfl := Except.ok.inj coerced
              exact ⟨c :: rest, named _ rfl rfl, List.cons_ne_nil c rest, rfl⟩
      | _ => cases coerced

/-- What an option makes of its value is a valid change. -/
theorem Change.valid_of_coerceValue (step : options ∈ steps) (mem : (key, value) ∈ options)
    (known : fieldOf? key = some field) (coerced : coerceValue field value = .ok change) :
    change.Valid steps := by
  cases value with
  | data value =>
      apply valid_of_coerce _ (eq_ok_of_mapError_eq_ok coerced)
      rintro text rfl rfl
      exact .given step mem known rfl
  | pattern pattern display =>
      cases field with
      | paramPattern =>
          obtain ⟨checked, passed, rfl⟩ :=
            exists_of_map_eq_ok (eq_ok_of_mapError_eq_ok coerced)
          exact groups_of_checkGroups passed
      | _ => cases coerced
  | path text =>
      cases field with
      | output =>
          simp only [coerceValue] at coerced
          split at coerced
          case isTrue => cases coerced
          case isFalse nonempty =>
            obtain rfl := Except.ok.inj coerced
            exact ⟨_, .given step mem known rfl, nonempty,
              (Path.ofText_render (Path.proper_ofText text)).symm⟩
      | _ => cases coerced
  | other shown => cases field <;> cases coerced

/-! ## One attempt -/

/-- The change of an option comes from its value, for the field that the option names. -/
theorem exists_of_changeOfValue {option : Text × OptionValue}
    (changed : changeOfValue option = .ok (some change)) :
    ∃ field, fieldOf? option.1 = some field ∧ coerceValue field option.2 = .ok change := by
  rw [changeOfValue] at changed
  split at changed
  · cases changed
  · split at changed
    · cases changed
    case h_2 field known =>
      obtain ⟨own, coerced, same⟩ := exists_of_map_eq_ok changed
      obtain rfl := Option.some.inj same
      exact ⟨field, known, coerced⟩

/-- Options make the changes that their values make, and no others. -/
theorem exists_of_mem_changesOfValues (changed : changesOfValues options = .ok made)
    (mem : change ∈ made) : ∃ option ∈ options, ∃ field,
      fieldOf? option.1 = some field ∧ coerceValue field option.2 = .ok change := by
  induction options generalizing made with
  | nil =>
      obtain rfl := Except.ok.inj changed
      cases mem
  | cons option rest ih =>
      rw [changesOfValues] at changed
      obtain ⟨own, first, changed⟩ := exists_of_bind_eq_ok changed
      obtain ⟨others, later, changed⟩ := exists_of_bind_eq_ok changed
      obtain rfl := Except.ok.inj changed
      rcases List.mem_append.mp mem with mem | mem
      · obtain rfl := Option.mem_toList.mp mem
        exact ⟨option, List.mem_cons_self, exists_of_changeOfValue first⟩
      · obtain ⟨other, inside, made⟩ := ih later mem
        exact ⟨other, List.mem_cons_of_mem option inside, made⟩

theorem Valid.apply (valid : settings.Valid steps) (changed : change.Valid steps) :
    (change.apply settings).Valid steps := by
  cases change with
  | paramPattern pattern => exact { valid with groups := changed }
  | output path => exact { valid with output := changed }
  | reporter format => exact { valid with reporter := reporter_name_mem format }
  | shortDocWarnings on | strictTypes on | verbose on => exact { valid with }

theorem Valid.applyAll (valid : settings.Valid steps)
    (changed : ∀ change ∈ made, change.Valid steps) : (settings.applyAll made).Valid steps := by
  apply List.foldlRecOn made Change.apply valid
  intro settings valid change mem
  exact valid.apply (changed change mem)

/-- An attempt to merge options keeps settings valid, whether it fails or not. -/
theorem Valid.attempt (valid : settings.Valid steps) (step : options ∈ steps) :
    (settings.attempt options).Valid steps := by
  rw [Settings.attempt]
  split
  case h_1 merged records merging =>
    rw [mergeValues] at merging
    obtain ⟨made, changed, merging⟩ := exists_of_bind_eq_ok merging
    obtain rfl := congrArg Prod.fst (Except.ok.inj merging)
    apply valid.applyAll
    intro change mem
    obtain ⟨⟨key, value⟩, given, field, known, coerced⟩ :=
      exists_of_mem_changesOfValues changed mem
    exact Change.valid_of_coerceValue step given known coerced
  case h_2 => exact valid

/-! ## All attempts -/

theorem valid_default (steps : List ValueOptions) : Settings.default.Valid steps where
  groups := Nat.le_refl 2
  reporter := reporter_name_mem _
  output := ⟨_, .default, by decide, rfl⟩

/-- Settings are valid after any attempts, by induction on these. -/
theorem valid_after (steps : List ValueOptions) : (after steps).Valid steps := by
  apply List.foldlRecOn steps Settings.attempt (valid_default steps)
  intro settings valid options step
  exact valid.attempt step

/-- An attempt that fails leaves everything as it was, also what stood in front of the failure. -/
example :
    let settings := after [[("reporter", .data (.str "json"))],
      [("verbose", .data (.bool false)), ("reporter", .data (.str "pdf"))]]
    (settings.reporter, settings.verbose) = (.json, true) := by
  rfl

/-! ## Structured values -/

/-- A structured value as a value of an option. -/
def ofData (option : Text × Json) : Text × OptionValue :=
  (option.1, .data option.2)

theorem changeOfValue_ofData (option : Text × Json) :
    changeOfValue (ofData option) = (changeOf option).mapError .option := by
  obtain ⟨key, value⟩ := option
  by_cases given : value = .null
  · subst given
    rfl
  · rw [changeOf_eq given, changeOfValue]
    split
    case h_1 null => exact absurd (OptionValue.data.inj null) given
    case h_2 =>
      dsimp only [ofData]
      cases fieldOf? key with
      | none => rfl
      | some field =>
          show some <$> (coerce field value).mapError ValueFailure.option = _
          rw [mapError_map]

theorem changesOfValues_map_ofData (options : Options) :
    changesOfValues (options.map ofData) = (changes options).mapError .option := by
  induction options with
  | nil => rfl
  | cons option rest ih =>
      rw [List.map_cons, changesOfValues, changes, changeOfValue_ofData, mapError_bind]
      congr 1
      funext change
      rw [ih, mapError_bind]
      rfl

/-- On structured values a merge is the one of options from a file. -/
theorem mergeValues_map_ofData (settings : Settings) (options : Options) :
    settings.mergeValues (options.map ofData) = (settings.merge options).mapError .option := by
  rw [mergeValues, merge, changesOfValues_map_ofData, mapError_bind]
  rfl

end DocAudit.Settings
