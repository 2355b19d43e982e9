import DocAudit.Proofs.Settings.Reachable

/-!
# The value of a field after a merge

Merging goes through the options in order, and of several options for one field the last one counts,
under whichever spelling it stands. So every field of the merged settings is known from the options
alone: its value is that of the last option for it that is not null, and if there is none, the value
from before the merge. Options can have values of any kind here.
-/

namespace DocAudit

/-- A value of an option, unless it is null. -/
def OptionValue.given? : OptionValue → Option OptionValue
  | .data .null => none
  | value => some value

theorem OptionValue.given?_of_ne_null {value : OptionValue} (given : value ≠ .data .null) :
    value.given? = some value := by
  rw [given?]
  intro null
  exact given null

namespace Settings

/-- The value of a field, as the change that sets it. -/
def get (settings : Settings) : Field → Change
  | .paramPattern => .paramPattern settings.paramPattern
  | .shortDocWarnings => .shortDocWarnings settings.shortDocWarnings
  | .strictTypes => .strictTypes settings.strictTypes
  | .reporter => .reporter settings.reporter
  | .output => .output settings.output
  | .verbose => .verbose settings.verbose

/-- The value that an option gives to a field. -/
def valueOf? (field : Field) (option : Text × OptionValue) : Option OptionValue :=
  if fieldOf? option.1 = some field then option.2.given? else none

/-- The value of the last option for a field that is not null. -/
def lastGiven? (field : Field) (options : ValueOptions) : Option OptionValue :=
  (options.filterMap (valueOf? field)).getLast?

/-- A field holds a value if there is one, and what it held in other settings if there is none. -/
def Holds (merged settings : Settings) (field : Field) : Option OptionValue → Prop
  | some value => coerceValue field value = .ok (merged.get field)
  | none => merged.get field = settings.get field

variable {settings middle merged other : Settings} {field : Field} {value : OptionValue}
  {change : Change} {option : Text × OptionValue} {options : ValueOptions} {records : List Record}

/-! ## One change -/

/-- A change sets its own field and leaves the others as they are. -/
theorem get_apply (settings : Settings) (change : Change) (field : Field) :
    (change.apply settings).get field =
      if change.field = field then change else settings.get field := by
  cases change <;> cases field <;> rfl

/-- Settings are told by the values of their fields. -/
theorem eq_of_get (same : ∀ field, merged.get field = other.get field) : merged = other := by
  have pattern := Change.paramPattern.inj (same .paramPattern)
  have short := Change.shortDocWarnings.inj (same .shortDocWarnings)
  have strict := Change.strictTypes.inj (same .strictTypes)
  have reporter := Change.reporter.inj (same .reporter)
  have output := Change.output.inj (same .output)
  have verbose := Change.verbose.inj (same .verbose)
  cases merged
  cases other
  simp_all

/-- A structured value becomes a change of the field for which it was read. -/
theorem field_of_coerce {value : Json} (coerced : coerce field value = .ok change) :
    change.field = field := by
  have switch {set : Bool → Change} (sets : ∀ on, (set on).field = field)
      (coerced : coerceSwitch field set value = .ok change) : change.field = field := by
    cases value with
    | bool on =>
        obtain rfl := Except.ok.inj coerced
        exact sets on
    | _ => cases coerced
  cases field with
  | shortDocWarnings | strictTypes | verbose => exact switch (fun _ => rfl) coerced
  | paramPattern =>
      cases value with
      | str source =>
          obtain ⟨pattern, -, rfl⟩ := exists_of_map_eq_ok coerced
          rfl
      | _ => cases coerced
  | reporter =>
      cases value with
      | str label =>
          simp only [coerce] at coerced
          split at coerced
          · obtain rfl := Except.ok.inj coerced
            rfl
          · cases coerced
      | _ => cases coerced
  | output =>
      cases value with
      | str text =>
          cases text with
          | nil => cases coerced
          | cons c rest =>
              obtain rfl := Except.ok.inj coerced
              rfl
      | _ => cases coerced

/-- A value becomes a change of the field for which it was read. -/
theorem field_of_coerceValue (coerced : coerceValue field value = .ok change) :
    change.field = field := by
  cases value with
  | data value => exact field_of_coerce (eq_ok_of_mapError_eq_ok coerced)
  | pattern pattern display =>
      cases field with
      | paramPattern =>
          obtain ⟨checked, -, rfl⟩ := exists_of_map_eq_ok (eq_ok_of_mapError_eq_ok coerced)
          rfl
      | _ => cases coerced
  | path text =>
      cases field with
      | output =>
          simp only [coerceValue] at coerced
          split at coerced
          · cases coerced
          · obtain rfl := Except.ok.inj coerced
            rfl
      | _ => cases coerced
  | other shown => cases field <;> cases coerced

/-! ## One option -/

/-- The change of an option with a value comes from its field. -/
theorem changeOfValue_eq {key : Text} (given : value ≠ .data .null) :
    changeOfValue (key, value) =
      match fieldOf? key with
      | none => .error (.option (.refused (.unknownOption key)))
      | some field => some <$> coerceValue field value := by
  rw [changeOfValue]
  split
  case h_1 null => exact absurd null given
  case h_2 => rfl

/-- Of the values from two merges the later one comes first. -/
theorem Holds.or {later earlier : Option OptionValue} (last : merged.Holds middle field later)
    (first : middle.Holds settings field earlier) :
    merged.Holds settings field (later.or earlier) := by
  cases later with
  | some value => exact last
  | none =>
      cases earlier with
      | some value => exact first.trans (congrArg Except.ok last.symm)
      | none => exact last.trans first

/-- What a field holds is fixed by its value and by what it held before. -/
theorem Holds.get_eq {value : Option OptionValue} (first : merged.Holds settings field value)
    (second : other.Holds settings field value) : merged.get field = other.get field := by
  cases value with
  | some value => exact Except.ok.inj (first.symm.trans second)
  | none => exact first.trans second.symm

theorem holds_of_changeOfValue {change : Option Change} (changed : changeOfValue option = .ok change)
    (settings : Settings) (field : Field) :
    (settings.applyAll change.toList).Holds settings field (valueOf? field option) := by
  obtain ⟨key, value⟩ := option
  by_cases given : value = .data .null
  · subst given
    obtain rfl := Except.ok.inj changed
    rw [valueOf?]
    split <;> rfl
  · rw [changeOfValue_eq given] at changed
    cases known : fieldOf? key with
    | none =>
        rw [known] at changed
        cases changed
    | some own =>
        rw [known] at changed
        obtain ⟨change, coerced, rfl⟩ := exists_of_map_eq_ok changed
        obtain rfl := field_of_coerceValue coerced
        have held : (settings.applyAll [change]).get field =
            if change.field = field then change else settings.get field :=
          get_apply settings change field
        rw [valueOf?, known, OptionValue.given?_of_ne_null given]
        by_cases same : change.field = field
        · subst same
          rw [if_pos rfl] at held ⊢
          exact coerced.trans (congrArg Except.ok held.symm)
        · rw [if_neg same] at held
          rw [if_neg fun equal => same (Option.some.inj equal)]
          exact held

/-! ## All options -/

theorem applyAll_append (settings : Settings) (made more : List Change) :
    settings.applyAll (made ++ more) = (settings.applyAll made).applyAll more :=
  List.foldl_append

theorem lastGiven?_append (field : Field) (front back : ValueOptions) :
    lastGiven? field (front ++ back) = (lastGiven? field back).or (lastGiven? field front) := by
  rw [lastGiven?, List.filterMap_append, List.getLast?_append]
  rfl

theorem lastGiven?_singleton (field : Field) (option : Text × OptionValue) :
    lastGiven? field [option] = valueOf? field option := by
  rw [lastGiven?, List.filterMap_cons]
  cases valueOf? field option <;> rfl

theorem holds_of_changesOfValues {made : List Change} (changed : changesOfValues options = .ok made)
    (settings : Settings) (field : Field) :
    (settings.applyAll made).Holds settings field (lastGiven? field options) := by
  -- The settings vary, because the rest is merged over what the first option has changed.
  induction options generalizing settings made with
  | nil =>
      cases changed
      rfl
  | cons option rest ih =>
      rw [changesOfValues] at changed
      obtain ⟨change, first, changed⟩ := exists_of_bind_eq_ok changed
      obtain ⟨more, others, changed⟩ := exists_of_bind_eq_ok changed
      obtain rfl := Except.ok.inj changed
      rw [← List.singleton_append, lastGiven?_append, lastGiven?_singleton, applyAll_append]
      exact (ih others _).or (holds_of_changeOfValue first settings field)

/-- Every field of merged settings has the last value that the options give it. -/
theorem holds_of_mergeValues (merging : settings.mergeValues options = .ok (merged, records))
    (field : Field) : merged.Holds settings field (lastGiven? field options) := by
  rw [mergeValues] at merging
  obtain ⟨made, changed, merging⟩ := exists_of_bind_eq_ok merging
  obtain rfl : settings.applyAll made = merged := congrArg Prod.fst (Except.ok.inj merging)
  exact holds_of_changesOfValues changed settings field

end Settings

end DocAudit
