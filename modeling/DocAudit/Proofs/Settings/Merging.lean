import DocAudit.Proofs.Settings.LastValues

/-!
# What merged settings hold

Options from a file have structured values only. Merged over settings, they leave in every field the
last value that they give it and that is not null, and if there is none, the value from before the
merge: this is the rule for values of any kind, read for structured ones.
-/

namespace DocAudit

/-- A value, unless it is null. -/
def Json.given? : Json → Option Json
  | .null => none
  | value => some value

theorem Json.given?_of_ne_null {value : Json} (given : value ≠ .null) :
    value.given? = some value := by
  cases value <;> first | rfl | exact absurd rfl given

namespace Settings

/-- The value that an option has for a field. -/
def valueFor? (field : Field) (option : Text × Json) : Option Json :=
  if fieldOf? option.1 = some field then option.2.given? else none

/-- The value of the last option for a field that is not null. -/
def lastValue? (field : Field) (options : Options) : Option Json :=
  (options.filterMap (valueFor? field)).getLast?

/-- A field holds a value if there is one, and what it held in other settings if there is none. -/
def Takes (merged settings : Settings) (field : Field) : Option Json → Prop
  | some value => coerce field value = .ok (merged.get field)
  | none => merged.get field = settings.get field

variable {settings middle merged : Settings} {field : Field} {options : Options}
  {records : List Record}

/-- Of the values from two merges the later one comes first. -/
theorem Takes.or {later earlier : Option Json} (last : merged.Takes middle field later)
    (first : middle.Takes settings field earlier) :
    merged.Takes settings field (later.or earlier) := by
  cases later with
  | some value => exact last
  | none =>
      cases earlier with
      | some value => exact first.trans (congrArg Except.ok last.symm)
      | none => exact last.trans first

theorem lastValue?_cons (field : Field) (option : Text × Json) (rest : Options) :
    lastValue? field (option :: rest) = (lastValue? field rest).or (valueFor? field option) := by
  rw [lastValue?, lastValue?, List.filterMap_cons]
  cases valueFor? field option with
  | none => rw [Option.or_none]
  | some value =>
      rw [List.getLast?_cons]
      cases (rest.filterMap (valueFor? field)).getLast? <;> rfl

/-! ## Structured values among values of any kind -/

theorem valueOf?_ofData (field : Field) (option : Text × Json) :
    valueOf? field (ofData option) = (valueFor? field option).map .data := by
  obtain ⟨key, value⟩ := option
  rw [valueOf?, valueFor?, ofData]
  split
  · cases value <;> rfl
  · rfl

theorem lastGiven?_map_ofData (field : Field) (options : Options) :
    lastGiven? field (options.map ofData) = (lastValue? field options).map .data := by
  rw [lastGiven?, lastValue?, List.filterMap_map, ← List.getLast?_map, List.map_filterMap]
  congr 2
  funext option
  exact valueOf?_ofData field option

/-- Every field of merged settings has the last value that the options give it. -/
theorem takes_of_merge (merging : settings.merge options = .ok (merged, records)) (field : Field) :
    merged.Takes settings field (lastValue? field options) := by
  have among : settings.mergeValues (options.map ofData) = .ok (merged, records) := by
    rw [mergeValues_map_ofData, merging]
    rfl
  have held := holds_of_mergeValues among field
  rw [lastGiven?_map_ofData] at held
  cases last : lastValue? field options with
  | none =>
      rw [last] at held
      exact held
  | some value =>
      rw [last] at held
      exact eq_ok_of_mapError_eq_ok held

end Settings

end DocAudit
