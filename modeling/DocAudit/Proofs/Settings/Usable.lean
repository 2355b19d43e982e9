import DocAudit.Settings.Options

/-!
# Usable options

Which options can be merged over settings, said without the merge: an option is skipped if its
value is null, and is otherwise usable if its field is known and accepts the value. The first option
that is not usable ends the merge. Nearly always it is refused; the exception is a pattern with one
of a few defects that do not count as bad settings.
-/

namespace DocAudit.Settings

/-- The values that a field accepts. -/
inductive Accepts : Field → Json → Prop
  | paramPattern {source : Text} {pattern : Pattern} (read : Pattern.read source = .ok pattern)
      (groups : 2 ≤ pattern.groups) : Accepts .paramPattern (.str source)
  | shortDocWarnings (on : Bool) : Accepts .shortDocWarnings (.bool on)
  | strictTypes (on : Bool) : Accepts .strictTypes (.bool on)
  | verbose (on : Bool) : Accepts .verbose (.bool on)
  | reporter (format : Reporter) : Accepts .reporter (.str format.name)
  | output {text : Text} (nonempty : text ≠ []) : Accepts .output (.str text)

/-- The options that can be merged. -/
inductive Usable : Text × Json → Prop
  | skipped (key : Text) : Usable (key, .null)
  | accepted {key : Text} {field : Field} {value : Json} (known : fieldOf? key = some field)
      (accepts : Accepts field value) : Usable (key, value)

/-- A pattern with a defect that does not count as a bad setting. -/
def FatalPattern (source : Text) : Prop :=
  ∃ error, Pattern.read source = .error error ∧ error.cause.isFatal

/-- An option that gives such a pattern. -/
def FatalOption (option : Text × Json) : Prop :=
  fieldOf? option.1 = some .paramPattern ∧
    ∃ source, option.2 = .str source ∧ FatalPattern source

/-- Options of which the first that is not usable gives such a pattern. -/
def FatalOptions (options : Options) : Prop :=
  ∃ front option back, options = front ++ option :: back ∧ (∀ other ∈ front, Usable other) ∧
    FatalOption option

/-- A merge that cannot be refused but fails. -/
def IsFatal {α : Type} (result : Except OptionFailure α) : Prop :=
  ∃ cause, result = .error (.fatalPattern cause)

theorem exists_map_eq_ok_iff {ε α β : Type} {result : Except ε α} {f : α → β} :
    (∃ b, f <$> result = .ok b) ↔ ∃ a, result = .ok a := by
  cases result <;> simp [Functor.map, Except.map]

theorem isFatal_map_iff {α β : Type} {result : Except OptionFailure α} {f : α → β} :
    IsFatal (f <$> result) ↔ IsFatal result := by
  cases result <;> simp [Functor.map, Except.map, IsFatal]

section

variable {field : Field} {value : Json} {source : Text} {option : Text × Json}

theorem named?_name (format : Reporter) : Reporter.named? format.name = some format := by
  cases format <;> decide

/-- A format that is found has the name it was looked up by. -/
theorem name_of_named? {label : Text} {format : Reporter}
    (found : Reporter.named? label = some format) : label = format.name := by
  have named := List.find?_some found
  simpa using (of_decide_eq_true named).symm

theorem exists_readParamPattern_iff : (∃ pattern, readParamPattern source = .ok pattern) ↔
    ∃ pattern, Pattern.read source = .ok pattern ∧ 2 ≤ pattern.groups := by
  cases read : Pattern.read source with
  | error error =>
      simp only [readParamPattern, read]
      split <;> simp
  | ok pattern =>
      simp only [readParamPattern, read, checkGroups]
      split <;> simp <;> omega

theorem isFatal_readParamPattern_iff : IsFatal (readParamPattern source) ↔ FatalPattern source := by
  cases read : Pattern.read source with
  | error error =>
      simp only [IsFatal, FatalPattern, readParamPattern, read]
      split <;> simp_all
  | ok pattern =>
      simp only [IsFatal, FatalPattern, readParamPattern, read, checkGroups]
      split <;> simp

/-- A field takes exactly the values that it accepts. -/
theorem exists_coerce_iff : (∃ change, coerce field value = .ok change) ↔ Accepts field value := by
  constructor
  · rintro ⟨change, coerced⟩
    cases field with
    | paramPattern =>
        cases value with
        | str source =>
            have usable := exists_map_eq_ok_iff.mp ⟨change, coerced⟩
            obtain ⟨pattern, read, groups⟩ := exists_readParamPattern_iff.mp usable
            exact .paramPattern read groups
        | _ => simp [coerce] at coerced
    | shortDocWarnings =>
        cases value with
        | bool on => exact .shortDocWarnings on
        | _ => simp [coerce, coerceSwitch] at coerced
    | strictTypes =>
        cases value with
        | bool on => exact .strictTypes on
        | _ => simp [coerce, coerceSwitch] at coerced
    | verbose =>
        cases value with
        | bool on => exact .verbose on
        | _ => simp [coerce, coerceSwitch] at coerced
    | reporter =>
        cases value with
        | str label =>
            cases found : Reporter.named? label with
            | none => simp [coerce, found] at coerced
            | some format =>
                rw [name_of_named? found]
                exact .reporter format
        | _ => simp [coerce] at coerced
    | output =>
        cases value with
        | str text =>
            cases text with
            | nil => simp [coerce] at coerced
            | cons c rest => exact .output (List.cons_ne_nil c rest)
        | _ => simp [coerce] at coerced
  · rintro accepts
    cases accepts with
    | paramPattern read groups =>
        exact exists_map_eq_ok_iff.mpr (exists_readParamPattern_iff.mpr ⟨_, read, groups⟩)
    | shortDocWarnings on => exact ⟨.shortDocWarnings on, rfl⟩
    | strictTypes on => exact ⟨.strictTypes on, rfl⟩
    | verbose on => exact ⟨.verbose on, rfl⟩
    | reporter format => exact ⟨.reporter format, by simp [coerce, named?_name]⟩
    | @output text nonempty =>
        obtain ⟨c, rest, rfl⟩ := List.exists_cons_of_ne_nil nonempty
        exact ⟨.output (Path.ofText (c :: rest)), rfl⟩

/-- Only a pattern can be fatal. -/
theorem isFatal_coerce_iff : IsFatal (coerce field value) ↔
    field = .paramPattern ∧ ∃ source, value = .str source ∧ FatalPattern source := by
  cases field with
  | paramPattern =>
      cases value with
      | str source =>
          rw [coerce, isFatal_map_iff, isFatal_readParamPattern_iff]
          simp
      | _ => simp [coerce, IsFatal]
  | shortDocWarnings | strictTypes | verbose =>
      cases value <;> simp [coerce, coerceSwitch, IsFatal]
  | reporter =>
      cases value with
      | str label => cases found : Reporter.named? label <;> simp [coerce, found, IsFatal]
      | _ => simp [coerce, IsFatal]
  | output =>
      cases value with
      | str text => cases text <;> simp [coerce, IsFatal]
      | _ => simp [coerce, IsFatal]

/-- The change of an option with a value comes from its field. -/
theorem changeOf_eq {key : Text} (given : value ≠ .null) :
    changeOf (key, value) =
      match fieldOf? key with
      | none => .error (.refused (.unknownOption key))
      | some field => some <$> coerce field value := by
  cases value <;> first | rfl | exact absurd rfl given

/-- The usable options are those that make a change or are skipped. -/
theorem exists_changeOf_iff : (∃ change, changeOf option = .ok change) ↔ Usable option := by
  obtain ⟨key, value⟩ := option
  by_cases given : value = .null
  · subst given
    exact ⟨fun _ => .skipped key, fun _ => ⟨none, rfl⟩⟩
  · rw [changeOf_eq given]
    constructor
    · intro changed
      cases known : fieldOf? key with
      | none => simp [known] at changed
      | some field =>
          rw [known, exists_map_eq_ok_iff, exists_coerce_iff] at changed
          exact .accepted known changed
    · rintro (_ | ⟨known, accepts⟩)
      · exact absurd rfl given
      · rw [known, exists_map_eq_ok_iff, exists_coerce_iff]
        exact accepts

theorem isFatal_changeOf_iff : IsFatal (changeOf option) ↔ FatalOption option := by
  obtain ⟨key, value⟩ := option
  by_cases given : value = .null
  · subst given
    simp [changeOf, IsFatal, FatalOption]
  · rw [changeOf_eq given, FatalOption]
    cases known : fieldOf? key with
    | none => simp [IsFatal]
    | some field =>
        rw [isFatal_map_iff, isFatal_coerce_iff]
        simp

/-- All options are merged exactly if each is usable. -/
theorem exists_changes_iff {options : Options} :
    (∃ made, changes options = .ok made) ↔ ∀ option ∈ options, Usable option := by
  induction options with
  | nil => simp [changes]
  | cons option rest ih =>
      rw [List.forall_mem_cons, ← ih, ← exists_changeOf_iff, changes]
      cases changeOf option with
      | error failure => simp [bind, Except.bind]
      | ok change => cases changes rest <;> simp [bind, Except.bind, pure, Except.pure]

theorem fatalOptions_cons {rest : Options} : FatalOptions (option :: rest) ↔
    FatalOption option ∨ Usable option ∧ FatalOptions rest := by
  constructor
  · rintro ⟨front, found, back, split, usable, fatal⟩
    cases front with
    | nil =>
        obtain ⟨rfl, -⟩ := List.cons.inj split
        exact .inl fatal
    | cons first front =>
        obtain ⟨rfl, rfl⟩ := List.cons.inj split
        obtain ⟨first, others⟩ := List.forall_mem_cons.mp usable
        exact .inr ⟨first, front, found, back, rfl, others, fatal⟩
  · rintro (fatal | ⟨usable, front, found, back, rfl, others, fatal⟩)
    · exact ⟨[], option, rest, rfl, by simp, fatal⟩
    · exact ⟨option :: front, found, back, rfl, List.forall_mem_cons.mpr ⟨usable, others⟩, fatal⟩

/-- A merge is fatal exactly if the first option that is not usable is. -/
theorem isFatal_changes_iff {options : Options} :
    IsFatal (changes options) ↔ FatalOptions options := by
  induction options with
  | nil => simp [changes, IsFatal, FatalOptions]
  | cons option rest ih =>
      rw [fatalOptions_cons, ← ih, ← isFatal_changeOf_iff, ← exists_changeOf_iff, changes]
      cases changeOf option with
      | error failure => simp [bind, Except.bind, IsFatal]
      | ok change =>
          cases changes rest <;> simp [bind, Except.bind, pure, Except.pure, IsFatal]

/-- What merging options leads to, by the options alone. -/
theorem exists_merge_iff (settings : Settings) (options : Options) :
    (∃ merged, settings.merge options = .ok merged) ↔ ∀ option ∈ options, Usable option := by
  rw [← exists_changes_iff, merge]
  cases changes options <;> simp [bind, Except.bind, pure, Except.pure]

theorem isFatal_merge_iff (settings : Settings) (options : Options) :
    IsFatal (settings.merge options) ↔ FatalOptions options := by
  rw [← isFatal_changes_iff, merge]
  cases changes options <;> simp [bind, Except.bind, pure, Except.pure, IsFatal]

end

end DocAudit.Settings
