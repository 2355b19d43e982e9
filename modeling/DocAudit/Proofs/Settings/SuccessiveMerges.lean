import DocAudit.Proofs.Settings.LastValues

/-!
# Merges one after another

Maps of options that are merged one after the other act like one pass over all their options, map by
map: a field holds the last value that it is given, under either of its spellings, and what stands in
front of that value does not matter. A merge fails at the first option that is not null and that its
field does not accept or that has no field, and in the way of that option. Null options are nowhere
looked at.
-/

namespace DocAudit.Settings

/-- Merge maps of options over settings, one after the other. -/
def mergeEach (settings : Settings) (maps : List ValueOptions) : Except ValueFailure Settings :=
  maps.foldlM (fun merged options => Prod.fst <$> merged.mergeValues options) settings

/-- The values that a field accepts: the structured ones of an options file, a pattern with groups
for a type and a description, and any path. -/
inductive AcceptsValue : Field → OptionValue → Prop
  | data {field : Field} {value : Json} (accepts : Accepts field value) :
      AcceptsValue field (.data value)
  | pattern {pattern : Pattern} (display : Text) (groups : 2 ≤ pattern.groups) :
      AcceptsValue .paramPattern (.pattern pattern display)
  | path (text : Text) : AcceptsValue .output (.path text)

/-- The options that can be merged. -/
inductive Mergeable : Text × OptionValue → Prop
  | skipped (key : Text) : Mergeable (key, .data .null)
  | accepted {key : Text} {field : Field} {value : OptionValue}
      (known : fieldOf? key = some field) (accepts : AcceptsValue field value) :
      Mergeable (key, value)

/-- The failure of an option that cannot be merged: its name is unknown, or the value makes no change
to the field. -/
inductive FailsAs : Text × OptionValue → ValueFailure → Prop
  | unknown {key : Text} {value : OptionValue} (given : value ≠ .data .null)
      (unknown : fieldOf? key = none) :
      FailsAs (key, value) (.option (.refused (.unknownOption key)))
  | rejected {key : Text} {field : Field} {value : OptionValue} {failure : ValueFailure}
      (given : value ≠ .data .null) (known : fieldOf? key = some field)
      (rejects : coerceValue field value = .error failure) : FailsAs (key, value) failure

variable {settings merged : Settings} {field : Field} {value : OptionValue}
  {option : Text × OptionValue} {options : ValueOptions} {maps : List ValueOptions}
  {failure : ValueFailure}

/-! ## One option -/

/-- A path is never shown as the empty text. -/
theorem render_ofText_ne_nil (text : Text) : (Path.ofText text).render ≠ [] := by
  intro empty
  have same := Path.ofText_render (Path.proper_ofText text)
  rw [empty] at same
  rw [← same] at empty
  exact absurd empty (by decide)

/-- A field takes exactly the values that it accepts. -/
theorem exists_coerceValue_iff :
    (∃ change, coerceValue field value = .ok change) ↔ AcceptsValue field value := by
  constructor
  · rintro ⟨change, coerced⟩
    cases value with
    | data value =>
        exact .data (exists_coerce_iff.mp ⟨change, eq_ok_of_mapError_eq_ok coerced⟩)
    | pattern pattern display =>
        cases field with
        | paramPattern =>
            obtain ⟨checked, passed, -⟩ :=
              exists_of_map_eq_ok (eq_ok_of_mapError_eq_ok coerced)
            rw [checkGroups] at passed
            split at passed
            · cases passed
            · exact .pattern display (by omega)
        | _ => cases coerced
    | path text =>
        cases field with
        | output => exact .path text
        | _ => cases coerced
    | other shown => cases field <;> cases coerced
  · intro accepts
    cases accepts with
    | data accepts =>
        rw [coerceValue, exists_mapError_eq_ok_iff]
        exact exists_coerce_iff.mpr accepts
    | @pattern pattern display groups =>
        rw [coerceValue, exists_mapError_eq_ok_iff, exists_map_eq_ok_iff]
        exact ⟨pattern, if_neg (by omega)⟩
    | path text => exact ⟨.output (Path.ofText text), if_neg (render_ofText_ne_nil text)⟩

/-- The options that can be merged are those that make a change or are skipped. -/
theorem exists_changeOfValue_iff :
    (∃ change, changeOfValue option = .ok change) ↔ Mergeable option := by
  obtain ⟨key, value⟩ := option
  by_cases given : value = .data .null
  · subst given
    exact ⟨fun _ => .skipped key, fun _ => ⟨none, rfl⟩⟩
  · rw [changeOfValue_eq given]
    constructor
    · intro changed
      cases known : fieldOf? key with
      | none => simp [known] at changed
      | some field =>
          rw [known, exists_map_eq_ok_iff, exists_coerceValue_iff] at changed
          exact .accepted known changed
    · rintro (_ | ⟨known, accepts⟩)
      · exact absurd rfl given
      · rw [known, exists_map_eq_ok_iff, exists_coerceValue_iff]
        exact accepts

theorem changeOfValue_eq_error_iff : changeOfValue option = .error failure ↔
    FailsAs option failure := by
  obtain ⟨key, value⟩ := option
  by_cases given : value = .data .null
  · subst given
    constructor
    · intro failed
      cases failed
    · rintro (⟨given, -⟩ | ⟨given, -⟩) <;> exact absurd rfl given
  · rw [changeOfValue_eq given]
    constructor
    · intro failed
      cases known : fieldOf? key with
      | none =>
          rw [known] at failed
          obtain rfl := Except.error.inj failed
          exact .unknown given known
      | some field =>
          rw [known] at failed
          exact .rejected given known (map_eq_error_iff.mp failed)
    · rintro (⟨-, unknown⟩ | ⟨-, known, rejects⟩)
      · rw [unknown]
      · rw [known]
        exact map_eq_error_iff.mpr rejects

/-- An option cannot be merged if it is not null and no field accepts it. -/
theorem not_mergeable_iff : ¬ Mergeable option ↔ option.2 ≠ .data .null ∧
    ∀ field, fieldOf? option.1 = some field → ¬ AcceptsValue field option.2 := by
  obtain ⟨key, value⟩ := option
  constructor
  · intro unusable
    refine ⟨?_, fun field known accepts => unusable (.accepted known accepts)⟩
    rintro rfl
    exact unusable (.skipped key)
  · rintro ⟨given, unaccepted⟩ (_ | ⟨known, accepts⟩)
    · exact given rfl
    · exact unaccepted _ known accepts

/-! ## One merge -/

theorem exists_mergeValues_iff (settings : Settings) (options : ValueOptions) :
    (∃ merged, settings.mergeValues options = .ok merged) ↔
      ∃ made, changesOfValues options = .ok made := by
  rw [mergeValues]
  cases changesOfValues options <;> simp [bind, Except.bind, pure, Except.pure]

theorem mergeValues_eq_error_iff (settings : Settings) (options : ValueOptions) :
    settings.mergeValues options = .error failure ↔ changesOfValues options = .error failure := by
  rw [mergeValues]
  cases changesOfValues options <;> simp [bind, Except.bind, pure, Except.pure]

/-- All options are merged exactly if each can be. -/
theorem exists_changesOfValues_iff :
    (∃ made, changesOfValues options = .ok made) ↔ ∀ option ∈ options, Mergeable option := by
  induction options with
  | nil => simp [changesOfValues]
  | cons option rest ih =>
      rw [List.forall_mem_cons, ← ih, ← exists_changeOfValue_iff, changesOfValues]
      cases changeOfValue option with
      | error failure => simp [bind, Except.bind]
      | ok change => cases changesOfValues rest <;> simp [bind, Except.bind, pure, Except.pure]

/-- Options fail in the way of the first one that cannot be merged. -/
theorem changesOfValues_eq_error_iff : changesOfValues options = .error failure ↔
    ∃ front option back, options = front ++ option :: back ∧
      (∀ earlier ∈ front, Mergeable earlier) ∧ FailsAs option failure := by
  induction options with
  | nil => simp [changesOfValues]
  | cons first rest ih =>
      rw [changesOfValues]
      cases changed : changeOfValue first with
      | error cause =>
          -- Nothing that can be merged stands in front of a later option.
          have failing : ¬ Mergeable first := by
            rw [← exists_changeOfValue_iff, changed]
            simp
          constructor
          · intro failed
            obtain rfl := Except.error.inj failed
            exact ⟨[], first, rest, rfl, by simp, changeOfValue_eq_error_iff.mp changed⟩
          · rintro ⟨front, option, back, split, earlier, fails⟩
            cases front with
            | nil =>
                obtain ⟨rfl, -⟩ := List.cons.inj split
                rw [← changeOfValue_eq_error_iff, changed] at fails
                rw [Except.error.inj fails]
                rfl
            | cons other front =>
                obtain ⟨rfl, -⟩ := List.cons.inj split
                exact absurd (earlier first List.mem_cons_self) failing
      | ok change =>
          have mergeable : Mergeable first := exists_changeOfValue_iff.mp ⟨change, changed⟩
          have behind : (changesOfValues rest >>= fun others =>
              pure (change.toList ++ others)) = .error failure ↔
                changesOfValues rest = .error failure := by
            cases changesOfValues rest <;> simp [bind, Except.bind, pure, Except.pure]
          refine behind.trans (ih.trans ?_)
          constructor
          · rintro ⟨front, option, back, rfl, earlier, fails⟩
            exact ⟨first :: front, option, back, rfl,
              List.forall_mem_cons.mpr ⟨mergeable, earlier⟩, fails⟩
          · rintro ⟨front, option, back, split, earlier, fails⟩
            cases front with
            | nil =>
                obtain ⟨rfl, -⟩ := List.cons.inj split
                rw [← changeOfValue_eq_error_iff, changed] at fails
                cases fails
            | cons other front =>
                obtain ⟨rfl, rfl⟩ := List.cons.inj split
                exact ⟨front, option, back, rfl, (List.forall_mem_cons.mp earlier).2, fails⟩

/-- Null options make no difference, whatever their names. -/
theorem changesOfValues_filter (options : ValueOptions) :
    changesOfValues (options.filter fun option => option.2.given?.isSome) =
      changesOfValues options := by
  induction options with
  | nil => rfl
  | cons option rest ih =>
      obtain ⟨key, value⟩ := option
      by_cases given : value = .data .null
      · subst given
        rw [List.filter_cons_of_neg (by simp [OptionValue.given?]), ih, changesOfValues]
        cases changesOfValues rest <;> rfl
      · rw [List.filter_cons_of_pos (by rw [OptionValue.given?_of_ne_null given]; rfl),
          changesOfValues, changesOfValues, ih]

theorem mergeValues_filter (settings : Settings) (options : ValueOptions) :
    settings.mergeValues (options.filter fun option => option.2.given?.isSome) =
      settings.mergeValues options := by
  rw [mergeValues, mergeValues, changesOfValues_filter]

/-! ## Several merges -/

theorem mergeEach_cons (settings : Settings) (options : ValueOptions) (rest : List ValueOptions) :
    settings.mergeEach (options :: rest) =
      (Prod.fst <$> settings.mergeValues options) >>= fun merged => merged.mergeEach rest :=
  List.foldlM_cons

/-- Merged settings hold the last values of all options together, by induction on the maps. -/
theorem holds_of_mergeEach (merging : settings.mergeEach maps = .ok merged) (field : Field) :
    merged.Holds settings field (lastGiven? field maps.flatten) := by
  induction maps generalizing settings with
  | nil =>
      obtain rfl := Except.ok.inj merging
      rfl
  | cons options rest ih =>
      rw [mergeEach_cons] at merging
      obtain ⟨middle, first, merging⟩ := exists_of_bind_eq_ok merging
      obtain ⟨⟨_, records⟩, merged, rfl⟩ := exists_of_map_eq_ok first
      rw [List.flatten_cons, lastGiven?_append]
      exact (ih merging).or (holds_of_mergeValues merged field)

theorem exists_mergeEach_iff (settings : Settings) (maps : List ValueOptions) :
    (∃ merged, settings.mergeEach maps = .ok merged) ↔
      ∀ option ∈ maps.flatten, Mergeable option := by
  induction maps generalizing settings with
  | nil => exact ⟨fun _ => by simp, fun _ => ⟨settings, rfl⟩⟩
  | cons options rest ih =>
      rw [List.flatten_cons, List.forall_mem_append, ← exists_changesOfValues_iff,
        ← exists_mergeValues_iff settings, mergeEach_cons]
      cases settings.mergeValues options with
      | error failure => simp [bind, Except.bind, Functor.map, Except.map]
      | ok middle =>
          rw [← ih middle.1]
          simp [bind, Except.bind, Functor.map, Except.map]

/-- Maps of options that are merged one after the other give certain settings exactly if all their
options can be merged and each field holds the last value of all options, taken map by map, that is
not null and has a name of the field, or what it held at the beginning if there is no such value. A
single merge fails exactly if some option is not null and has no field or is not accepted by it; it
fails in the way of the first such option; and null options, whatever their names, change neither
that nor the settings. -/
theorem merges_as_ordered_pass (settings : Settings) (maps : List ValueOptions) :
    (∀ merged, settings.mergeEach maps = .ok merged ↔
      (∀ option ∈ maps.flatten, Mergeable option) ∧
        ∀ field, merged.Holds settings field (lastGiven? field maps.flatten)) ∧
    ∀ options,
      ((∃ failure, settings.mergeValues options = .error failure) ↔
        ∃ option ∈ options, option.2 ≠ .data .null ∧
          ∀ field, fieldOf? option.1 = some field → ¬ AcceptsValue field option.2) ∧
      (∀ failure, settings.mergeValues options = .error failure ↔
        ∃ front option back, options = front ++ option :: back ∧
          (∀ earlier ∈ front, Mergeable earlier) ∧ FailsAs option failure) ∧
      settings.mergeValues (options.filter fun option => option.2.given?.isSome) =
        settings.mergeValues options := by
  refine ⟨fun merged => ⟨fun merging => ?_, ?_⟩, fun options => ⟨?_, fun failure => ?_, ?_⟩⟩
  · exact ⟨(exists_mergeEach_iff settings maps).mp ⟨merged, merging⟩, holds_of_mergeEach merging⟩
  · rintro ⟨mergeable, held⟩
    -- The merge gives some settings, and what their fields hold leaves no choice.
    obtain ⟨other, merging⟩ := (exists_mergeEach_iff settings maps).mpr mergeable
    have same : other = merged :=
      eq_of_get fun field => (holds_of_mergeEach merging field).get_eq (held field)
    rwa [same] at merging
  · have succeeds := (exists_mergeValues_iff settings options).trans exists_changesOfValues_iff
    have fails : (∃ failure, settings.mergeValues options = .error failure) ↔
        ¬ ∃ merged, settings.mergeValues options = .ok merged := by
      cases settings.mergeValues options <;> simp
    rw [fails, succeeds]
    simp only [← not_mergeable_iff, not_forall, exists_prop]
  · exact (mergeValues_eq_error_iff settings options).trans changesOfValues_eq_error_iff
  · exact mergeValues_filter settings options

/-- A later map counts under a spelling that an earlier one has used first, and an unknown name does
not matter as long as its value is null. -/
example : ((Settings.default.mergeEach
    [[("reporter_output", .data (.str "a")), ("verbose", .data (.bool false))],
      [("reporterOutput", .path "b"), ("colour", .data .null)],
      [("reporter_output", .data .null)]]).map (·.output)).toOption = some (Path.ofText "b") := by
  rfl

end DocAudit.Settings
