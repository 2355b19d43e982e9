/-!
# Results of steps

A step gives a value or fails, and steps in a row give a value only if each of them does. These
lemmas take such a row apart. The last one is about an answer that may be missing.
-/

namespace DocAudit

variable {ε α β : Type} {first : Except ε α} {result : β}

theorem exists_of_bind_eq_ok {next : α → Except ε β} (both : first >>= next = .ok result) :
    ∃ value, first = .ok value ∧ next value = .ok result := by
  cases first with
  | error failure => cases both
  | ok value => exact ⟨value, rfl, both⟩

theorem exists_of_map_eq_ok {f : α → β} (mapped : f <$> first = .ok result) :
    ∃ value, first = .ok value ∧ f value = result := by
  cases first with
  | error failure => cases mapped
  | ok value => exact ⟨value, rfl, Except.ok.inj mapped⟩

theorem eq_ok_of_mapError_eq_ok {ε' : Type} {f : ε → ε'} {value : α}
    (mapped : first.mapError f = .ok value) : first = .ok value := by
  cases first with
  | error failure => cases mapped
  | ok value => cases mapped; rfl

theorem map_eq_error_iff {f : α → β} {failure : ε} :
    f <$> first = .error failure ↔ first = .error failure := by
  cases first <;> simp [Functor.map, Except.map]

theorem exists_mapError_eq_ok_iff {ε' : Type} {f : ε → ε'} :
    (∃ value, first.mapError f = .ok value) ↔ ∃ value, first = .ok value := by
  constructor
  · rintro ⟨value, mapped⟩
    exact ⟨value, eq_ok_of_mapError_eq_ok mapped⟩
  · rintro ⟨value, rfl⟩
    exact ⟨value, rfl⟩

theorem mapError_map {ε' : Type} (f : α → β) (g : ε → ε') (first : Except ε α) :
    (f <$> first).mapError g = f <$> first.mapError g := by
  cases first <;> rfl

theorem mapError_bind {ε' : Type} (next : α → Except ε β) (g : ε → ε') (first : Except ε α) :
    (first >>= next).mapError g = first.mapError g >>= fun value => (next value).mapError g := by
  cases first <;> rfl

/-- A result is known if its value is, as reasons for having none are not compared. -/
theorem eq_ok_of_toOption {value : α} (known : first.toOption = some value) :
    first = .ok value := by
  cases first with
  | error failure => cases known
  | ok other => exact congrArg Except.ok (Option.some.inj known)

/-- An answer is told by a property that fixes its value and that some value has unless the answer is
missing. -/
theorem eq_some_iff_of_exists {answer : Option α} {p : α → Prop}
    (fixed : ∀ value, p value → answer = some value) (filled : answer ≠ none → ∃ value, p value)
    (value : α) : answer = some value ↔ p value := by
  constructor
  · rintro rfl
    obtain ⟨other, holds⟩ := filled (Option.some_ne_none value)
    rwa [Option.some.inj (fixed other holds)]
  · exact fixed value

end DocAudit
