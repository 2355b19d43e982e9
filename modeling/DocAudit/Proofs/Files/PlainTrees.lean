import DocAudit.Proofs.Files.Paths
import DocAudit.Proofs.Files.Writing

/-!
# File trees without links

Where no link is in the way, a path leads to the location that its components spell: double dots
drop a component and every other component is added. Looking the path up, which asks whether each
component is there, and telling which location identifies it, which does not ask, agree on that.
-/

namespace DocAudit

/-- A name that an entry of a directory can have: a component of a path that does not lead out of
the directory and has no null character. -/
def Path.IsEntryName (name : Text) : Prop :=
  IsPart name ∧ name ≠ ['.', '.'] ∧ Char.ofNat 0 ∉ name

instance (name : Text) : Decidable (Path.IsEntryName name) :=
  inferInstanceAs (Decidable (_ ∧ _ ∧ _))

/-- Whether an entry is a link. -/
def Entry.isLink : Entry → Bool
  | .link _ => true
  | _ => false

namespace FileTree

/-- A file tree without links in which every entry has a name of its directory. -/
structure IsPlain (tree : FileTree) : Prop where
  linkless : ∀ entry ∈ tree.entries, entry.2.isLink = false
  named : ∀ entry ∈ tree.entries, ∀ name ∈ entry.1, Path.IsEntryName name

/-- Where components lead from a location if there are no links. -/
def enter : Location → List Text → Location
  | location, [] => location
  | location, name :: rest =>
    if name = [] ∨ name = ['.'] then enter location rest
    else if name = ['.', '.'] then enter location.dropLast rest
    else enter (location ++ [name]) rest

variable {tree : FileTree} {location place : Location} {names rest : List Text} {path : Path}
  {entry : Entry}

theorem enter_append (location : Location) (names rest : List Text) :
    enter location (names ++ rest) = enter (enter location names) rest := by
  induction names generalizing location with
  | nil => rfl
  | cons name names ih =>
      rw [List.cons_append, enter, enter]
      split
      · exact ih location
      · split
        · exact ih location.dropLast
        · exact ih (location ++ [name])

/-- Names of entries lead downwards only. -/
theorem enter_of_isEntryName (location : Location)
    (named : ∀ name ∈ names, Path.IsEntryName name) : enter location names = location ++ names := by
  induction names generalizing location with
  | nil => exact (List.append_nil location).symm
  | cons name names ih =>
      obtain ⟨⟨⟨filled, dotless, -⟩, down, -⟩, others⟩ := List.forall_mem_cons.mp named
      rw [enter, if_neg (not_or.mpr ⟨filled, dotless⟩), if_neg down, ih _ others,
        List.append_assoc, List.singleton_append]

theorem hasNull_eq_false_of_isEntryName (named : ∀ name ∈ path.parts, Path.IsEntryName name) :
    hasNull path = false := by
  rw [hasNull, List.any_eq_false]
  intro name mem
  simpa using (named name mem).2.2

theorem hasNull_append (path : Path) (names : List Text) :
    hasNull (path.append names) = (hasNull path || hasNull ⟨.single, names⟩) :=
  List.any_append

theorem IsPlain.isLink_of_get? (plain : tree.IsPlain) (found : tree.get? location = some entry) :
    entry.isLink = false := by
  by_cases below : location = []
  · rw [get?, if_pos below] at found
    obtain rfl := Option.some.inj found
    rfl
  · exact plain.linkless _ (mem_entries_of_get? below found)

theorem IsPlain.names_of_get? (plain : tree.IsPlain) (found : tree.get? location = some entry) :
    ∀ name ∈ location, Path.IsEntryName name := by
  by_cases below : location = []
  · rw [below]
    exact fun _ mem => absurd mem List.not_mem_nil
  · exact plain.named _ (mem_entries_of_get? below found)

/-- A look-up ends where the components lead. -/
theorem IsPlain.walk_eq (plain : tree.IsPlain) (create : Bool) (steps links : Nat)
    (found : walk tree create steps links location names = .ok place) :
    place = enter location names := by
  fun_induction walk tree create steps links location names with
  | case1 => exact (Except.ok.inj found).symm
  | case2 | case3 | case6 | case7 | case9 | case10 => cases found
  | case4 steps links location name rest directory skipped ih =>
      rw [enter, if_pos skipped]
      exact ih found
  | case5 steps links location rest directory other ih =>
      rw [enter, if_neg other, if_pos rfl]
      exact ih found
  | case8 steps links location name rest directory other up final short free last =>
      obtain ⟨-, rfl⟩ := last
      rw [enter, if_neg other, if_neg up]
      exact (Except.ok.inj found).symm
  | case11 steps links location name rest directory other up final short target there left ih =>
      cases plain.isLink_of_get? there
  | case12 steps links location name rest directory other up final short entry solid there ih =>
      rw [enter, if_neg other, if_neg up]
      exact ih found

theorem IsPlain.resolve_eq (plain : tree.IsPlain) {create : Bool}
    (found : tree.resolve create path = .ok place) :
    place = enter (tree.start path) path.parts := by
  rw [resolve] at found
  split at found
  · cases found
  · exact plain.walk_eq create _ _ found

theorem IsPlain.canonicalFrom_eq (plain : tree.IsPlain) (location : Location) {steps : Nat}
    (enough : names.length ≤ steps) :
    canonicalFrom tree steps location names = enter location names := by
  induction names generalizing steps location with
  | nil => rw [canonicalFrom, enter]
  | cons name rest ih =>
      obtain ⟨steps, rfl⟩ : ∃ fewer, steps = fewer + 1 :=
        Nat.exists_eq_succ_of_ne_zero (Nat.ne_zero_of_lt enough)
      have room : rest.length ≤ steps := Nat.le_of_succ_le_succ enough
      rw [canonicalFrom, enter]
      split
      · exact ih location room
      · split
        · exact ih location.dropLast room
        · split
          case h_1 target there => cases plain.isLink_of_get? there
          case h_2 => exact ih (location ++ [name]) room

/-- A path without null characters is identified by the location to which its components lead. -/
theorem IsPlain.canonical_eq (plain : tree.IsPlain) (usable : hasNull path = false) :
    tree.canonical path = .ok (enter (tree.start path) path.parts) := by
  rw [canonical, usable, if_neg Bool.false_ne_true, plain.canonicalFrom_eq]
  exact Nat.le_add_right _ _

/-- Names of entries behind a path lead downwards from where the path leads. -/
theorem IsPlain.canonical_append (plain : tree.IsPlain) (usable : hasNull path = false)
    (found : tree.resolve false path = .ok place)
    (named : ∀ name ∈ rest, Path.IsEntryName name) :
    tree.canonical (path.append rest) = .ok (place ++ rest) := by
  have free : hasNull (path.append rest) = false := by
    rw [hasNull_append, usable, Bool.false_or]
    exact hasNull_eq_false_of_isEntryName named
  have start : tree.start (path.append rest) = tree.start path := rfl
  rw [plain.canonical_eq free, start, Path.append, enter_append, ← plain.resolve_eq found,
    enter_of_isEntryName place named]

/-! ## Directories -/

/-- A path denotes a directory exactly if it has no null character and leads to one. -/
theorem isDirectory_eq_true_iff : tree.isDirectory path = .ok true ↔
    hasNull path = false ∧ ∃ location, tree.resolve false path = .ok location ∧
      tree.get? location = some .directory := by
  rw [isDirectory, entry?]
  cases hasNull path with
  | true => simp [bind, Except.bind, pure, Except.pure]
  | false =>
      cases tree.resolve false path with
      | error reason => cases reason <;> simp [bind, Except.bind, pure, Except.pure]
      | ok location => simp [bind, Except.bind, pure, Except.pure]

end FileTree

end DocAudit
