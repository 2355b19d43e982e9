import DocAudit.Proofs.Files.FileSystems

/-!
# Absolute paths

A path can be spelled out from the root directory, with a slash at its end. If that leads somewhere,
the path itself leads there as well: the working directory is a directory that no link leads to, so
going down to it takes a step for each of its names and nothing else, and the slash at the end asks
for nothing but a directory.
-/

namespace DocAudit

/-! ## Lengths -/

namespace Text

theorem length_encode_append (text other : Text) : (Utf8.encode (text ++ other)).length =
    (Utf8.encode text).length + (Utf8.encode other).length := by
  rw [Utf8.encode, List.flatMap_append, List.length_append]
  rfl

theorem length_encode_cons (c : Char) (text : Text) :
    (Utf8.encode (c :: text)).length = (Utf8.encodeChar c).length + (Utf8.encode text).length := by
  rw [Utf8.encode, List.flatMap_cons, List.length_append]
  rfl

theorem length_encode_joinWith_le (between : Text) (front pieces : List Text) :
    (Utf8.encode (joinWith between pieces)).length ≤
      (Utf8.encode (joinWith between (front ++ pieces))).length := by
  induction front with
  | nil => exact Nat.le_refl _
  | cons first front ih =>
      refine ih.trans ?_
      rw [List.cons_append]
      cases front ++ pieces with
      | nil => exact Nat.zero_le _
      | cons second others =>
          rw [joinWith_cons_cons, length_encode_append]
          exact Nat.le_add_left _ _

end Text

namespace FileTree

variable {tree : FileTree} {location place : Location} {pending front : List Text} {path : Path}

/-- A path spelled out from the root directory, with a slash at its end. -/
def spelledOut (tree : FileTree) (path : Path) : Path :=
  ⟨.single, tree.start path ++ path.parts ++ [[]]⟩

/-- A slash in front of components and one behind them are two bytes. -/
theorem length_render_slash {parts : List Text} (filled : parts ≠ []) :
    (Text.Utf8.encode (Path.render ⟨.single, parts ++ [[]]⟩)).length =
      (Text.Utf8.encode (Text.joinWith "/" parts)).length + 2 := by
  have slash : (Text.Utf8.encodeChar '/').length = 1 := rfl
  have last : (Text.Utf8.encode "/").length = 1 := rfl
  rw [Path.render, Text.length_encode_cons, Text.joinWith_append_nil filled,
    Text.length_encode_append, slash, last]
  omega

/-- Spelling a path out makes it no shorter, if it has components. -/
theorem length_render_le (filled : path.parts ≠ []) :
    (Text.Utf8.encode path.render).length ≤
      (Text.Utf8.encode (tree.spelledOut path).render).length := by
  have slash : (Text.Utf8.encodeChar '/').length = 1 := rfl
  have longer := Text.length_encode_joinWith_le "/" (tree.start path) path.parts
  rw [spelledOut, length_render_slash (List.append_ne_nil_of_right_ne_nil _ filled)]
  obtain ⟨root, parts⟩ := path
  obtain ⟨first, rest, rfl⟩ := List.exists_cons_of_ne_nil filled
  cases root with
  | relative => exact longer.trans (Nat.le_add_right _ 2)
  | single =>
      rw [Path.render, Text.length_encode_cons, slash]
      omega
  | double =>
      rw [Path.render, Text.length_encode_cons, Text.length_encode_cons, slash]
      omega

/-- A path that leads somewhere when it is spelled out is not too long. -/
theorem not_tooLong_of_spelledOut
    (short : ¬ pathLimit < (Text.Utf8.encode (tree.spelledOut path).render).length) :
    ¬ pathLimit < (Text.Utf8.encode path.render).length := by
  by_cases bare : path.parts = []
  · obtain ⟨root, parts⟩ := path
    subst bare
    cases root <;> decide
  · exact fun long => short (long.trans_le (length_render_le bare))

/-! ## Look-ups -/

/-- A look-up for a directory leads where it leads without the slash at the end. -/
theorem walk_of_slash (steps links : Nat)
    (found : walk tree false steps links place (pending ++ [[]]) = .ok location) :
    walk tree false steps links place pending = .ok location := by
  have reached {place : Location} (directory : ¬ (!tree.isDirectoryAt place) = true) :
      tree.isDirectoryAt place := by
    simpa using directory
  have final {rest : List Text} : ¬ (false && isFinalSlash rest) = true := Bool.false_ne_true
  fun_induction walk tree false steps links place pending with
  | case1 steps links place =>
      cases steps with
      | zero => cases found
      | succ steps =>
          rw [List.nil_append, walk] at found
          split at found
          · cases found
          · rw [if_pos (.inl rfl), walk] at found
            exact found
  | case2 => cases found
  | case3 steps links place name rest outside =>
      rw [List.cons_append, walk, if_pos outside] at found
      cases found
  | case4 steps links place name rest directory blank ih =>
      rw [List.cons_append, walk_blank (reached directory) blank] at found
      exact ih found
  | case5 steps links place rest directory other ih =>
      rw [List.cons_append, walk_up (reached directory)] at found
      exact ih found
  | case6 steps links place name rest directory other up slash => cases slash
  | case7 steps links place name rest directory other up slash long =>
      rw [List.cons_append, walk, if_neg directory, if_neg other, if_neg up, if_neg final,
        if_pos long] at found
      cases found
  | case8 steps links place name rest directory other up slash short free last =>
      exact absurd last.1 Bool.false_ne_true
  | case9 steps links place name rest directory other up slash short free last =>
      rw [List.cons_append, walk_name (reached directory) ⟨other, up, short⟩ final, free] at found
      simp at found
  | case10 steps place name rest directory other up slash short target there =>
      rw [List.cons_append, walk_name (reached directory) ⟨other, up, short⟩ final, there] at found
      cases found
  | case11 steps links place name rest directory other up slash short target there left ih =>
      rw [List.cons_append, walk_link (reached directory) ⟨other, up, short⟩ final there left,
        ← List.append_assoc] at found
      exact ih found
  | case12 steps links place name rest directory other up slash short entry solid there ih =>
      rw [List.cons_append, walk_entry (reached directory) ⟨other, up, short⟩ final there solid]
        at found
      exact ih found

/-- Going down through directories takes one step for each of them. -/
theorem walk_of_directories (steps links : Nat)
    (named : ∀ name ∈ front, Path.IsEntryName name)
    (directories : ∀ names, names <+: front → tree.get? (place ++ names) = some .directory)
    (found : walk tree false (front.length + steps) links place (front ++ pending) = .ok location) :
    walk tree false steps links (place ++ front) pending = .ok location := by
  induction front generalizing place with
  | nil =>
      rw [List.append_nil]
      simpa using found
  | cons name rest ih =>
      obtain ⟨⟨⟨filled, dotless, -⟩, down, -⟩, others⟩ := List.forall_mem_cons.mp named
      have here : tree.isDirectoryAt place := by
        simpa [isDirectoryAt] using directories [] List.nil_prefix
      have next : tree.get? (place ++ [name]) = some .directory :=
        directories [name] (by simp)
      have count : (name :: rest).length + steps = (rest.length + steps) + 1 := by
        rw [List.length_cons]
        omega
      rw [count, List.cons_append, walk, if_neg (by simp [here]),
        if_neg (not_or.mpr ⟨filled, dotless⟩), if_neg down, if_neg (by simp)] at found
      split at found
      · cases found
      · rw [next] at found
        rw [← List.singleton_append, ← List.append_assoc]
        refine ih others (fun names inside => ?_) found
        rw [List.append_assoc]
        exact directories _ (List.cons_prefix_cons.mpr ⟨rfl, inside⟩)

/-- Where a path begins, and on the way there, stand directories with proper names. -/
theorem IsFileSystem.start (system : tree.IsFileSystem) (path : Path) :
    (∀ name ∈ tree.start path, Path.IsEntryName name) ∧
      ∀ names, names <+: tree.start path → tree.get? names = some .directory := by
  rw [FileTree.start]
  split
  · refine ⟨fun _ mem => absurd mem List.not_mem_nil, fun names inside => ?_⟩
    rw [List.prefix_nil.mp inside, get?, if_pos rfl]
  · have entry (below : tree.here ≠ []) : (tree.here, Entry.directory) ∈ tree.entries :=
      mem_entries_of_get? below system.working
    constructor
    · intro name mem
      exact system.named _ (entry (List.ne_nil_of_mem mem)) name mem
    · rintro names ⟨rest, split⟩
      by_cases whole : rest = []
      · rw [whole, List.append_nil] at split
        rw [split]
        exact system.working
      · have below : tree.here ≠ [] := by simp [← split, whole]
        have mem := entry below
        rw [← split] at mem
        exact system.get?_of_prefix whole mem

/-- A path leads where it leads when it is spelled out. -/
theorem IsFileSystem.resolve_of_spelledOut (system : tree.IsFileSystem)
    (resolved : tree.resolve false (tree.spelledOut path) = .ok location) :
    tree.resolve false path = .ok location := by
  rw [resolve] at resolved ⊢
  split at resolved
  · cases resolved
  case isFalse short =>
      rw [if_neg (not_tooLong_of_spelledOut short)]
      obtain ⟨width, narrow, bound⟩ := tree.exists_width
      have enough : tree.walk false (tree.stepBound (tree.spelledOut path).parts) linkLimit []
            (tree.spelledOut path).parts =
          tree.walk false ((tree.start path).length + tree.stepBound path.parts) linkLimit []
            (tree.start path ++ (path.parts ++ [[]])) := by
        rw [spelledOut, List.append_assoc]
        apply walk_eq_of_enough false narrow
        · rw [bound, linkLimit]
          omega
        · simp only [bound, List.length_append, List.length_singleton, linkLimit]
          omega
      obtain ⟨named, directories⟩ := system.start path
      have top : tree.start (tree.spelledOut path) = [] := rfl
      rw [top, enough] at resolved
      exact walk_of_slash _ _ (walk_of_directories _ _ named directories resolved)

end FileTree

end DocAudit
