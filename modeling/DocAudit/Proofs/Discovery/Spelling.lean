import DocAudit.Proofs.Discovery.Monotonicity
import DocAudit.Proofs.Files.PlainTrees

/-!
# Two spellings of a directory

A directory below the root can be named as a target from the root or by its absolute path. Both
spellings lead to the same files, but rules are asked about a path only if it begins with the
components of the root as they are spelled. So the ignored files of the directory are left out under
the first spelling, and under the second one only if the root is spelled by its own absolute path,
which a relative root never is.
-/

namespace DocAudit.Discovery

/-- A file below a location, by its names from there, that has a wanted suffix. -/
def IsWanted (tree : FileTree) (query : Query) (location : Location) (names : List Text) : Prop :=
  Path.suffixOf (names.getLast?.getD []) ∈ query.extensions ∧
    ∃ bytes, (names, Entry.file bytes) ∈ tree.below location

/-- The rules ignore what lies below the root under some names. -/
def IsIgnored (rules : Option Ignore.RuleSet) (names : List Text) : Prop :=
  ∃ set, rules = some set ∧ Ignore.ignores set (relativeText names)

/-- A directory below the root of a search, given by its names from there. It can be named as a
target from the root and by its absolute path. -/
structure Subdirectory (tree : FileTree) (root : Path) (top : Location) (names : List Text) :
    Prop where
  resolved : tree.resolve false root = .ok top
  named : ∀ name ∈ names, Path.IsEntryName name
  wildcardFree : ∀ name ∈ top ++ names, hasWildcard name = false
  relative : tree.isDirectory (root.append names) = .ok true
  absolute : tree.isDirectory ⟨.single, top ++ names⟩ = .ok true

/-- The target that names a directory from the root. -/
def relativeTarget (names : List Text) : Text :=
  Path.render ⟨.relative, names⟩

/-- The target that is the absolute path of a directory. -/
def absoluteTarget (location : Location) : Text :=
  Path.render ⟨.single, location⟩

variable {tree : FileTree} {query : Query} {rules : Option Ignore.RuleSet} {target : Text}
  {root path candidate : Path} {paths found : List Path} {records : List Record}
  {top location : Location} {names rest : List Text}

/-! ## Targets without wildcards -/

theorem hasWildcard_joinWith (plain : ∀ name ∈ names, hasWildcard name = false) :
    hasWildcard (Text.joinWith "/" names) = false := by
  rw [hasWildcard, List.any_eq_false]
  intro c mem
  rcases Text.mem_of_mem_joinWith mem with slash | ⟨name, named, inside⟩
  · obtain rfl : c = '/' := by simpa using slash
    decide
  · exact List.any_eq_false.mp (plain name named) c inside

theorem hasWildcard_relativeTarget (plain : ∀ name ∈ names, hasWildcard name = false) :
    hasWildcard (relativeTarget names) = false := by
  cases names with
  | nil => rfl
  | cons name rest => exact hasWildcard_joinWith plain

theorem hasWildcard_absoluteTarget (plain : ∀ name ∈ location, hasWildcard name = false) :
    hasWildcard (absoluteTarget location) = false := by
  have bare := hasWildcard_joinWith plain
  rw [hasWildcard] at bare
  rw [absoluteTarget, Path.render, hasWildcard, List.any_cons, bare]
  rfl

/-! ## What rules are asked about -/

/-- A path is judged by what follows the root in it. -/
theorem ignoredAs?_eq_none_iff : ignoredAs? root rules path = none ↔
    ∀ names, path = root.append names → ¬ IsIgnored rules names := by
  cases rules with
  | none => simp [ignoredAs?, IsIgnored]
  | some set =>
      simp only [← Path.relativeTo?_eq_some_iff]
      cases relative : path.relativeTo? root <;> simp [ignoredAs?, IsIgnored, relative]

theorem append_injective (root : Path) : Function.Injective root.append := by
  intro names others same
  exact List.append_cancel_left (congrArg Path.parts same)

theorem ignoredAs?_append_eq_none_iff :
    ignoredAs? root rules (root.append names) = none ↔ ¬ IsIgnored rules names := by
  simp only [ignoredAs?_eq_none_iff, (append_injective root).eq_iff, forall_eq']

/-- The path of a location begins with the components of a root only if they spell the location of
the root. -/
theorem relativeTo?_eq_none (plain : tree.IsPlain) (resolved : tree.resolve false root = .ok top)
    (named : ∀ name ∈ location, Path.IsEntryName name) (other : root ≠ ⟨.single, top⟩) :
    Path.relativeTo? ⟨.single, location⟩ root = none := by
  rw [Option.eq_none_iff_forall_ne_some]
  intro rest relative
  rw [Path.relativeTo?] at relative
  split at relative
  case isFalse => cases relative
  case isTrue absolute =>
      have split : location = root.parts ++ rest := Path.dropParts_eq_some_iff.mp relative
      have spelt : ∀ name ∈ root.parts, Path.IsEntryName name := by
        intro name mem
        apply named
        rw [split]
        exact List.mem_append_left _ mem
      have reached := plain.resolve_eq resolved
      have single : root.root = .single := absolute.symm
      have start : tree.start root = [] := by
        rw [FileTree.start, Path.isAbsolute, single]
        rfl
      rw [start, FileTree.enter_of_isEntryName [] spelt, List.nil_append] at reached
      apply other
      rw [reached, ← single]

theorem ignoredAs?_absolute_eq_none_iff (plain : tree.IsPlain)
    (resolved : tree.resolve false root = .ok top)
    (named : ∀ name ∈ top ++ names, Path.IsEntryName name) :
    ignoredAs? root rules ⟨.single, top ++ names⟩ = none ↔
      (root = ⟨.single, top⟩ → ¬ IsIgnored rules names) := by
  by_cases spelt : root = ⟨.single, top⟩
  · have extended : (⟨.single, top ++ names⟩ : Path) = root.append names := by
      rw [spelt, Path.append]
    rw [extended, ignoredAs?_append_eq_none_iff]
    exact ⟨fun kept _ => kept, fun kept => kept spelt⟩
  · have never := relativeTo?_eq_none plain resolved named spelt
    refine ⟨fun _ same => absurd same spelt, fun _ => ?_⟩
    cases rules with
    | none => rfl
    | some set => simp [ignoredAs?, never]

/-! ## Searches for one directory -/

/-- The files below a directory are the wanted ones below its location. -/
theorem mem_filesBelow_iff (plain : tree.IsPlain)
    (resolved : tree.resolve false path = .ok location) :
    candidate ∈ filesBelow tree query.extensions path ↔
      ∃ rest, IsWanted tree query location rest ∧ candidate = path.append rest := by
  simp only [filesBelow, resolved, List.mem_map, List.mem_filter, Bool.and_eq_true,
    List.contains_iff_mem]
  constructor
  · rintro ⟨⟨rest, entry⟩, ⟨below, file, wanted⟩, rfl⟩
    cases entry with
    | file bytes => exact ⟨rest, ⟨wanted, bytes, below⟩, rfl⟩
    | directory => cases file
    | link target =>
        obtain ⟨other, inTree, -⟩ := FileTree.exists_of_mem_below below
        cases plain.linkless _ inTree
  · rintro ⟨rest, ⟨wanted, bytes, below⟩, rfl⟩
    exact ⟨(rest, .file bytes), ⟨below, rfl, wanted⟩, rfl⟩

theorem IsWanted.named (plain : tree.IsPlain) (wanted : IsWanted tree query location rest) :
    ∀ name ∈ rest, Path.IsEntryName name := by
  obtain ⟨-, bytes, below⟩ := wanted
  obtain ⟨other, inTree, suffix⟩ := FileTree.exists_of_mem_below below
  exact fun name mem => plain.named _ inTree name (suffix.subset mem)

/-- Without links there is none behind which a name is too long. -/
theorem tooLongBelow?_eq_none (plain : tree.IsPlain) (path : Path) :
    tooLongBelow? tree path = none := by
  rw [Option.eq_none_iff_forall_ne_some]
  intro fault found
  obtain ⟨location, names, link, -, below, -⟩ := exists_tooLongBelow?_iff.mp ⟨fault, found⟩
  obtain ⟨other, inTree, -⟩ := FileTree.exists_of_mem_below below
  cases plain.linkless _ inTree

/-- A search for one directory ends, and finds the wanted files below it that are not ignored. -/
theorem exists_run_of_directory (plain : tree.IsPlain) (loaded : rulesFor tree query = .ok rules)
    (wildcardFree : hasWildcard target = false)
    (spelt : query.root.join (Path.ofText target) = path)
    (directory : tree.isDirectory path = .ok true)
    (resolved : tree.resolve false path = .ok location) :
    ∃ found, (run tree { query with targets := [target] }).2 = .ok found ∧
      ∀ place, LeadsTo tree found place ↔ ∃ rest, IsWanted tree query location rest ∧
        place = location ++ rest ∧ ignoredAs? query.root rules (path.append rest) = none := by
  have usable := (FileTree.isDirectory_eq_true_iff.mp directory).1
  have short := tooLongBelow?_eq_none plain path
  have expanded : expand tree query rules target =
      .ok (keepWanted query.root rules (filesBelow tree query.extensions path)) :=
    expand_of_directory wildcardFree spelt directory short
  have mem_iff (candidate : Path) : candidate ∈ expansion tree query rules target ↔
      (∃ rest, IsWanted tree query location rest ∧ candidate = path.append rest) ∧
        ignoredAs? query.root rules candidate = none := by
    have kept : expansion tree query rules target =
        (keepWanted query.root rules (filesBelow tree query.extensions path)).2 :=
      expansion_of_expand expanded
    rw [kept, mem_keepWanted_iff, mem_filesBelow_iff plain resolved]
  have fine : ¬ TargetEscapes tree query rules target := by
    rw [targetEscapes_iff_of_expand expanded]
    rintro ⟨candidate, mem, null⟩
    obtain ⟨rest, wanted, rfl⟩ :=
      (mem_filesBelow_iff plain resolved).mp (mem_keepWanted_iff.mp mem).1
    have free : FileTree.hasNull ⟨.single, rest⟩ = false :=
      FileTree.hasNull_eq_false_of_isEntryName (wanted.named plain)
    rw [FileTree.hasNull_append, usable, free] at null
    cases null
  have ended := (run_targets_eq_ok_iff [target]).mpr
    ⟨rules, loaded, List.forall_mem_singleton.mpr fine, rfl⟩
  refine ⟨_, ended, fun place => ?_⟩
  rw [leadsTo_withoutRepeats_iff, List.flatMap_singleton]
  constructor
  · rintro ⟨candidate, mem, leads⟩
    obtain ⟨⟨rest, wanted, rfl⟩, kept⟩ := (mem_iff _).mp mem
    rw [plain.canonical_append usable resolved (wanted.named plain)] at leads
    exact ⟨rest, wanted, (Except.ok.inj leads).symm, kept⟩
  · rintro ⟨rest, wanted, rfl, kept⟩
    exact ⟨_, (mem_iff _).mpr ⟨⟨rest, wanted, rfl⟩, kept⟩,
      plain.canonical_append usable resolved (wanted.named plain)⟩

theorem isDirectory_of_rulesFor (loaded : rulesFor tree query = .ok rules) :
    tree.isDirectory query.root = .ok true := by
  rw [rulesFor] at loaded
  split at loaded
  · cases loaded
  · cases loaded
  · assumption

namespace Subdirectory

variable (below : Subdirectory tree query.root top names)

include below

theorem names_of_rulesFor (plain : tree.IsPlain) (loaded : rulesFor tree query = .ok rules) :
    ∀ name ∈ top ++ names, Path.IsEntryName name := by
  obtain ⟨-, location, resolved, directory⟩ :=
    FileTree.isDirectory_eq_true_iff.mp (isDirectory_of_rulesFor loaded)
  obtain rfl := Except.ok.inj (resolved.symm.trans below.resolved)
  exact List.forall_mem_append.mpr ⟨plain.names_of_get? directory, below.named⟩

/-- Named from the root, a directory gives its wanted files without the ignored ones. -/
theorem exists_run_relative (plain : tree.IsPlain) (loaded : rulesFor tree query = .ok rules) :
    ∃ found, (run tree { query with targets := [relativeTarget names] }).2 = .ok found ∧
      ∀ location, LeadsTo tree found location ↔ ∃ rest, IsWanted tree query (top ++ names) rest ∧
        location = top ++ names ++ rest ∧ ¬ IsIgnored rules (names ++ rest) := by
  obtain ⟨-, location, resolved, -⟩ := FileTree.isDirectory_eq_true_iff.mp below.relative
  have reached : location = top ++ names := by
    have start : tree.start (query.root.append names) = tree.start query.root := rfl
    rw [plain.resolve_eq resolved, start, Path.append, FileTree.enter_append,
      ← plain.resolve_eq below.resolved, FileTree.enter_of_isEntryName top below.named]
  subst reached
  have spelt : query.root.join (Path.ofText (relativeTarget names)) = query.root.append names := by
    rw [relativeTarget, Path.ofText_render fun name mem => (below.named name mem).1]
    rfl
  have wildcardFree := hasWildcard_relativeTarget fun name mem =>
    below.wildcardFree name (List.mem_append_right top mem)
  obtain ⟨found, ended, leads⟩ :=
    exists_run_of_directory plain loaded wildcardFree spelt below.relative resolved
  refine ⟨found, ended, fun location => ?_⟩
  rw [leads]
  have extended (rest : List Text) :
      (query.root.append names).append rest = query.root.append (names ++ rest) := by
    simp only [Path.append, List.append_assoc]
  simp only [extended, ignoredAs?_append_eq_none_iff]

/-- Named by its absolute path, a directory gives all its wanted files, unless the root is spelled
by its absolute path too. -/
theorem exists_run_absolute (plain : tree.IsPlain) (loaded : rulesFor tree query = .ok rules) :
    ∃ found, (run tree { query with targets := [absoluteTarget (top ++ names)] }).2 = .ok found ∧
      ∀ location, LeadsTo tree found location ↔ ∃ rest, IsWanted tree query (top ++ names) rest ∧
        location = top ++ names ++ rest ∧
        (query.root = ⟨.single, top⟩ → ¬ IsIgnored rules (names ++ rest)) := by
  have named := below.names_of_rulesFor plain loaded
  obtain ⟨-, location, resolved, -⟩ := FileTree.isDirectory_eq_true_iff.mp below.absolute
  have reached : location = top ++ names :=
    (plain.resolve_eq resolved).trans (FileTree.enter_of_isEntryName [] named)
  subst reached
  have spelt : query.root.join (Path.ofText (absoluteTarget (top ++ names))) =
      ⟨.single, top ++ names⟩ := by
    rw [absoluteTarget, Path.ofText_render fun name mem => (named name mem).1]
    rfl
  obtain ⟨found, ended, leads⟩ := exists_run_of_directory plain loaded
    (hasWildcard_absoluteTarget below.wildcardFree) spelt below.absolute resolved
  refine ⟨found, ended, fun location => ?_⟩
  rw [leads]
  apply exists_congr
  intro rest
  apply and_congr_right
  intro wanted
  apply and_congr_right
  intro _
  have deeper : ∀ name ∈ top ++ (names ++ rest), Path.IsEntryName name := by
    rw [← List.append_assoc]
    exact List.forall_mem_append.mpr ⟨named, wanted.named plain⟩
  have extended : (⟨.single, top ++ names⟩ : Path).append rest =
      ⟨.single, top ++ (names ++ rest)⟩ := by
    rw [Path.append, List.append_assoc]
  rw [extended, ignoredAs?_absolute_eq_none_iff plain below.resolved deeper]

end Subdirectory

/-- In a file tree without links, a directory below the root gives the same locations under both
spellings exactly if the root is spelled by its absolute path or nothing wanted in the directory is
ignored: named from the root it gives the wanted files that are not ignored, and by its absolute
path it gives also the ignored ones, unless the root is spelled that way. -/
theorem spellings_agree_iff (plain : tree.IsPlain)
    (below : Subdirectory tree query.root top names) (loaded : rulesFor tree query = .ok rules) :
    ∃ found others,
      (run tree { query with targets := [relativeTarget names] }).2 = .ok found ∧
      (run tree { query with targets := [absoluteTarget (top ++ names)] }).2 = .ok others ∧
      (∀ location, LeadsTo tree found location ↔
        ∃ rest, IsWanted tree query (top ++ names) rest ∧ location = top ++ names ++ rest ∧
          ¬ IsIgnored rules (names ++ rest)) ∧
      (∀ location, LeadsTo tree others location ↔
        ∃ rest, IsWanted tree query (top ++ names) rest ∧ location = top ++ names ++ rest ∧
          (query.root = ⟨.single, top⟩ → ¬ IsIgnored rules (names ++ rest))) ∧
      ((∀ location, LeadsTo tree found location ↔ LeadsTo tree others location) ↔
        query.root = ⟨.single, top⟩ ∨
          ∀ rest, IsWanted tree query (top ++ names) rest → ¬ IsIgnored rules (names ++ rest)) := by
  obtain ⟨found, ended, leads⟩ := below.exists_run_relative plain loaded
  obtain ⟨others, otherEnded, otherLeads⟩ := below.exists_run_absolute plain loaded
  refine ⟨found, others, ended, otherEnded, leads, otherLeads, ?_, ?_⟩
  · intro same
    by_cases spelt : query.root = ⟨.single, top⟩
    · exact .inl spelt
    · refine .inr fun rest wanted => ?_
      have reached : LeadsTo tree others (top ++ names ++ rest) :=
        (otherLeads _).mpr ⟨rest, wanted, rfl, fun absolute => absurd absolute spelt⟩
      obtain ⟨other, -, again, kept⟩ := (leads _).mp ((same _).mpr reached)
      rwa [List.append_cancel_left again]
  · intro agree location
    rw [leads, otherLeads]
    apply exists_congr
    intro rest
    apply and_congr_right
    intro wanted
    apply and_congr_right
    intro _
    rcases agree with spelt | none
    · exact ⟨fun kept _ => kept, fun kept => kept spelt⟩
    · exact ⟨fun kept _ => kept, fun _ => none rest wanted⟩

/-- A root that is spelled by its absolute path: the rule leaves the file out under both spellings
of its directory. -/
theorem spellings_agree_of_absolute_root :
    let tree : FileTree := ⟨[(["w"], .directory), (["w", "sub"], .directory),
      (["w", "sub", "a.js"], .file []), (["w", "sub", "b.js"], .file []),
      (["w", ".gitignore"], .file (Text.Utf8.encode "b.js\n"))], ["w"]⟩
    let query : Query := ⟨[], Path.ofText "/w", defaultExtensions, true⟩
    ∃ rules found others, rulesFor tree query = .ok rules ∧ IsIgnored rules ["sub", "b.js"] ∧
      (run tree { query with targets := [relativeTarget ["sub"]] }).2 = .ok found ∧
      (run tree { query with targets := [absoluteTarget ["w", "sub"]] }).2 = .ok others ∧
      ∀ location, LeadsTo tree found location ↔ LeadsTo tree others location := by
  intro tree query
  have ruled : ((rulesFor tree query).toOption.bind id).any
      (Ignore.ignores · (relativeText ["sub", "b.js"])) = true := by decide +kernel
  obtain ⟨set, found, ignored⟩ := (Option.any_eq_true _ _).mp ruled
  obtain ⟨rules, loaded, rfl⟩ := Option.bind_eq_some_iff.mp found
  have plain : tree.IsPlain := ⟨by decide, by decide⟩
  have below : Subdirectory tree query.root ["w"] ["sub"] :=
    ⟨by decide, by decide, by decide, by decide, by decide⟩
  obtain ⟨found, others, ended, otherEnded, -, -, agree⟩ :=
    spellings_agree_iff plain below (eq_ok_of_toOption loaded)
  exact ⟨_, found, others, eq_ok_of_toOption loaded, ⟨set, rfl, ignored⟩, ended, otherEnded,
    agree.mpr (.inl rfl)⟩

/-- A relative root: a file that is ignored is left out if its directory is named from the root, and
found if the directory is named by its absolute path. -/
theorem exists_spellings_differ :
    let tree : FileTree := ⟨[(["w"], .directory), (["w", "sub"], .directory),
      (["w", "sub", "a.js"], .file []),
      (["w", ".gitignore"], .file (Text.Utf8.encode "*\n"))], ["w"]⟩
    let query : Query := ⟨[], Path.ofText ".", defaultExtensions, true⟩
    tree.IsPlain ∧ Subdirectory tree query.root ["w"] ["sub"] ∧
      (run tree { query with targets := ["sub"] }).2 = .ok [] ∧
      (run tree { query with targets := ["/w/sub"] }).2 = .ok [Path.ofText "/w/sub/a.js"] ∧
      ¬ ∀ location,
        LeadsTo tree [] location ↔ LeadsTo tree [Path.ofText "/w/sub/a.js"] location := by
  intro tree query
  refine ⟨⟨by decide, by decide⟩, ⟨by decide, by decide, by decide, by decide, by decide⟩,
    eq_ok_of_toOption (by cbv), eq_ok_of_toOption (by cbv), fun same => ?_⟩
  obtain ⟨path, mem, -⟩ := (same ["w", "sub", "a.js"]).mpr ⟨_, List.mem_cons_self, rfl⟩
  exact absurd mem List.not_mem_nil

end DocAudit.Discovery
