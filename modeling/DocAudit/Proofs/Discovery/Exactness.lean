import DocAudit.Proofs.Discovery.Spelling
import DocAudit.Proofs.Files.AbsolutePaths
import DocAudit.Proofs.Files.LinkedFiles
import DocAudit.Proofs.Files.PathOrder

/-!
# Exactly the files of a target

The expansion of a directory or of a target with wildcards is a list in strictly ascending order, so
it is known once its members are. These are told by ways through the file tree and not by the order
of its entries: for a directory the files and links to files that going down leads to, for a target
with wildcards the files that going through links leads to.
-/

namespace DocAudit.Discovery

/-- A regular file, or a link at the location that leads to one. -/
inductive IsFileAt (tree : FileTree) (location : Location) : Entry → Prop
  | file (bytes : List UInt8) : IsFileAt tree location (.file bytes)
  | link {target : Text} {place : Location} {bytes : List UInt8}
      (leads : tree.resolve false ⟨.single, location⟩ = .ok place)
      (there : tree.get? place = some (.file bytes)) : IsFileAt tree location (.link target)

variable {tree : FileTree} {query : Query} {rules : Option Ignore.RuleSet} {target : Text}
  {root path : Path} {paths candidates : List Path} {records : List Record} {location : Location}
  {entry : Entry} {names : List Text}

/-! ## Candidates -/

theorem leadsToFile_iff : leadsToFile tree location entry ↔ IsFileAt tree location entry := by
  cases entry with
  | file bytes => exact iff_of_true rfl (.file bytes)
  | directory => exact iff_of_false Bool.false_ne_true nofun
  | link link =>
      rw [leadsToFile]
      constructor
      · intro leads
        split at leads
        case h_1 place resolved =>
            split at leads
            case h_1 bytes there => exact .link resolved there
            case h_2 => cases leads
        case h_2 => cases leads
      · rintro (_ | ⟨resolved, there⟩)
        rw [resolved]
        simp only [there]

/-- The candidates below a directory, each with the names under which going down leads to it. -/
theorem mem_filesBelow_iff_descends (system : tree.IsFileSystem) {suffixes : List Text}
    (resolved : tree.resolve false root = .ok location) :
    path ∈ filesBelow tree suffixes root ↔
      (∃ names entry, tree.Descends location names entry ∧
        IsFileAt tree (location ++ names) entry ∧ path = root.append names) ∧
      path.suffix ∈ suffixes := by
  simp only [filesBelow, resolved, List.mem_map, List.mem_filter, Bool.and_eq_true,
    List.contains_iff_mem, leadsToFile_iff]
  have suffix_append {names : List Text} {entry : Entry}
      (below : (names, entry) ∈ tree.below location) :
      (root.append names).suffix = Path.suffixOf (names.getLast?.getD []) := by
    have filled := (FileTree.mem_below_iff.mp below).1
    rw [Path.suffix, Path.name, Path.append, List.getLast?_append_of_ne_nil _ filled]
  constructor
  · rintro ⟨⟨names, entry⟩, ⟨below, file, wanted⟩, rfl⟩
    rw [← suffix_append below] at wanted
    exact ⟨⟨names, entry, system.mem_below_iff_descends.mp below, file, rfl⟩, wanted⟩
  · rintro ⟨⟨names, entry, descends, file, rfl⟩, wanted⟩
    have below := system.mem_below_iff_descends.mpr descends
    rw [suffix_append below] at wanted
    exact ⟨(names, entry), ⟨below, file, wanted⟩, rfl⟩

theorem nodup_map_append (root : Path) {entries : List (List Text × Entry)}
    (distinct : (entries.map Prod.fst).Nodup) :
    (entries.map fun entry => root.append entry.1).Nodup := by
  have mapped := distinct.map (append_injective root)
  rwa [List.map_map] at mapped

/-- What is kept of distinct candidates with one kind of root ascends strictly. -/
theorem ascending_keepWanted (distinct : candidates.Nodup) {kind : PathRoot}
    (rooted : ∀ candidate ∈ candidates, candidate.root = kind) :
    Path.Ascending (keepWanted root rules candidates).2 :=
  (Path.ascending_mergeSort distinct rooted).filter _

theorem nodup_filesBelow (system : tree.IsFileSystem) (suffixes : List Text) (root : Path) :
    (filesBelow tree suffixes root).Nodup := by
  rw [filesBelow]
  split
  · exact List.nodup_nil
  · apply nodup_map_append
    exact (system.nodup_below _).sublist (List.filter_sublist.map Prod.fst)

theorem root_of_mem_filesBelow {suffixes : List Text} (mem : path ∈ filesBelow tree suffixes root) :
    path.root = root.root := by
  rw [filesBelow] at mem
  split at mem
  · exact absurd mem List.not_mem_nil
  · obtain ⟨-, -, rfl⟩ := List.mem_map.mp mem
    rfl

/-! ## Targets with wildcards -/

/-- The candidates of a target with wildcards are the files in the tree of the root that its rule
matches, by their names. -/
theorem exists_of_matchingFiles (system : tree.IsFileSystem) (loopless : tree.Loopless)
    (matching : matchingFiles tree root target = .ok candidates) :
    ∃ set location, Ignore.rulesOf [target] = .ok set ∧
      tree.resolve false (walkBase tree root) = .ok location ∧ candidates.Nodup ∧
      ∀ path, path ∈ candidates ↔ ∃ names, tree.Reaches location names ∧
        Ignore.ignores set (relativeText names) ∧ path = root.append names := by
  rw [matchingFiles] at matching
  split at matching
  · cases matching
  case h_2 set loaded =>
      split at matching
      · cases matching
      case h_2 location resolved =>
          obtain rfl := Except.ok.inj matching
          refine ⟨set, location, loaded, resolved, ?_, fun path => ?_⟩
          · exact ((FileTree.nodup_filesThroughLinks system _ _).filter _).map
              (append_injective root)
          · simp only [List.mem_map, List.mem_filter, and_assoc, eq_comm (a := path),
              FileTree.mem_filesThroughLinks_iff system loopless]

/-- Names without double dots stay as they are. -/
theorem collapseDots_of_not_mem (plain : ['.', '.'] ∉ names) : collapseDots names = names := by
  have folded (kept : List Text) : names.foldl
      (fun kept name => if name = ['.', '.'] then kept.drop 1 else name :: kept) kept =
        names.reverse ++ kept := by
    induction names generalizing kept with
    | nil => rfl
    | cons name rest ih =>
        obtain ⟨first, others⟩ := List.ne_and_not_mem_of_not_mem_cons plain
        rw [List.foldl_cons, if_neg (Ne.symm first), ih others]
        simp
  rw [collapseDots, folded, List.append_nil, List.reverse_reverse]

/-- The files of a root without double dots are listed from where the root leads. -/
theorem resolve_of_walkBase (system : tree.IsFileSystem) (plain : ['.', '.'] ∉ root.parts)
    (resolved : tree.resolve false (walkBase tree root) = .ok location) :
    tree.resolve false root = .ok location := by
  have start : ['.', '.'] ∉ tree.start root := fun mem => ((system.start root).1 _ mem).2.1 rfl
  have base : walkBase tree root = tree.spelledOut root := by
    rw [walkBase, FileTree.spelledOut, collapseDots_of_not_mem]
    exact fun mem => (List.mem_append.mp mem).elim start plain
  rw [base] at resolved
  exact system.resolve_of_spelledOut resolved

/-! ## Expansions -/

theorem expansion_of_wildcard (system : tree.IsFileSystem) (loopless : tree.Loopless)
    (matching : matchingFiles tree root target = .ok candidates) :
    ∃ set location, Ignore.rulesOf [target] = .ok set ∧
      tree.resolve false (walkBase tree root) = .ok location ∧
      (['.', '.'] ∉ root.parts → tree.resolve false root = .ok location) ∧
      Path.Ascending (keepWanted root rules candidates).2 ∧
      ∀ path, path ∈ (keepWanted root rules candidates).2 ↔
        ∃ names, tree.Reaches location names ∧ Ignore.ignores set (relativeText names) ∧
          ¬ IsIgnored rules names ∧ path = root.append names := by
  obtain ⟨set, location, loaded, resolved, distinct, members⟩ :=
    exists_of_matchingFiles system loopless matching
  have rooted : ∀ candidate ∈ candidates, candidate.root = root.root := by
    intro candidate mem
    obtain ⟨names, -, -, rfl⟩ := (members candidate).mp mem
    rfl
  refine ⟨set, location, loaded, resolved, fun plain => resolve_of_walkBase system plain resolved,
    ascending_keepWanted distinct rooted, fun path => ?_⟩
  rw [mem_keepWanted_iff, members]
  constructor
  · rintro ⟨⟨names, reaches, matched, rfl⟩, kept⟩
    exact ⟨names, reaches, matched, ignoredAs?_append_eq_none_iff.mp kept, rfl⟩
  · rintro ⟨names, reaches, matched, kept, rfl⟩
    exact ⟨⟨names, reaches, matched, rfl⟩, ignoredAs?_append_eq_none_iff.mpr kept⟩

theorem expansion_of_directory (system : tree.IsFileSystem) {suffixes : List Text}
    {directory : Path} (resolved : tree.resolve false directory = .ok location) :
    Path.Ascending (keepWanted root rules (filesBelow tree suffixes directory)).2 ∧
      ∀ path, path ∈ (keepWanted root rules (filesBelow tree suffixes directory)).2 ↔
        (∃ names entry, tree.Descends location names entry ∧
          IsFileAt tree (location ++ names) entry ∧ path = directory.append names) ∧
        path.suffix ∈ suffixes ∧ ∀ rest, path = root.append rest → ¬ IsIgnored rules rest := by
  refine ⟨ascending_keepWanted (nodup_filesBelow system _ _) fun _ => root_of_mem_filesBelow,
    fun path => ?_⟩
  rw [mem_keepWanted_iff, mem_filesBelow_iff_descends system resolved, ignoredAs?_eq_none_iff,
    and_assoc]

/-- In a file system without loops, the expansion of a target is strictly ascending and holds
exactly the right files. A target with wildcards stands for the files in the tree of the root,
reached through links as well, that it matches as a rule and that are not ignored; if no double dots
have to be resolved, that is the tree of the directory that the root denotes. A directory stands for
the files and links to files below it, reached without following links, that have a wanted suffix
and whose paths do not extend the root by what is ignored. -/
theorem expansion_exact (system : tree.IsFileSystem) (loopless : tree.Loopless)
    (expanded : expand tree query rules target = .ok (records, paths)) :
    (hasWildcard target → ∃ set location, Ignore.rulesOf [target] = .ok set ∧
      tree.resolve false (walkBase tree query.root) = .ok location ∧
      (['.', '.'] ∉ query.root.parts → tree.resolve false query.root = .ok location) ∧
      Path.Ascending paths ∧ ∀ path, path ∈ paths ↔
        ∃ names, tree.Reaches location names ∧ Ignore.ignores set (relativeText names) ∧
          ¬ IsIgnored rules names ∧ path = query.root.append names) ∧
    (¬ hasWildcard target → ∀ directory, directory = query.root.join (Path.ofText target) →
      tree.isDirectory directory = .ok true → ∃ location,
        tree.resolve false directory = .ok location ∧
        Path.Ascending paths ∧ ∀ path, path ∈ paths ↔
          (∃ names entry, tree.Descends location names entry ∧
            IsFileAt tree (location ++ names) entry ∧ path = directory.append names) ∧
          path.suffix ∈ query.extensions ∧
          ∀ rest, path = query.root.append rest → ¬ IsIgnored rules rest) := by
  rcases cases_of_expand expanded with
    ⟨wildcard, candidates, matching, rfl⟩ | ⟨plain, directory, rfl⟩ | ⟨plain, file, rfl⟩
  · exact ⟨fun _ => expansion_of_wildcard system loopless matching,
      fun plain => absurd wildcard plain⟩
  · refine ⟨fun wildcard => absurd (plain.symm.trans wildcard) Bool.false_ne_true, ?_⟩
    rintro - _ rfl -
    obtain ⟨-, location, resolved, -⟩ := FileTree.isDirectory_eq_true_iff.mp directory
    exact ⟨location, resolved, expansion_of_directory system resolved⟩
  · refine ⟨fun wildcard => absurd (plain.symm.trans wildcard) Bool.false_ne_true, ?_⟩
    rintro - _ rfl directory
    exact absurd (file.symm.trans directory) (by simp)

/-- Hidden files and links to files are found and broken links are not; a directory behind a link is
entered for a target with wildcards only; and what is ignored is left out of both expansions. -/
theorem expansion_exact_of_links :
    let tree : FileTree := ⟨[(["w"], .directory), (["w", "d"], .directory),
      (["w", "d", "b.js"], .file []), (["w", ".h.js"], .file []), (["w", "a.js"], .link "d/b.js"),
      (["w", "gone.js"], .link "nowhere"), (["w", "l"], .link "d"), (["w", "i.js"], .file []),
      (["w", "n.md"], .file [])], ["w"]⟩
    let query : Query := ⟨[], Path.ofText ".", defaultExtensions, true⟩
    let rules := (Ignore.rulesOf ["i.js"]).toOption
    let walked : List Path := [Path.ofText ".h.js", Path.ofText "a.js", Path.ofText "d/b.js"]
    let matched : List Path := walked ++ [Path.ofText "l/b.js"]
    expand tree query rules "." = .ok ([skipRecord "i.js"], walked) ∧
      (∃ location, tree.resolve false (Path.ofText ".") = .ok location ∧ Path.Ascending walked ∧
        ∀ path, path ∈ walked ↔ (∃ names entry, tree.Descends location names entry ∧
          IsFileAt tree (location ++ names) entry ∧ path = (Path.ofText ".").append names) ∧
        path.suffix ∈ query.extensions ∧
        ∀ rest, path = query.root.append rest → ¬ IsIgnored rules rest) ∧
      expand tree query rules "*.js" = .ok ([skipRecord "i.js"], matched) ∧
      ∃ set location, Ignore.rulesOf ["*.js"] = .ok set ∧
        tree.resolve false query.root = .ok location ∧ Path.Ascending matched ∧
        ∀ path, path ∈ matched ↔ ∃ names, tree.Reaches location names ∧
          Ignore.ignores set (relativeText names) ∧ ¬ IsIgnored rules names ∧
          path = query.root.append names := by
  intro tree query rules walked matched
  have system : tree.IsFileSystem := ⟨by decide, by decide, by decide, by decide⟩
  have loopless : tree.Loopless := FileTree.loopless_of_rank List.length (by decide +kernel)
  have directory : tree.isDirectory (Path.ofText ".") = .ok true := by decide +kernel
  have below : expand tree query rules "." = .ok ([skipRecord "i.js"], walked) := by
    have short : tooLongBelow? tree (Path.ofText ".") = none := by
      have resolved : tree.resolve false (Path.ofText ".") = .ok [['w']] := by decide +kernel
      have links : ((tree.below [['w']]).filter fun entry =>
          isTooLong tree ([['w']] ++ entry.1) entry.2) = [] := by decide +kernel
      simp only [tooLongBelow?, resolved, tooLongLinks, links, List.mergeSort_nil, List.head?_nil,
        Option.map_none]
    have found : filesBelow tree query.extensions (Path.ofText ".") = [Path.ofText "d/b.js",
        Path.ofText ".h.js", Path.ofText "a.js", Path.ofText "i.js"] := by decide +kernel
    have sorted : [Path.ofText "d/b.js", Path.ofText ".h.js", Path.ofText "a.js",
        Path.ofText "i.js"].mergeSort Path.le = walked ++ [Path.ofText "i.js"] := by cbv
    have kept : keepWanted query.root rules (filesBelow tree query.extensions (Path.ofText ".")) =
        ([skipRecord "i.js"], walked) := by
      rw [keepWanted, found, sorted]
      decide +kernel
    rw [← kept]
    exact expand_of_directory (by decide) (by decide) directory short
  have matching : expand tree query rules "*.js" = .ok ([skipRecord "i.js"], matched) := by
    have candidates : matchingFiles tree query.root "*.js" = .ok [Path.ofText "d/b.js",
        Path.ofText ".h.js", Path.ofText "a.js", Path.ofText "l/b.js", Path.ofText "i.js"] :=
      eq_ok_of_toOption (by decide +kernel)
    have sorted : [Path.ofText "d/b.js", Path.ofText ".h.js", Path.ofText "a.js",
        Path.ofText "l/b.js", Path.ofText "i.js"].mergeSort Path.le =
        [Path.ofText ".h.js", Path.ofText "a.js", Path.ofText "d/b.js", Path.ofText "i.js",
          Path.ofText "l/b.js"] := by cbv
    have kept : keepWanted query.root rules [Path.ofText "d/b.js", Path.ofText ".h.js",
        Path.ofText "a.js", Path.ofText "l/b.js", Path.ofText "i.js"] =
        ([skipRecord "i.js"], matched) := by
      rw [keepWanted, sorted]
      decide +kernel
    rw [expand_of_wildcard (by decide) candidates, kept]
  obtain ⟨-, exactly⟩ := expansion_exact system loopless below
  obtain ⟨set, location, loaded, -, rooted, whole⟩ :=
    (expansion_exact system loopless matching).1 (by decide)
  exact ⟨below, exactly (by decide) _ rfl directory, matching, set, location, loaded,
    rooted (by decide), whole⟩

end DocAudit.Discovery
