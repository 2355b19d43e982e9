import DocAudit.Discovery
import DocAudit.Proofs.Files.FileSystems
import DocAudit.Proofs.Results

/-!
# The paths that discovery finds

Discovery lists no path twice, and if the entries of the file tree have proper names, no two paths
that are rendered alike: paths are told apart by the locations that they lead to, and equal paths
lead to one location.
-/

namespace DocAudit

/-- A file tree whose entries have names that could stand in a path, as in any file system. -/
def FileTree.IsNamed (tree : FileTree) : Prop :=
  ∀ entry ∈ tree.entries, ∀ name ∈ entry.1, Path.IsPart name

instance (tree : FileTree) : Decidable tree.IsNamed :=
  inferInstanceAs (Decidable (∀ entry ∈ tree.entries, ∀ name ∈ entry.1, Path.IsPart name))

namespace FileTree

variable {tree : FileTree} {location : Location} {names : List Text}

/-- What lies below a location stands in the tree under a longer list of names. -/
theorem exists_of_mem_below {entry : Entry} (mem : (names, entry) ∈ tree.below location) :
    ∃ other, (other, entry) ∈ tree.entries ∧ names <:+ other :=
  ⟨_, (mem_below_iff.mp mem).2, List.suffix_append _ _⟩

theorem IsNamed.below (named : tree.IsNamed) {entry : Entry}
    (mem : (names, entry) ∈ tree.below location) : ∀ name ∈ names, Path.IsPart name := by
  obtain ⟨other, inTree, suffix⟩ := exists_of_mem_below mem
  exact fun name inside => named _ inTree name (suffix.subset inside)

theorem IsNamed.filesThroughLinks (named : tree.IsNamed) (depth : Nat)
    (mem : names ∈ tree.filesThroughLinks depth location) : ∀ name ∈ names, Path.IsPart name := by
  induction depth generalizing location names with
  | zero => exact absurd mem List.not_mem_nil
  | succ depth ih =>
      obtain ⟨⟨child, entry⟩, inside, found⟩ := List.mem_flatMap.mp mem
      have parted := named.below (List.mem_filter.mp inside).1
      simp only at found
      split at found
      · exact absurd found List.not_mem_nil
      · split at found
        · rwa [List.mem_singleton.mp found]
        · obtain ⟨deeper, reached, rfl⟩ := List.mem_map.mp found
          exact List.forall_mem_append.mpr ⟨parted, ih reached⟩
        · exact absurd found List.not_mem_nil

end FileTree

namespace Discovery

variable {tree : FileTree} {query : Query} {rules : Option Ignore.RuleSet} {root path : Path}
  {target : Text} {records : List Record} {paths candidates : List Path}
  {located : List (Path × Location)}

/-- Kept are the candidates that the rules do not ignore. -/
theorem mem_keepWanted_iff : path ∈ (keepWanted root rules candidates).2 ↔
    path ∈ candidates ∧ ignoredAs? root rules path = none := by
  rw [keepWanted, List.mem_filter, List.mem_mergeSort, Option.isNone_iff_eq_none]

/-- The three ways in which a target stands for paths. -/
theorem cases_of_expand (expanded : expand tree query rules target = .ok (records, paths)) :
    (hasWildcard target = true ∧ ∃ candidates,
      matchingFiles tree query.root target = .ok candidates ∧
      paths = (keepWanted query.root rules candidates).2) ∨
    (hasWildcard target = false ∧
      tree.isDirectory (query.root.join (Path.ofText target)) = .ok true ∧
      paths = (keepWanted query.root rules
        (filesBelow tree query.extensions (query.root.join (Path.ofText target)))).2) ∨
    (hasWildcard target = false ∧
      tree.isDirectory (query.root.join (Path.ofText target)) = .ok false ∧
      paths = [query.root.join (Path.ofText target)]) := by
  rw [expand] at expanded
  cases wildcard : hasWildcard target with
  | true =>
      rw [wildcard, if_pos rfl] at expanded
      obtain ⟨candidates, matching, expanded⟩ := exists_of_bind_eq_ok expanded
      have kept := congrArg Prod.snd (Except.ok.inj expanded)
      exact .inl ⟨rfl, candidates, matching, kept.symm⟩
  | false =>
      rw [wildcard, if_neg Bool.false_ne_true] at expanded
      simp only at expanded
      cases directory : tree.isDirectory (query.root.join (Path.ofText target)) with
      | error fault =>
          rw [directory] at expanded
          cases expanded
      | ok there =>
          rw [directory] at expanded
          cases there with
          | true =>
              simp only at expanded
              split at expanded
              · cases expanded
              · have kept := congrArg Prod.snd (Except.ok.inj expanded)
                exact .inr (.inl ⟨rfl, rfl, kept.symm⟩)
          | false =>
              have kept := congrArg Prod.snd (Except.ok.inj expanded)
              exact .inr (.inr ⟨rfl, rfl, kept.symm⟩)

theorem expand_of_wildcard (wildcard : hasWildcard target = true)
    (matching : matchingFiles tree query.root target = .ok candidates) :
    expand tree query rules target = .ok (keepWanted query.root rules candidates) := by
  rw [expand, if_pos wildcard, matching]
  rfl

theorem expand_of_directory (plain : hasWildcard target = false)
    (spelt : query.root.join (Path.ofText target) = path)
    (directory : tree.isDirectory path = .ok true) (short : tooLongBelow? tree path = none) :
    expand tree query rules target =
      .ok (keepWanted query.root rules (filesBelow tree query.extensions path)) := by
  simp only [expand, plain, Bool.false_eq_true, if_false, spelt, directory, short]

theorem proper_of_mem_matchingFiles (named : tree.IsNamed) (proper : root.Proper)
    (matching : matchingFiles tree root target = .ok paths) (mem : path ∈ paths) : path.Proper := by
  rw [matchingFiles] at matching
  split at matching
  · cases matching
  · simp only at matching
    split at matching
    · cases matching
    · obtain rfl := Except.ok.inj matching
      obtain ⟨names, kept, rfl⟩ := List.mem_map.mp mem
      exact proper.append (named.filesThroughLinks _ (List.mem_filter.mp kept).1)

theorem proper_of_mem_filesBelow (named : tree.IsNamed) {extensions : List Text}
    (proper : root.Proper) (mem : path ∈ filesBelow tree extensions root) : path.Proper := by
  rw [filesBelow] at mem
  split at mem
  · exact absurd mem List.not_mem_nil
  · obtain ⟨⟨names, entry⟩, kept, rfl⟩ := List.mem_map.mp mem
    exact proper.append (named.below (List.mem_filter.mp kept).1)

/-- A target stands for paths with proper components. -/
theorem proper_of_mem_expand (named : tree.IsNamed) (proper : query.root.Proper)
    (expanded : expand tree query rules target = .ok (records, paths)) (mem : path ∈ paths) :
    path.Proper := by
  have joined : (query.root.join (Path.ofText target)).Proper :=
    proper.join (Path.proper_ofText target)
  rcases cases_of_expand expanded with ⟨-, candidates, matching, rfl⟩ | ⟨-, -, rfl⟩ | ⟨-, -, rfl⟩
  · exact proper_of_mem_matchingFiles named proper matching (mem_keepWanted_iff.mp mem).1
  · exact proper_of_mem_filesBelow named joined (mem_keepWanted_iff.mp mem).1
  · rwa [List.mem_singleton.mp mem]

/-! ## Locations -/

theorem canonical_of_mem_locateAll (found : locateAll tree paths = .ok located) :
    ∀ entry ∈ located, entry.1 ∈ paths ∧ tree.canonical entry.1 = .ok entry.2 := by
  induction paths generalizing located with
  | nil =>
      cases found
      simp
  | cons path rest ih =>
      rw [locateAll] at found
      obtain ⟨location, first, found⟩ := exists_of_bind_eq_ok found
      obtain ⟨more, others, found⟩ := exists_of_bind_eq_ok found
      obtain rfl := Except.ok.inj found
      intro entry mem
      rcases List.mem_cons.mp mem with rfl | mem
      · exact ⟨List.mem_cons_self, first⟩
      · obtain ⟨inside, same⟩ := ih others entry mem
        exact ⟨List.mem_cons_of_mem _ inside, same⟩

/-- Every gathered path is paired with its location, and is one that a target stands for. -/
theorem of_mem_gather {targets : List Text}
    (gathered : (gather tree query rules targets).2 = .ok located) :
    ∀ entry ∈ located, tree.canonical entry.1 = .ok entry.2 ∧ ∃ target ∈ targets,
      ∃ records paths, expand tree query rules target = .ok (records, paths) ∧ entry.1 ∈ paths := by
  induction targets generalizing located with
  | nil =>
      cases gathered
      simp
  | cons target rest ih =>
      rw [gather] at gathered
      cases expanded : expand tree query rules target with
      | error failure =>
          rw [expanded] at gathered
          cases gathered
      | ok result =>
          obtain ⟨records, paths⟩ := result
          rw [expanded] at gathered
          cases found : locateAll tree paths with
          | error error =>
              simp only [found] at gathered
              cases gathered
          | ok first =>
              simp only [found] at gathered
              obtain ⟨more, others, rfl⟩ := exists_of_map_eq_ok gathered
              intro entry mem
              rcases List.mem_append.mp mem with mem | mem
              · obtain ⟨inside, same⟩ := canonical_of_mem_locateAll found entry mem
                exact ⟨same, target, List.mem_cons_self, records, paths, expanded, inside⟩
              · obtain ⟨same, other, inside, origin⟩ := ih others entry mem
                exact ⟨same, other, List.mem_cons_of_mem _ inside, origin⟩

theorem exists_of_mem_firstOccurrences {seen : List Location}
    (mem : path ∈ firstOccurrences seen located) :
    ∃ location, (path, location) ∈ located ∧ location ∉ seen := by
  fun_induction firstOccurrences seen located with
  | case1 => exact absurd mem List.not_mem_nil
  | case2 seen first location rest known ih =>
      obtain ⟨other, inside, fresh⟩ := ih mem
      exact ⟨other, List.mem_cons_of_mem _ inside, fresh⟩
  | case3 seen first location rest unknown ih =>
      rcases List.mem_cons.mp mem with rfl | mem
      · exact ⟨location, List.mem_cons_self, by simpa using unknown⟩
      · obtain ⟨other, inside, fresh⟩ := ih mem
        exact ⟨other, List.mem_cons_of_mem _ inside, fun old => fresh (List.mem_cons_of_mem _ old)⟩

/-- If the location of a path depends on the path alone, no path occurs twice. -/
theorem nodup_firstOccurrences (seen : List Location)
    (same : ∀ entry ∈ located, tree.canonical entry.1 = .ok entry.2) :
    (firstOccurrences seen located).Nodup := by
  fun_induction firstOccurrences seen located with
  | case1 => exact List.nodup_nil
  | case2 seen first location rest known ih =>
      exact ih fun entry mem => same entry (List.mem_cons_of_mem _ mem)
  | case3 seen first location rest unknown ih =>
      refine List.nodup_cons.mpr ⟨?_, ih fun entry mem => same entry (List.mem_cons_of_mem _ mem)⟩
      -- A second occurrence would have a location that was not seen, but it has that of the first.
      intro again
      obtain ⟨other, inside, fresh⟩ := exists_of_mem_firstOccurrences again
      have here : tree.canonical first = .ok location := same _ List.mem_cons_self
      have there : tree.canonical first = .ok other := same _ (List.mem_cons_of_mem _ inside)
      obtain rfl := Except.ok.inj (here.symm.trans there)
      exact fresh List.mem_cons_self

/-- The paths that a search finds are pairwise distinct, and have proper components if the root and
the entries of the tree have. -/
theorem nodup_of_run (found : (run tree query).2 = .ok paths) :
    paths.Nodup ∧ (tree.IsNamed → query.root.Proper → ∀ path ∈ paths, path.Proper) := by
  rw [run] at found
  split at found
  · cases found
  case h_2 rules _ =>
      rcases gathered : gather tree query rules query.targets with ⟨records, failure | located⟩
      · rw [gathered] at found
        cases found
      · rw [gathered] at found
        obtain rfl := Except.ok.inj found
        have origin := of_mem_gather (congrArg Prod.snd gathered)
        refine ⟨nodup_firstOccurrences [] fun entry mem => (origin entry mem).1, ?_⟩
        intro named proper path mem
        obtain ⟨location, inside, -⟩ := exists_of_mem_firstOccurrences mem
        obtain ⟨-, target, -, records, paths, expanded, within⟩ := origin _ inside
        exact proper_of_mem_expand named proper expanded within

end Discovery

end DocAudit
