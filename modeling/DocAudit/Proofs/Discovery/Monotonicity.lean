import DocAudit.Proofs.Discovery.TargetOrder

/-!
# Ignore rules and suffixes

Ignore rules only take paths away from the expansion of a target, and suffixes only add paths to it.
Since leaving out one path can bring forward another one that leads to the same location, this says
of a search which locations it finds, not which paths. A target that is neither a wildcard nor a
directory is found whatever the rules and the suffixes are.
-/

namespace DocAudit.Discovery

variable {tree : FileTree} {query : Query} {rules : Option Ignore.RuleSet} {target : Text}
  {root path : Path} {candidates found paths : List Path} {records : List Record}
  {suffixes others : List Text} {location : Location}

/-! ## Expansions of one target -/

theorem keepWanted_subset_none :
    (keepWanted root rules candidates).2 ⊆ (keepWanted root none candidates).2 := by
  intro path mem
  exact mem_keepWanted_iff.mpr ⟨(mem_keepWanted_iff.mp mem).1, rfl⟩

/-- Without rules a target stands for no fewer paths. -/
theorem expansion_subset_none :
    expansion tree query rules target ⊆ expansion tree query none target := by
  rw [expansion, expansion, expand, expand]
  cases hasWildcard target with
  | true =>
      cases matchingFiles tree query.root target with
      | error failure => exact List.Subset.refl _
      | ok candidates => exact keepWanted_subset_none
  | false =>
      simp only [Bool.false_eq_true, if_false]
      cases tree.isDirectory (query.root.join (Path.ofText target)) with
      | error fault => exact List.Subset.refl _
      | ok there =>
          cases there with
          | true =>
              cases tooLongBelow? tree (query.root.join (Path.ofText target)) with
              | some fault => exact List.Subset.refl _
              | none => exact keepWanted_subset_none
          | false => exact List.Subset.refl _

theorem filesBelow_subset (more : suffixes ⊆ others) :
    filesBelow tree suffixes path ⊆ filesBelow tree others path := by
  rw [filesBelow, filesBelow]
  cases tree.resolve false path with
  | error reason => exact List.Subset.refl _
  | ok location =>
      apply List.map_subset
      intro entry mem
      obtain ⟨below, wanted⟩ := List.mem_filter.mp mem
      rw [Bool.and_eq_true, List.contains_iff_mem] at wanted
      refine List.mem_filter.mpr ⟨below, ?_⟩
      rw [Bool.and_eq_true, List.contains_iff_mem]
      exact ⟨wanted.1, more wanted.2⟩

/-- With more suffixes a target stands for no fewer paths. -/
theorem expansion_subset_suffixes (more : query.extensions ⊆ suffixes) :
    expansion tree query rules target ⊆
      expansion tree { query with extensions := suffixes } rules target := by
  rw [expansion, expansion, expand, expand]
  cases hasWildcard target with
  | true => exact List.Subset.refl _
  | false =>
      simp only [Bool.false_eq_true, if_false]
      cases tree.isDirectory (query.root.join (Path.ofText target)) with
      | error fault => exact List.Subset.refl _
      | ok there =>
          cases there with
          | true =>
              cases tooLongBelow? tree (query.root.join (Path.ofText target)) with
              | some fault => exact List.Subset.refl _
              | none =>
                  intro path mem
                  obtain ⟨below, wanted⟩ := mem_keepWanted_iff.mp mem
                  exact mem_keepWanted_iff.mpr ⟨filesBelow_subset more below, wanted⟩
          | false => exact List.Subset.refl _

/-! ## Suffixes in another order -/

theorem expand_congr (same : ∀ suffix, suffix ∈ suffixes ↔ suffix ∈ query.extensions) :
    expand tree { query with extensions := suffixes } rules target =
      expand tree query rules target := by
  have contained : ∀ suffix, suffixes.contains suffix = query.extensions.contains suffix := by
    intro suffix
    rw [Bool.eq_iff_iff, List.contains_iff_mem, List.contains_iff_mem]
    exact same suffix
  have below (path : Path) :
      filesBelow tree suffixes path = filesBelow tree query.extensions path := by
    simp only [filesBelow, contained]
  simp only [expand, below]

theorem gather_congr {other : Query} (targets : List Text)
    (same : ∀ target, expand tree other rules target = expand tree query rules target) :
    gather tree other rules targets = gather tree query rules targets := by
  induction targets with
  | nil => rfl
  | cons target rest ih => rw [gather, gather, same, ih]

/-- Order and repetitions of the suffixes make no difference to a search. -/
theorem run_congr (same : ∀ suffix, suffix ∈ suffixes ↔ suffix ∈ query.extensions) :
    run tree { query with extensions := suffixes } = run tree query := by
  have gathered (rules : Option Ignore.RuleSet) :
      gather tree { query with extensions := suffixes } rules query.targets =
        gather tree query rules query.targets :=
    gather_congr query.targets fun target => expand_congr same
  simp only [run, gathered]
  rfl

/-! ## Whole searches -/

/-- A search leads to the locations of the paths in its expansions. -/
theorem leadsTo_iff_of_run (loaded : rulesFor tree query = .ok rules)
    (ended : (run tree query).2 = .ok found) : LeadsTo tree found location ↔
      ∃ target ∈ query.targets, LeadsTo tree (expansion tree query rules target) location := by
  obtain ⟨others, again, -, rfl⟩ := run_eq_ok_iff.mp ended
  obtain rfl := Except.ok.inj (loaded.symm.trans again)
  rw [leadsTo_withoutRepeats_iff]
  constructor
  · rintro ⟨path, mem, leads⟩
    obtain ⟨target, named, inside⟩ := List.mem_flatMap.mp mem
    exact ⟨target, named, path, inside, leads⟩
  · rintro ⟨target, named, path, inside, leads⟩
    exact ⟨path, List.mem_flatMap.mpr ⟨target, named, inside⟩, leads⟩

theorem LeadsTo.mono (leads : LeadsTo tree paths location) (more : paths ⊆ candidates) :
    LeadsTo tree candidates location := by
  obtain ⟨path, mem, there⟩ := leads
  exact ⟨path, more mem, there⟩

/-- No rules apply where the ignore file is not respected. -/
theorem rulesFor_of_not_respect
    (loaded : rulesFor tree { query with respectIgnore := false } = .ok rules) : rules = none := by
  rw [rulesFor] at loaded
  split at loaded
  · cases loaded
  · cases loaded
  · exact (Except.ok.inj loaded).symm

/-- Of two searches that both end, one that respects the ignore file finds no location that the
other one does not find, and one for more suffixes misses no location that the other one finds. The
order and the repetitions of the suffixes make no difference at all. A target that has no wildcard
and is no directory is always found, be it there or not and ignored or not. -/
theorem locations_monotone (tree : FileTree) (query : Query) :
    (∀ found all, (run tree { query with respectIgnore := true }).2 = .ok found →
      (run tree { query with respectIgnore := false }).2 = .ok all →
      ∀ location, LeadsTo tree found location → LeadsTo tree all location) ∧
    (∀ suffixes, query.extensions ⊆ suffixes → ∀ found all, (run tree query).2 = .ok found →
      (run tree { query with extensions := suffixes }).2 = .ok all →
      ∀ location, LeadsTo tree found location → LeadsTo tree all location) ∧
    (∀ suffixes, (∀ suffix, suffix ∈ suffixes ↔ suffix ∈ query.extensions) →
      run tree { query with extensions := suffixes } = run tree query) ∧
    ∀ target ∈ query.targets, hasWildcard target = false →
      tree.isDirectory (query.root.join (Path.ofText target)) ≠ .ok true →
      ∀ found, (run tree query).2 = .ok found →
        ∃ location, tree.canonical (query.root.join (Path.ofText target)) = .ok location ∧
          LeadsTo tree found location := by
  refine ⟨?_, ?_, fun suffixes same => run_congr same, ?_⟩
  · intro found all ended without location leads
    obtain ⟨rules, loaded, -⟩ := run_eq_ok_iff.mp ended
    obtain ⟨unused, unloaded, -⟩ := run_eq_ok_iff.mp without
    obtain rfl := rulesFor_of_not_respect unloaded
    obtain ⟨target, named, leads⟩ := (leadsTo_iff_of_run loaded ended).mp leads
    exact (leadsTo_iff_of_run unloaded without).mpr
      ⟨target, named, leads.mono expansion_subset_none⟩
  · intro suffixes more found all ended enlarged location leads
    obtain ⟨rules, loaded, -⟩ := run_eq_ok_iff.mp ended
    have reloaded : rulesFor tree { query with extensions := suffixes } = .ok rules := loaded
    obtain ⟨target, named, leads⟩ := (leadsTo_iff_of_run loaded ended).mp leads
    exact (leadsTo_iff_of_run reloaded enlarged).mpr
      ⟨target, named, leads.mono (expansion_subset_suffixes more)⟩
  · intro target named plain file found ended
    obtain ⟨rules, loaded, fine, -⟩ := run_eq_ok_iff.mp ended
    obtain ⟨⟨records, expanded⟩, located⟩ := expand_of_not_escapes (fine target named)
    have single : expansion tree query rules target = [query.root.join (Path.ofText target)] := by
      rcases cases_of_expand expanded with ⟨wildcard, -⟩ | ⟨-, directory, -⟩ | ⟨-, -, same⟩
      · cases plain.symm.trans wildcard
      · exact absurd directory file
      · exact same
    rw [single] at located
    obtain ⟨location, leads⟩ := located _ List.mem_cons_self
    refine ⟨location, leads, (leadsTo_iff_of_run loaded ended).mpr ⟨target, named, ?_⟩⟩
    rw [single]
    exact ⟨_, List.mem_cons_self, leads⟩

/-- An ignore file with a single star leaves only the file that is named itself. -/
theorem locations_of_named_file :
    let tree : FileTree := ⟨[(["w"], .directory), (["w", "a.js"], .file []),
      (["w", "b.js"], .file []), (["w", "c.ts"], .file []),
      (["w", ".gitignore"], .file (Text.Utf8.encode "*\n"))], ["w"]⟩
    let query : Query := ⟨[".", "b.js"], Path.ofText ".", defaultExtensions, true⟩
    let named : List Path := [Path.ofText "b.js"]
    let every : List Path := [Path.ofText "a.js", Path.ofText "b.js"]
    (run tree query).2 = .ok named ∧
      (run tree { query with respectIgnore := false }).2 = .ok every ∧
      (∀ location, LeadsTo tree named location → LeadsTo tree every location) ∧
      (run tree { query with respectIgnore := false, extensions := [".ts", ".js"] }).2 =
        .ok (every ++ [Path.ofText "c.ts"]) ∧
      (∀ location, LeadsTo tree every location →
        LeadsTo tree (every ++ [Path.ofText "c.ts"]) location) ∧
      run tree { query with extensions := [".js", ".js"] } = run tree query ∧
      ∃ location, tree.canonical (Path.ofText "b.js") = .ok location ∧
        LeadsTo tree named location := by
  intro tree query named every
  have ended : (run tree query).2 = .ok named := eq_ok_of_toOption (by cbv)
  have without : (run tree { query with respectIgnore := false }).2 = .ok every :=
    eq_ok_of_toOption (by cbv)
  have more : (run tree { query with respectIgnore := false, extensions := [".ts", ".js"] }).2 =
      .ok (every ++ [Path.ofText "c.ts"]) := eq_ok_of_toOption (by cbv)
  obtain ⟨fewer, -, same, kept⟩ := locations_monotone tree query
  obtain ⟨-, enlarged, -, -⟩ := locations_monotone tree { query with respectIgnore := false }
  refine ⟨ended, without, fewer _ _ ended without, more, ?_, same _ ?_, ?_⟩
  · exact enlarged [".ts", ".js"] (by decide) _ _ without more
  · intro suffix
    simp [query, defaultExtensions]
  · refine kept "b.js" (by decide) rfl ?_ _ ended
    intro directory
    cases directory

end DocAudit.Discovery
