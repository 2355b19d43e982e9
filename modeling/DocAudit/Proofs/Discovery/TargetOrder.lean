import DocAudit.Proofs.Discovery.Expansions
import Mathlib

/-!
# Searches for several targets

A search lists every location once, by the path that comes first. So a search for more targets goes
on where the search for the first of them has ended, a target that was named before adds nothing,
and the targets in another order lead to the same locations, though not always by the same paths.
-/

namespace DocAudit.Discovery

variable {tree : FileTree} {query : Query} {rules : Option Ignore.RuleSet} {target : Text}
  {targets front back others : List Text} {path : Path} {found whole : List Path}

/-- A target that does not make a search fail is expanded to paths with locations. -/
theorem expand_of_not_escapes (fine : ¬ TargetEscapes tree query rules target) :
    (∃ records, expand tree query rules target =
      .ok (records, expansion tree query rules target)) ∧
    ∀ path ∈ expansion tree query rules target, ∃ location, tree.canonical path = .ok location := by
  have decided := expand_decides tree query rules target
  cases expanded : expand tree query rules target with
  | error failure =>
      rw [expanded] at decided
      by_cases refusal : failure.isRefusal
      · exact absurd (decided.2.mpr refusal) not_false
      · exact absurd (.inl (decided.1.mpr (by simpa using refusal))) fine
  | ok result =>
      obtain ⟨records, paths⟩ := result
      rw [expansion_of_expand expanded]
      refine ⟨⟨records, rfl⟩, fun path mem => ?_⟩
      cases null : FileTree.hasNull path with
      | false => exact ⟨_, by rw [FileTree.canonical, null]; rfl⟩
      | true =>
          exact absurd ((targetEscapes_iff_of_expand expanded).mpr ⟨path, mem, null⟩) fine

/-- Rules and expansions are the same whatever other targets a search has. -/
theorem run_targets_eq_ok_iff (targets : List Text) :
    (run tree { query with targets := targets }).2 = .ok found ↔
      ∃ rules, rulesFor tree query = .ok rules ∧
        (∀ target ∈ targets, ¬ TargetEscapes tree query rules target) ∧
        found = withoutRepeats tree (targets.flatMap (expansion tree query rules)) :=
  run_eq_ok_iff

theorem prefix_of_run_append
    (ended : (run tree { query with targets := front ++ back }).2 = .ok whole) :
    ∃ first, (run tree { query with targets := front }).2 = .ok first ∧ first <+: whole := by
  obtain ⟨rules, loaded, fine, rfl⟩ := (run_targets_eq_ok_iff _).mp ended
  refine ⟨_, (run_targets_eq_ok_iff front).mpr
    ⟨rules, loaded, fun target mem => fine target (List.mem_append_left back mem), rfl⟩, ?_⟩
  rw [List.flatMap_append, withoutRepeats_append]
  exact List.prefix_append _ _

theorem run_again_eq_ok_iff (again : target ∈ front) :
    (run tree { query with targets := front ++ target :: back }).2 = .ok found ↔
      (run tree { query with targets := front ++ back }).2 = .ok found := by
  rw [run_targets_eq_ok_iff, run_targets_eq_ok_iff]
  have known (rules : Option Ignore.RuleSet) :
      withoutRepeats tree ((front ++ target :: back).flatMap (expansion tree query rules)) =
        withoutRepeats tree ((front ++ back).flatMap (expansion tree query rules)) := by
    rw [List.flatMap_append, List.flatMap_append, List.flatMap_cons]
    apply withoutRepeats_append_of_known
    intro path mem
    exact ⟨path, List.mem_flatMap.mpr ⟨target, again, mem⟩, rfl⟩
  have named : ∀ other, other ∈ front ++ target :: back ↔ other ∈ front ++ back := by
    intro other
    simp only [List.mem_append, List.mem_cons]
    constructor
    · rintro (mem | rfl | mem)
      · exact .inl mem
      · exact .inl again
      · exact .inr mem
    · rintro (mem | mem)
      · exact .inl mem
      · exact .inr (.inr mem)
  simp only [known, named]

theorem exists_run_of_perm (reordered : others.Perm targets)
    (ended : (run tree { query with targets := targets }).2 = .ok found) :
    ∃ paths, (run tree { query with targets := others }).2 = .ok paths ∧
      ∀ location, LeadsTo tree paths location ↔ LeadsTo tree found location := by
  obtain ⟨rules, loaded, fine, rfl⟩ := (run_targets_eq_ok_iff _).mp ended
  refine ⟨_, (run_targets_eq_ok_iff others).mpr
    ⟨rules, loaded, fun target mem => fine target (reordered.mem_iff.mp mem), rfl⟩, ?_⟩
  intro location
  rw [leadsTo_withoutRepeats_iff, leadsTo_withoutRepeats_iff]
  simp only [LeadsTo, List.mem_flatMap, reordered.mem_iff]

/-- A search that ends puts the expansions of its targets one after the other and leaves out the
paths that lead to the location of a path before them. So no two of its paths lead to one location,
and every path of an expansion leads to the location of one of them. The search for the first of the
targets ends with the first of the paths, a target that was named before makes no difference, and
the targets in any other order lead to the same locations. -/
theorem first_occurrences_of_run (ended : (run tree query).2 = .ok found) :
    (∃ rules, rulesFor tree query = .ok rules ∧
      (∀ target ∈ query.targets, ∃ records, expand tree query rules target =
        .ok (records, expansion tree query rules target)) ∧
      found = withoutRepeats tree (query.targets.flatMap (expansion tree query rules)) ∧
      ∀ path ∈ query.targets.flatMap (expansion tree query rules),
        ∃ location, tree.canonical path = .ok location ∧ LeadsTo tree found location) ∧
    (found.Pairwise fun path other => tree.canonical path ≠ tree.canonical other) ∧
    (∀ front back, query.targets = front ++ back →
      ∃ first, (run tree { query with targets := front }).2 = .ok first ∧ first <+: found) ∧
    (∀ front target back, target ∈ front → ∀ paths,
      (run tree { query with targets := front ++ target :: back }).2 = .ok paths ↔
        (run tree { query with targets := front ++ back }).2 = .ok paths) ∧
    ∀ others, others.Perm query.targets →
      ∃ paths, (run tree { query with targets := others }).2 = .ok paths ∧
        ∀ location, LeadsTo tree paths location ↔ LeadsTo tree found location := by
  obtain ⟨rules, loaded, fine, same⟩ := run_eq_ok_iff.mp ended
  refine ⟨⟨rules, loaded, ?_, same, ?_⟩, ?_, ?_, ?_, ?_⟩
  · exact fun target mem => (expand_of_not_escapes (fine target mem)).1
  · intro path mem
    obtain ⟨target, named, inside⟩ := List.mem_flatMap.mp mem
    obtain ⟨location, leads⟩ := (expand_of_not_escapes (fine target named)).2 path inside
    refine ⟨location, leads, ?_⟩
    rw [same, leadsTo_withoutRepeats_iff]
    exact ⟨path, mem, leads⟩
  · rw [same]
    exact pairwise_withoutRepeats tree _
  · intro front back split
    have extended : (run tree { query with targets := front ++ back }).2 = .ok found := by
      rwa [← split]
    exact prefix_of_run_append extended
  · exact fun front target back again paths => run_again_eq_ok_iff again
  · exact fun others reordered => exists_run_of_perm reordered ended

/-- A link and the file behind it are one location, listed by the path that comes first; with the
targets the other way round the other path is listed. -/
theorem first_occurrences_of_linked_file :
    let tree : FileTree := ⟨[(["w"], .directory), (["w", "a.js"], .file []),
      (["w", "b.js"], .file []), (["w", "l.js"], .link "a.js")], ["w"]⟩
    let query : Query := ⟨["l.js", "a.js", "."], Path.ofText ".", defaultExtensions, false⟩
    let linked : List Path := [Path.ofText "l.js", Path.ofText "b.js"]
    (run tree query).2 = .ok linked ∧
      (linked.Pairwise fun path other => tree.canonical path ≠ tree.canonical other) ∧
      (∃ first, (run tree { query with targets := ["l.js", "a.js"] }).2 = .ok first ∧
        first <+: linked) ∧
      (run tree { query with targets := ["l.js", "a.js", ".", "l.js"] }).2 = .ok linked ∧
      ∃ paths, (run tree { query with targets := [".", "a.js", "l.js"] }).2 = .ok paths ∧
        ∀ location, LeadsTo tree paths location ↔ LeadsTo tree linked location := by
  intro tree query linked
  have ended : (run tree query).2 = .ok linked := eq_ok_of_toOption (by cbv)
  obtain ⟨-, distinct, cut, again, reordered⟩ := first_occurrences_of_run ended
  refine ⟨ended, distinct, cut ["l.js", "a.js"] ["."] rfl, ?_, ?_⟩
  · exact (again ["l.js", "a.js", "."] "l.js" [] (by decide) linked).mpr ended
  · exact reordered [".", "a.js", "l.js"] (by decide)

end DocAudit.Discovery
