import DocAudit.Proofs.Discovery.Failures
import DocAudit.Proofs.Discovery.Found
import Mathlib.Control.Monad.Basic

/-!
# Searches as expansions of their targets

A search goes through its targets with a set of locations that it has seen. Said without that set,
it puts the expansions of the targets one after the other and leaves out every path that leads to
the location of a path before it. This is the form in which searches are compared: whether a search
ends with a list of paths depends on each target alone, and which list it is on the expansions.
-/

namespace DocAudit.Discovery

/-- The paths that a target stands for; none if it stands for no list of paths. -/
def expansion (tree : FileTree) (query : Query) (rules : Option Ignore.RuleSet) (target : Text) :
    List Path :=
  match expand tree query rules target with
  | .ok (_, paths) => paths
  | .error _ => []

/-- The paths that do not lead to the location of a path before them. -/
def withoutRepeats (tree : FileTree) (paths : List Path) : List Path :=
  (paths.zipIdx.filter fun entry : Path × Nat =>
    ∀ earlier ∈ paths.take entry.2, tree.canonical earlier ≠ tree.canonical entry.1).map Prod.fst

/-- Some path of a list leads to a location. -/
def LeadsTo (tree : FileTree) (paths : List Path) (location : Location) : Prop :=
  ∃ path ∈ paths, tree.canonical path = .ok location

variable {tree : FileTree} {query : Query} {rules : Option Ignore.RuleSet} {target : Text}
  {targets : List Text} {path : Path} {paths front back found : List Path} {location : Location}
  {located : List (Path × Location)} {records : List Record}

/-! ## Paths without repeats -/

/-- Two filters in a row are one if the conditions together are its condition. -/
theorem filter_filter_of_iff {first second both : Path → Prop} [DecidablePred first]
    [DecidablePred second] [DecidablePred both]
    (same : ∀ path, first path ∧ second path ↔ both path) (paths : List Path) :
    (paths.filter (second ·)).filter (first ·) = paths.filter (both ·) := by
  rw [List.filter_filter]
  apply List.filter_congr
  intro path _
  rw [← Bool.decide_and]
  exact decide_eq_decide.mpr (same path)

theorem withoutRepeats_cons (tree : FileTree) (path : Path) (rest : List Path) :
    withoutRepeats tree (path :: rest) =
      path :: (withoutRepeats tree rest).filter fun other =>
        tree.canonical path ≠ tree.canonical other := by
  -- Behind the first path all numbers are shifted by one, and it comes before every other path.
  rw [withoutRepeats, List.zipIdx_cons, List.filter_cons_of_pos (by simp), List.map_cons,
    Nat.zero_add, List.zipIdx_succ, List.filter_map, List.map_map, withoutRepeats, List.filter_map,
    List.filter_filter]
  simp [Function.comp_def]

theorem withoutRepeats_append (tree : FileTree) (front back : List Path) :
    withoutRepeats tree (front ++ back) =
      withoutRepeats tree front ++ (withoutRepeats tree back).filter fun path =>
        ∀ earlier ∈ front, tree.canonical earlier ≠ tree.canonical path := by
  induction front with
  | nil => exact (List.filter_eq_self.mpr (by simp)).symm
  | cons first front ih =>
      rw [List.cons_append, withoutRepeats_cons, withoutRepeats_cons, ih, List.filter_append,
        List.filter_filter, List.cons_append]
      simp

theorem mem_of_mem_withoutRepeats (mem : path ∈ withoutRepeats tree paths) : path ∈ paths := by
  obtain ⟨⟨other, index⟩, kept, rfl⟩ := List.mem_map.mp mem
  exact (List.mem_zipIdx' (List.mem_filter.mp kept).1).2 ▸ List.getElem_mem _

/-- Every path leads to the location of one that is kept. -/
theorem exists_mem_withoutRepeats (mem : path ∈ paths) :
    ∃ kept ∈ withoutRepeats tree paths, tree.canonical kept = tree.canonical path := by
  induction paths with
  | nil => exact absurd mem List.not_mem_nil
  | cons first rest ih =>
      rw [withoutRepeats_cons]
      by_cases same : tree.canonical first = tree.canonical path
      · exact ⟨first, List.mem_cons_self, same⟩
      · rcases List.mem_cons.mp mem with rfl | mem
        · exact absurd rfl same
        · obtain ⟨kept, inside, alike⟩ := ih mem
          refine ⟨kept, List.mem_cons_of_mem _ (List.mem_filter.mpr ⟨inside, ?_⟩), alike⟩
          simpa [alike] using same

/-- Two paths that are kept lead to different locations. -/
theorem pairwise_withoutRepeats (tree : FileTree) (paths : List Path) :
    (withoutRepeats tree paths).Pairwise fun path other =>
      tree.canonical path ≠ tree.canonical other := by
  induction paths with
  | nil => exact List.Pairwise.nil
  | cons first rest ih =>
      rw [withoutRepeats_cons]
      refine List.pairwise_cons.mpr ⟨?_, ih.filter _⟩
      intro other mem
      simpa using (List.mem_filter.mp mem).2

theorem leadsTo_withoutRepeats_iff :
    LeadsTo tree (withoutRepeats tree paths) location ↔ LeadsTo tree paths location := by
  constructor
  · rintro ⟨path, mem, leads⟩
    exact ⟨path, mem_of_mem_withoutRepeats mem, leads⟩
  · rintro ⟨path, mem, leads⟩
    obtain ⟨kept, inside, same⟩ := exists_mem_withoutRepeats mem
    exact ⟨kept, inside, same.trans leads⟩

/-- Paths that lead to locations of earlier paths add nothing. -/
theorem withoutRepeats_append_of_known
    (known : ∀ path ∈ paths, ∃ earlier ∈ front, tree.canonical earlier = tree.canonical path) :
    withoutRepeats tree (front ++ (paths ++ back)) = withoutRepeats tree (front ++ back) := by
  rw [withoutRepeats_append, withoutRepeats_append, withoutRepeats_append, List.filter_append]
  have nothing : ((withoutRepeats tree paths).filter fun path =>
      ∀ earlier ∈ front, tree.canonical earlier ≠ tree.canonical path) = [] := by
    rw [List.filter_eq_nil_iff]
    intro path mem
    obtain ⟨earlier, inside, same⟩ := known path (mem_of_mem_withoutRepeats mem)
    simpa using ⟨earlier, inside, same⟩
  rw [nothing, List.nil_append]
  congr 1
  apply filter_filter_of_iff
  intro path
  refine ⟨And.left, fun fresh => ⟨fresh, ?_⟩⟩
  intro other mem same
  obtain ⟨earlier, inside, alike⟩ := known other mem
  exact fresh earlier inside (alike.trans same)

/-! ## One search -/

theorem map_fst_of_locateAll (found : locateAll tree paths = .ok located) :
    located.map Prod.fst = paths := by
  induction paths generalizing located with
  | nil =>
      cases found
      rfl
  | cons path rest ih =>
      rw [locateAll] at found
      obtain ⟨location, -, found⟩ := exists_of_bind_eq_ok found
      obtain ⟨more, others, found⟩ := exists_of_bind_eq_ok found
      obtain rfl := Except.ok.inj found
      rw [List.map_cons, ih others]

theorem expansion_of_expand (expanded : expand tree query rules target = .ok (records, paths)) :
    expansion tree query rules target = paths := by
  rw [expansion, expanded]

theorem map_fst_of_gather (gathered : (gather tree query rules targets).2 = .ok located) :
    located.map Prod.fst = targets.flatMap (expansion tree query rules) := by
  induction targets generalizing located with
  | nil =>
      cases gathered
      rfl
  | cons target rest ih =>
      rw [gather] at gathered
      cases expanded : expand tree query rules target with
      | error failure =>
          rw [expanded] at gathered
          cases gathered
      | ok result =>
          obtain ⟨records, paths⟩ := result
          rw [expanded] at gathered
          cases found : locateAll tree paths with
          | error error =>
              simp only [found] at gathered
              cases gathered
          | ok first =>
              simp only [found] at gathered
              obtain ⟨more, others, rfl⟩ := exists_of_map_eq_ok gathered
              rw [List.map_append, map_fst_of_locateAll found, ih others, List.flatMap_cons,
                expansion_of_expand expanded]

/-- Looking for locations that were not seen leaves out the repeats, and what was seen before. -/
theorem firstOccurrences_eq (seen : List Location)
    (same : ∀ entry ∈ located, tree.canonical entry.1 = .ok entry.2) :
    firstOccurrences seen located =
      (withoutRepeats tree (located.map Prod.fst)).filter fun path =>
        ∀ location ∈ seen, tree.canonical path ≠ .ok location := by
  fun_induction firstOccurrences seen located with
  | case1 => rfl
  | case2 seen path location rest known ih =>
      have leads : tree.canonical path = .ok location := same _ List.mem_cons_self
      have inside : location ∈ seen := by simpa using known
      rw [ih fun entry mem => same entry (List.mem_cons_of_mem _ mem), List.map_cons,
        withoutRepeats_cons, List.filter_cons_of_neg (by simpa [leads] using inside)]
      symm
      apply filter_filter_of_iff
      intro other
      refine ⟨And.left, fun fresh => ⟨fresh, ?_⟩⟩
      rw [leads]
      exact fun alike => fresh location inside alike.symm
  | case3 seen path location rest unknown ih =>
      have leads : tree.canonical path = .ok location := same _ List.mem_cons_self
      have outside : location ∉ seen := by simpa using unknown
      have kept : ∀ other ∈ seen, tree.canonical path ≠ .ok other := by
        intro other mem alike
        obtain rfl := Except.ok.inj (leads.symm.trans alike)
        exact outside mem
      rw [ih fun entry mem => same entry (List.mem_cons_of_mem _ mem), List.map_cons,
        withoutRepeats_cons, List.filter_cons_of_pos (by simpa using kept)]
      congr 1
      symm
      apply filter_filter_of_iff
      intro other
      rw [List.forall_mem_cons, leads, and_comm, ne_comm]

/-- A search ends with a list of paths exactly if its rules can be loaded and no target makes it
fail, and then the list is what is left of the expansions. -/
theorem run_eq_ok_iff : (run tree query).2 = .ok found ↔
    ∃ rules, rulesFor tree query = .ok rules ∧
      (∀ target ∈ query.targets, ¬ TargetEscapes tree query rules target) ∧
      found = withoutRepeats tree (query.targets.flatMap (expansion tree query rules)) := by
  rw [run]
  cases loaded : rulesFor tree query with
  | error failure => simp
  | ok rules =>
      have decided := gather_decides tree query rules query.targets
      rcases gathered : gather tree query rules query.targets with ⟨records, failure | located⟩
      · rw [gathered] at decided
        have escapes : ∃ target ∈ query.targets, TargetEscapes tree query rules target := by
          by_contra none
          simp_all [Decides]
        simp only [gathered, reduceCtorEq, false_iff]
        rintro ⟨_, ⟨rfl⟩, fine, -⟩
        obtain ⟨target, mem, fails⟩ := escapes
        exact fine target mem fails
      · rw [gathered] at decided
        have whole := map_fst_of_gather (congrArg Prod.snd gathered)
        have origin := of_mem_gather (congrArg Prod.snd gathered)
        have kept := firstOccurrences_eq [] fun entry mem => (origin entry mem).1
        have fine : ∀ target ∈ query.targets, ¬ TargetEscapes tree query rules target :=
          fun target mem escapes => decided.1 ⟨target, mem, escapes⟩
        simp only [gathered, Except.ok.injEq, whole, kept]
        constructor
        · rintro rfl
          exact ⟨rules, rfl, fine, by simp⟩
        · rintro ⟨_, ⟨rfl⟩, -, rfl⟩
          simp

end DocAudit.Discovery
