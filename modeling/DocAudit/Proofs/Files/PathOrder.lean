import DocAudit.Files.Path
import Mathlib.Data.Char
import Mathlib.Data.List.Lex
import Mathlib.Order.Lattice

/-!
# The order of paths

Texts are compared character by character and paths component by component. Both comparisons are the
lexicographic order of lists, so sorted paths ascend, and strictly if none of them occurs twice.
-/

namespace DocAudit

section

variable {α : Type} [LinearOrder α]

theorem nil_le_list (items : List α) : [] ≤ items :=
  not_lt.mp (List.not_lt_nil items)

theorem cons_le_cons_iff_lex {first other : α} {rest more : List α} :
    first :: rest ≤ other :: more ↔ first < other ∨ first = other ∧ rest ≤ more := by
  rw [le_iff_lt_or_eq, List.cons_lt_cons_iff, List.cons.injEq, or_assoc, ← and_or_left,
    le_iff_lt_or_eq]

end

theorem Text.le_iff (text other : Text) : Text.le text other ↔ text ≤ other := by
  fun_induction Text.le text other with
  | case1 other => simp [nil_le_list]
  | case2 c rest => simp
  | case3 c rest d more ih =>
      rw [Bool.or_eq_true, Bool.and_eq_true, decide_eq_true_eq, beq_iff_eq, ih,
        cons_le_cons_iff_lex]
      rfl

namespace Path

theorem partsLe_iff (parts others : List Text) : partsLe parts others ↔ parts ≤ others := by
  fun_induction partsLe parts others with
  | case1 others => simp [nil_le_list]
  | case2 part rest => simp
  | case3 rest other more ih => simp [ih, cons_le_cons_iff_lex]
  | case4 part rest other more differ =>
      rw [Text.le_iff, cons_le_cons_iff_lex, le_iff_lt_or_eq]
      simp [differ]

/-- The paths of a list ascend strictly, component by component. -/
def Ascending (paths : List Path) : Prop :=
  paths.Pairwise fun path other => path.parts < other.parts

variable {paths : List Path}

/-- Sorting distinct paths with one kind of root makes them ascend strictly. -/
theorem ascending_mergeSort (distinct : paths.Nodup) {root : PathRoot}
    (rooted : ∀ path ∈ paths, path.root = root) : Ascending (paths.mergeSort Path.le) := by
  have trans (first second third : Path) (below : first.le second) (further : second.le third) :
      first.le third := by
    rw [Path.le, partsLe_iff] at *
    exact below.trans further
  have total (first second : Path) : first.le second || second.le first := by
    rw [Path.le, Path.le, Bool.or_eq_true, partsLe_iff, partsLe_iff]
    exact le_total _ _
  have sorted := List.pairwise_mergeSort trans total paths
  have apart : (paths.mergeSort Path.le).Pairwise (· ≠ ·) :=
    (List.mergeSort_perm paths Path.le).nodup_iff.mpr distinct
  refine (sorted.and apart).imp_of_mem fun {path other} mem otherMem ⟨least, differ⟩ => ?_
  rw [Path.le, partsLe_iff] at least
  refine lt_of_le_of_ne least fun same => differ ?_
  have sameRoot : path.root = other.root :=
    (rooted path (List.mem_mergeSort.mp mem)).trans
      (rooted other (List.mem_mergeSort.mp otherMem)).symm
  obtain ⟨pathRoot, parts⟩ := path
  obtain ⟨otherRoot, others⟩ := other
  rw [Path.mk.injEq]
  exact ⟨sameRoot, same⟩

end Path

end DocAudit
