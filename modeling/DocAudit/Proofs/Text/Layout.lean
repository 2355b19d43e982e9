import DocAudit.Proofs.Text.Cutting
import DocAudit.Text.Wrap

/-!
# The characters of laid out text

A text that is fitted into cells, freed of tabs or wrapped into lines is cut into parts, of which some
are dropped, and spaces are put between and behind them. No other character gets in: whatever stands
in the result and is not a space stood in the text.
-/

namespace DocAudit.Text

/-- The characters of a glyph. -/
def Glyph.text : Glyph → Text
  | single c => [c]
  | joined text => text

variable {text shown line : Text} {c : Char} {width : Nat}

/-- What holds characters of one text and spaces holds those of a longer text and spaces. -/
theorem subset_cons_of_subset {part whole : Text} (first : shown ⊆ c :: part)
    (second : part ⊆ c :: whole) : shown ⊆ c :: whole :=
  List.Subset.trans first (List.cons_subset.mpr ⟨List.mem_cons_self, second⟩)

theorem spaces_subset (n : Nat) (text : Text) : spaces n ⊆ ' ' :: text := by
  intro c mem
  rw [List.eq_of_mem_replicate mem]
  exact List.mem_cons_self

theorem showable_subset (text : Text) : showable text ⊆ text :=
  fun _ mem => List.mem_of_mem_filter mem

/-! ## Tabs -/

theorem mem_of_mem_expandFrom {column : Nat} {parts : List Text} (mem : c ∈ expandFrom column parts) :
    c = ' ' ∨ ∃ part ∈ parts, c ∈ part := by
  fun_induction expandFrom column parts with
  | case1 => cases mem
  | case2 column last => exact .inr ⟨last, by simp, mem⟩
  | case3 column part rest more shown reached stop ih =>
      rw [List.mem_append, List.mem_append, List.mem_append, List.mem_singleton] at mem
      rcases mem with ((mem | blank) | blank) | mem
      · exact .inr ⟨part, by simp, mem⟩
      · exact .inl blank
      · exact .inl (List.eq_of_mem_replicate blank)
      · rcases ih mem with blank | ⟨other, memOther, mem⟩
        · exact .inl blank
        · exact .inr ⟨other, by simp [memOther], mem⟩

theorem expandTabs_subset (line : Text) : expandTabs line ⊆ ' ' :: line := by
  intro c mem
  rcases mem_of_mem_expandFrom mem with rfl | ⟨part, cut, mem⟩
  · exact List.mem_cons_self
  · exact List.mem_cons_of_mem _ (mem_of_mem_splitOn cut mem)

/-! ## Clusters -/

theorem flatMap_text_glyphs (text : Text) : (glyphs text).flatMap Glyph.text = text := by
  fun_induction glyphs text with
  | case1 => rfl
  | case2 c => split <;> rfl
  | case3 next rest ih => rw [List.flatMap_cons, ih]; rfl
  | case4 c next rest plain ih => rw [List.flatMap_cons, ih]; rfl

/-- Clusters are the glyphs in order, behind the cluster that is begun. -/
theorem flatMap_text_clustersFrom (cluster : Cluster) (widens : Bool) (rest : List Glyph) :
    (clustersFrom cluster widens rest).flatMap Cluster.text =
      cluster.text ++ rest.flatMap Glyph.text := by
  fun_induction clustersFrom cluster widens rest with
  | case1 cluster => simp
  | case2 cluster widens text rest ih => rw [ih]; simp [Cluster.extend, Glyph.text]
  | case3 cluster widens c rest added after _ _ ih => rw [ih]; simp [Cluster.extend, Glyph.text]
  | case4 cluster widens c rest added after _ _ ih => rw [List.flatMap_cons, ih]; simp [Glyph.text]

/-- Cutting a text into clusters loses nothing. -/
theorem flatMap_text_clusters (text : Text) : (clusters text).flatMap Cluster.text = text := by
  cases text with
  | nil => rfl
  | cons c rest => rw [clusters, flatMap_text_clustersFrom, flatMap_text_glyphs, List.singleton_append]

theorem cut_subset (room : Nat) (pieces : List Cluster) :
    cut room pieces ⊆ ' ' :: pieces.flatMap Cluster.text := by
  fun_induction cut room pieces with
  | case1 | case2 => exact List.nil_subset _
  | case3 room cluster rest _ _ ih =>
      rw [List.flatMap_cons]
      refine List.append_subset.mpr ⟨?_, subset_cons_of_subset ih ?_⟩
      · exact List.subset_cons_of_subset _ (List.subset_append_left _ _)
      · exact List.subset_cons_of_subset _ (List.subset_append_right _ _)
  | case4 => exact List.cons_subset.mpr ⟨List.mem_cons_self, List.nil_subset _⟩

/-- Bringing a text to a number of cells puts in nothing but spaces. -/
theorem fit_subset (width : Nat) (text : Text) : fit width text ⊆ ' ' :: text := by
  rw [fit]
  split
  · exact List.append_subset.mpr ⟨List.subset_cons_self _ _, spaces_subset _ _⟩
  · have kept := cut_subset width (clusters text)
    rwa [flatMap_text_clusters] at kept

/-! ## Words -/

theorem flatten_runs (text : Text) : (runs text).flatten = text := by
  fun_induction runs text with
  | case1 => rfl
  | case2 c rest none ih => rw [none] at ih; simpa using ih
  | case3 c rest run others cut _ ih => rw [cut] at ih; simpa using ih
  | case4 c rest run others cut _ ih => rw [cut] at ih; simpa using ih

theorem flatten_words_subset (text : Text) : (words text).flatten ⊆ text := by
  have whole := flatten_runs text
  rw [words]
  split
  · exact List.nil_subset _
  · next run cut =>
    rw [cut] at whole
    split
    · exact List.nil_subset _
    · exact whole ▸ List.Subset.refl _
  · next first second others cut =>
    rw [cut] at whole
    split
    · rw [← whole]
      simp
    · exact whole ▸ List.Subset.refl _

/-- The pieces of a word have the characters of its clusters, behind the piece that is begun. -/
theorem subset_of_mem_chopFrom {piece : Text} {used : Nat} {rest : List Cluster}
    (mem : shown ∈ chopFrom width piece used rest) :
    shown ⊆ piece ++ rest.flatMap Cluster.text := by
  fun_induction chopFrom width piece used rest with
  | case1 => cases mem
  | case2 piece used => rw [List.mem_singleton.mp mem]; exact List.subset_append_left _ _
  | case3 piece used cluster rest _ ih => simpa using ih mem
  | case4 piece used cluster rest _ ih =>
      rcases List.mem_cons.mp mem with rfl | mem
      · exact List.subset_append_left _ _
      · exact List.subset_append_of_subset_right _ (ih mem)

theorem subset_of_mem_chop {word : Text} (mem : shown ∈ chop width word) : shown ⊆ word := by
  have kept := subset_of_mem_chopFrom mem
  rwa [flatMap_text_clusters, List.nil_append] at kept

/-- A word that is cut behind a line gives parts of both. -/
theorem subset_of_mem_begun {word : Text}
    (mem : shown ∈ if line = [] then (chop width word).dropWhile (·.isEmpty)
      else line :: chop width word) : shown ⊆ line ++ word := by
  split at mem
  · have kept := (List.dropWhile_sublist _).subset mem
    exact List.subset_append_of_subset_right _ (subset_of_mem_chop kept)
  · rcases List.mem_cons.mp mem with rfl | mem
    · exact List.subset_append_left _ _
    · exact List.subset_append_of_subset_right _ (subset_of_mem_chop mem)

/-- Lines that are filled with words have their characters, behind the line that is begun. -/
theorem subset_of_mem_fill {used : Nat} {rest : List Text}
    (mem : shown ∈ fill width line used rest) : shown ⊆ line ++ rest.flatten := by
  induction rest generalizing line used with
  | nil =>
      rw [List.mem_singleton.mp mem]
      exact List.subset_append_left _ _
  | cons word rest ih =>
      simp only [fill] at mem
      split at mem
      case isTrue fits => simpa using ih mem
      case isFalse full =>
        split at mem
        case isTrue fits =>
          rcases List.mem_cons.mp mem with rfl | mem
          · exact List.subset_append_left _ _
          · exact List.subset_append_of_subset_right _ (ih mem)
        case isFalse long =>
          split at mem
          case h_2 none => simpa using ih mem
          case h_1 last ends =>
            rw [List.flatten_cons, ← List.append_assoc]
            rcases List.mem_append.mp mem with mem | mem
            · have begun := subset_of_mem_begun (List.dropLast_subset _ mem)
              exact List.subset_append_of_subset_left _ begun
            · have inLast := subset_of_mem_chop (List.mem_of_getLast? ends)
              have inWord := List.subset_append_of_subset_right line inLast
              exact List.Subset.trans (ih mem) (List.append_subset.mpr
                ⟨List.subset_append_of_subset_left _ inWord, List.subset_append_right _ _⟩)

/-! ## Lines -/

theorem dropExcessBlanks_subset (width : Nat) (line : Text) : dropExcessBlanks width line ⊆ line :=
  List.take_subset _ line

theorem align_subset (alignment : Alignment) (width : Nat) (line : Text) :
    align alignment width line ⊆ ' ' :: line := by
  cases alignment with
  | left => exact fit_subset width line
  | right =>
      have content : trimEnd line ⊆ ' ' :: line :=
        List.subset_cons_of_subset _ (isPrefix_dropEndWhile _ line).subset
      rw [align]
      refine List.append_subset.mpr ⟨spaces_subset _ _, ?_⟩
      split
      · exact subset_cons_of_subset (fit_subset width _) content
      · exact content

theorem subset_of_mem_wrapLine {alignment : Alignment}
    (mem : shown ∈ wrapLine alignment width line) : shown ⊆ ' ' :: line := by
  obtain ⟨filled, inside, rfl⟩ := List.mem_map.mp mem
  refine subset_cons_of_subset (align_subset alignment width _) ?_
  refine List.Subset.trans (dropExcessBlanks_subset width filled) ?_
  refine List.Subset.trans ?_ (expandTabs_subset line)
  split at inside
  · rw [List.mem_singleton.mp inside]
    exact List.Subset.refl _
  · exact List.Subset.trans (subset_of_mem_fill inside) (flatten_words_subset _)

/-- Wrapping a text into a column puts in nothing but spaces. -/
theorem subset_of_mem_wrap {alignment : Alignment} (mem : shown ∈ wrap alignment width text) :
    shown ⊆ ' ' :: text := by
  obtain ⟨line, cut, mem⟩ := List.mem_flatMap.mp mem
  refine subset_cons_of_subset (subset_of_mem_wrapLine mem) (List.subset_cons_of_subset _ ?_)
  exact fun c inside => showable_subset text (mem_of_mem_splitOn cut inside)

end DocAudit.Text
