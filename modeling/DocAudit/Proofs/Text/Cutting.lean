import DocAudit.Text.Basic
import Mathlib.Data.List.DropRight

/-!
# Cutting and trimming text

What the operations on text do to texts that are put together from parts. Cutting undoes joining
as long as no part holds the separator, and trimming leaves texts without blanks alone.
-/

namespace DocAudit.Text

variable {text expected : Text} {c separator : Char}

/-! ## Beginnings -/

theorem startsWith_iff : startsWith text expected = true ↔ expected <+: text := by
  fun_induction startsWith text expected with
  | case1 => simp
  | case2 => simp
  | case3 c text d expected ih =>
      rw [Bool.and_eq_true, beq_iff_eq, ih, List.cons_prefix_cons, eq_comm]

/-- A run of characters is taken whole if the next character is outside of it. -/
theorem takeWhile_append_stop {test : Char → Bool} (all : ∀ c ∈ text, test c) (rest : Text)
    (stop : rest.head?.all fun c => !test c) :
    (text ++ rest).takeWhile test = text ∧ (text ++ rest).dropWhile test = rest := by
  rw [List.takeWhile_append_of_pos all, List.dropWhile_append_of_pos all]
  cases rest with
  | nil => simp
  | cons c rest =>
      have outside : ¬ test c := by simpa using stop
      rw [List.takeWhile_cons_of_neg outside, List.dropWhile_cons_of_neg outside, List.append_nil]
      exact ⟨rfl, rfl⟩

/-! ## Blanks -/

theorem trimStart_append_of_allBlank {before : Text} (blank : allBlank before) :
    trimStart (before ++ text) = trimStart text :=
  List.dropWhile_append_of_pos (List.all_eq_true.mp blank)

theorem trimStart_cons_of_not_isBlank (visible : isBlank c = false) :
    trimStart (c :: text) = c :: text :=
  List.dropWhile_cons_of_neg (by simp [visible])

/-- A text begins with its leading blanks, and what remains is its trimmed form. -/
theorem takeWhile_append_trimStart (text : Text) :
    text.takeWhile isBlank ++ trimStart text = text :=
  List.takeWhile_append_dropWhile

theorem allBlank_append (text rest : Text) :
    allBlank (text ++ rest) = (allBlank text && allBlank rest) :=
  List.all_append

theorem allBlank_takeWhile (text : Text) : allBlank (text.takeWhile isBlank) :=
  List.all_takeWhile

/-! ## Trimming -/

section

variable {test : Char → Bool}

theorem dropEndWhile_eq_rdropWhile (test : Char → Bool) (text : Text) :
    dropEndWhile test text = text.rdropWhile test := by
  induction text with
  | nil => rfl
  | cons c rest ih =>
      rw [dropEndWhile, List.foldr_cons, ← dropEndWhile, ih, List.rdropWhile, List.rdropWhile,
        List.reverse_cons, List.dropWhile_append, List.isEmpty_reverse]
      generalize rest.reverse.dropWhile test = kept
      cases kept <;> cases dropped : test c <;> simp [dropped]

theorem dropEndWhile_eq_self (kept : ∀ c ∈ text, test c = false) :
    dropEndWhile test text = text := by
  rw [dropEndWhile_eq_rdropWhile, List.rdropWhile_eq_self_iff]
  intro filled
  rw [kept _ (List.getLast_mem filled)]
  exact Bool.false_ne_true

/-- A text ending in characters that pass the test loses these characters. -/
theorem dropEndWhile_append_of_pos {after : Text} (dropped : ∀ c ∈ after, test c = true) :
    dropEndWhile test (text ++ after) = dropEndWhile test text := by
  rw [dropEndWhile_eq_rdropWhile, dropEndWhile_eq_rdropWhile, List.rdropWhile, List.reverse_append,
    List.dropWhile_append_of_pos fun c mem => dropped c (List.mem_reverse.mp mem), ← List.rdropWhile]

theorem dropEndWhile_append (test : Char → Bool) (before text : Text) :
    dropEndWhile test (before ++ text) =
      if dropEndWhile test text = [] then dropEndWhile test before
      else before ++ dropEndWhile test text := by
  have emptied : text.reverse.dropWhile test = [] ↔ dropEndWhile test text = [] := by
    rw [dropEndWhile_eq_rdropWhile, List.rdropWhile, List.reverse_eq_nil_iff]
  rw [dropEndWhile_eq_rdropWhile, List.rdropWhile, List.reverse_append, List.dropWhile_append]
  simp only [List.isEmpty_iff, emptied]
  split
  · rw [← List.rdropWhile, ← dropEndWhile_eq_rdropWhile]
  · rw [List.reverse_append, List.reverse_reverse, ← List.rdropWhile, ← dropEndWhile_eq_rdropWhile]

theorem dropEndWhile_cons (kept : ¬ test c) (rest : Text) :
    dropEndWhile test (c :: rest) = c :: dropEndWhile test rest := by
  rw [dropEndWhile, List.foldr_cons, ← dropEndWhile, if_neg (by simp [kept])]

/-- Characters are dropped at the end up to one that does not pass the test. -/
theorem dropEndWhile_append_cons (kept : ¬ test c) (before rest : Text) :
    dropEndWhile test (before ++ c :: rest) = before ++ c :: dropEndWhile test rest := by
  rw [dropEndWhile_append, dropEndWhile_cons kept, if_neg (List.cons_ne_nil _ _)]

/-- Trimming the end takes characters away and adds none. -/
theorem isPrefix_dropEndWhile (test : Char → Bool) (text : Text) :
    dropEndWhile test text <+: text := by
  rw [dropEndWhile_eq_rdropWhile]
  exact List.rdropWhile_prefix _ _

end

/-- What is trimmed stands in the text as it was. -/
theorem isInfix_trim (text : Text) : trim text <:+: text :=
  (isPrefix_dropEndWhile _ _).isInfix.trans (List.dropWhile_suffix _).isInfix

theorem trim_eq_self (visible : ∀ c ∈ text, isBlank c = false) : trim text = text := by
  have left : trimStart text = text := by
    cases text with
    | nil => rfl
    | cons c rest => exact trimStart_cons_of_not_isBlank (visible c (by simp))
  rw [trim, left, trimEnd, dropEndWhile_eq_self visible]

theorem trim_append_of_allBlank {after : Text} (visible : ∀ c ∈ text, isBlank c = false)
    (nonempty : text ≠ []) (blank : allBlank after) : trim (text ++ after) = text := by
  obtain ⟨c, rest, rfl⟩ := List.exists_cons_of_ne_nil nonempty
  rw [trim, List.cons_append, trimStart_cons_of_not_isBlank (visible c (by simp)), trimEnd,
    ← List.cons_append, dropEndWhile_append_of_pos (List.all_eq_true.mp blank),
    dropEndWhile_eq_self visible]

/-! ## Cutting -/

/-- The part in front of the first separator is the first piece. -/
theorem splitOn_append_cons (absent : separator ∉ text) (rest : Text) :
    splitOn separator (text ++ separator :: rest) = text :: splitOn separator rest := by
  induction text with
  | nil => simp [splitOn]
  | cons c front ih =>
      have distinct : c ≠ separator := fun equal => absent (by simp [equal])
      rw [List.cons_append, splitOn, if_neg distinct, ih fun mem => absent (by simp [mem])]

theorem splitOn_of_not_mem (absent : separator ∉ text) : splitOn separator text = [text] := by
  induction text with
  | nil => rfl
  | cons c rest ih =>
      have distinct : c ≠ separator := fun equal => absent (by simp [equal])
      rw [splitOn, if_neg distinct, ih fun mem => absent (by simp [mem])]

/-- Cutting a joined text gives the pieces back. -/
theorem splitOn_joinWith {pieces : List Text} (nonempty : pieces ≠ [])
    (absent : ∀ piece ∈ pieces, separator ∉ piece) :
    splitOn separator (joinWith [separator] pieces) = pieces := by
  fun_induction joinWith [separator] pieces with
  | case1 => exact absurd rfl nonempty
  | case2 piece => exact splitOn_of_not_mem (absent piece (by simp))
  | case3 piece pieces more ih =>
      have others := ih (by simpa using more) fun other mem => absent other (by simp [mem])
      rw [List.append_assoc, List.singleton_append,
        splitOn_append_cons (absent piece (by simp)), others]

/-- Pieces that each end with the separator are cut into themselves and an empty rest. -/
theorem splitOn_flatMap {pieces : List Text} (absent : ∀ piece ∈ pieces, separator ∉ piece) :
    splitOn separator (pieces.flatMap (· ++ [separator])) = pieces ++ [[]] := by
  induction pieces with
  | nil => rfl
  | cons piece rest ih =>
      obtain ⟨first, others⟩ := List.forall_mem_cons.mp absent
      rw [List.flatMap_cons, List.append_assoc, List.singleton_append,
        splitOn_append_cons first, ih others, List.cons_append]

/-- There is one more piece than there are separators. -/
theorem length_splitOn (separator : Char) (text : Text) :
    (splitOn separator text).length = text.count separator + 1 := by
  fun_induction splitOn separator text with
  | case1 => rfl
  | case2 rest ih => rw [List.length_cons, ih, List.count_cons_self]
  | case3 c rest distinct empty ih => rw [empty] at ih; exact absurd ih (by simp)
  | case4 c rest distinct piece pieces cut ih =>
      rw [cut, List.length_cons] at ih
      rw [List.length_cons, ih, List.count_cons_of_ne distinct]

theorem splitOn_ne_nil (separator : Char) (text : Text) : splitOn separator text ≠ [] := by
  rw [← List.length_pos_iff, length_splitOn]
  exact Nat.succ_pos _

/-- A text is cut as any list of characters is. -/
theorem splitOn_eq_splitOn (separator : Char) (text : Text) :
    splitOn separator text = List.splitOn separator text := by
  induction text with
  | nil => rw [splitOn, List.splitOn_nil]
  | cons c rest ih =>
      rw [List.splitOn_cons_eq_if_modifyHead, ← ih]
      by_cases same : c = separator
      · rw [splitOn, if_pos same, if_pos (beq_iff_eq.mpr same)]
      · obtain ⟨piece, others, cut⟩ := List.exists_cons_of_ne_nil (splitOn_ne_nil separator rest)
        simp only [splitOn, if_neg same, beq_iff_eq, cut, List.modifyHead_cons]

/-- A separator between two texts separates their pieces. -/
theorem splitOn_append_separator (separator : Char) (text more : Text) :
    splitOn separator (text ++ separator :: more) =
      splitOn separator text ++ splitOn separator more := by
  induction text with
  | nil => simp [splitOn]
  | cons c rest ih =>
      by_cases same : c = separator
      · rw [List.cons_append, splitOn, if_pos same, ih, splitOn, if_pos same,
          List.cons_append]
      · obtain ⟨piece, others, cut⟩ := List.exists_cons_of_ne_nil (splitOn_ne_nil separator rest)
        simp only [List.cons_append, splitOn, if_neg same, ih, cut]

/-- A character of a piece stands in the text. -/
theorem mem_of_mem_splitOn {piece : Text} (cut : piece ∈ splitOn separator text) (mem : c ∈ piece) :
    c ∈ text := by
  fun_induction splitOn separator text generalizing piece with
  | case1 => rwa [List.mem_singleton.mp cut] at mem
  | case2 rest ih =>
      rcases List.mem_cons.mp cut with rfl | cut
      · exact absurd mem List.not_mem_nil
      · exact List.mem_cons_of_mem _ (ih cut mem)
  | case3 d rest distinct empty ih =>
      rw [List.mem_singleton.mp cut, List.mem_singleton] at mem
      rw [mem]
      exact List.mem_cons_self
  | case4 d rest distinct first pieces split ih =>
      rcases List.mem_cons.mp cut with rfl | cut
      · rcases List.mem_cons.mp mem with rfl | mem
        · exact List.mem_cons_self
        · exact List.mem_cons_of_mem _ (ih (by rw [split]; exact List.mem_cons_self) mem)
      · exact List.mem_cons_of_mem _ (ih (by rw [split]; exact List.mem_cons_of_mem _ cut) mem)

/-- No piece holds the separator. -/
theorem not_mem_of_mem_splitOn {piece : Text} (cut : piece ∈ splitOn separator text) :
    separator ∉ piece := by
  fun_induction splitOn separator text generalizing piece with
  | case1 => rw [List.mem_singleton.mp cut]; exact List.not_mem_nil
  | case2 rest ih =>
      rcases List.mem_cons.mp cut with rfl | cut
      · exact List.not_mem_nil
      · exact ih cut
  | case3 d rest distinct empty ih =>
      rw [List.mem_singleton.mp cut, List.mem_singleton]
      exact Ne.symm distinct
  | case4 d rest distinct first pieces split ih =>
      rcases List.mem_cons.mp cut with rfl | cut
      · rw [List.mem_cons, not_or]
        exact ⟨Ne.symm distinct, ih (by rw [split]; exact List.mem_cons_self)⟩
      · exact ih (by rw [split]; exact List.mem_cons_of_mem _ cut)

theorem joinWith_cons_cons (between first second : Text) (others : List Text) :
    joinWith between (first :: second :: others) =
      first ++ between ++ joinWith between (second :: others) :=
  rfl

/-- Joining the pieces gives the text back. -/
theorem joinWith_splitOn (separator : Char) (text : Text) :
    joinWith [separator] (splitOn separator text) = text := by
  fun_induction splitOn separator text with
  | case1 => rfl
  | case2 rest ih =>
      obtain ⟨piece, others, cut⟩ := List.exists_cons_of_ne_nil (splitOn_ne_nil separator rest)
      rw [cut] at ih ⊢
      rw [joinWith_cons_cons, ih, List.nil_append, List.singleton_append]
  | case3 d rest distinct empty ih =>
      rw [empty, joinWith] at ih
      rw [← ih, joinWith]
  | case4 d rest distinct piece pieces cut ih =>
      rw [cut] at ih
      cases pieces with
      | nil => rw [← ih, joinWith, joinWith]
      | cons second others => rw [← ih, joinWith_cons_cons, joinWith_cons_cons]; rfl

/-- A text that does not begin with the separator has a first piece that begins like it. -/
theorem exists_splitOn_cons (distinct : c ≠ separator) (rest : Text) :
    ∃ piece pieces, splitOn separator (c :: rest) = (c :: piece) :: pieces := by
  rw [splitOn, if_neg distinct]
  split
  · exact ⟨[], [], rfl⟩
  · exact ⟨_, _, rfl⟩

theorem count_eraseFirst (distinct : c ≠ separator) (text : Text) :
    (eraseFirst separator text).count c = text.count c := by
  fun_induction eraseFirst separator text with
  | case1 => rfl
  | case2 rest => rw [List.count_cons_of_ne distinct.symm]
  | case3 d rest _ ih => rw [List.count_cons, List.count_cons, ih]

/-- A joined text holds as many marks of the separator as there are neighbours. -/
theorem count_joinWith {pieces : List Text} {between : Text} (once : between.count separator = 1)
    (absent : ∀ piece ∈ pieces, separator ∉ piece) :
    (joinWith between pieces).count separator = pieces.length - 1 := by
  fun_induction joinWith between pieces with
  | case1 => rfl
  | case2 piece => exact List.count_eq_zero_of_not_mem (absent piece (by simp))
  | case3 piece pieces more ih =>
      have others := ih fun other mem => absent other (by simp [mem])
      have filled : pieces ≠ [] := by simpa using more
      have positive := List.length_pos_iff.mpr filled
      rw [List.count_append, List.count_append, once, others,
        List.count_eq_zero_of_not_mem (absent piece (by simp)), List.length_cons]
      omega

/-- A character of a joined text stands in a piece or between pieces. -/
theorem mem_of_mem_joinWith {pieces : List Text} {between : Text}
    (mem : c ∈ joinWith between pieces) : c ∈ between ∨ ∃ piece ∈ pieces, c ∈ piece := by
  fun_induction joinWith between pieces with
  | case1 => exact absurd mem List.not_mem_nil
  | case2 piece => exact .inr ⟨piece, by simp, mem⟩
  | case3 piece pieces more ih =>
      rw [List.append_assoc, List.mem_append, List.mem_append] at mem
      rcases mem with mem | mem | mem
      · exact .inr ⟨piece, by simp, mem⟩
      · exact .inl mem
      · rcases ih mem with mem | ⟨other, memOther, mem⟩
        · exact .inl mem
        · exact .inr ⟨other, by simp [memOther], mem⟩

/-- An empty last piece leaves a separator at the end. -/
theorem joinWith_append_nil {pieces : List Text} (nonempty : pieces ≠ []) (between : Text) :
    joinWith between (pieces ++ [[]]) = joinWith between pieces ++ between := by
  fun_induction joinWith between pieces with
  | case1 => exact absurd rfl nonempty
  | case2 piece => simp [joinWith]
  | case3 piece pieces more ih =>
      have filled : pieces ≠ [] := by simpa using more
      obtain ⟨second, others, rfl⟩ := List.exists_cons_of_ne_nil filled
      rw [List.cons_append, List.cons_append, joinWith_cons_cons, ← List.cons_append, ih filled]
      simp

/-! ## First and last pieces -/

/-- The part of a text in front of the first separator. -/
def firstPiece (separator : Char) (text : Text) : Text :=
  text.takeWhile (· ≠ separator)

/-- The part of a text behind the last separator. -/
def lastPiece (separator : Char) (text : Text) : Text :=
  (text.reverse.takeWhile (· ≠ separator)).reverse

theorem firstPiece_of_not_mem (absent : separator ∉ text) : firstPiece separator text = text := by
  have kept : ∀ c ∈ text, decide (c ≠ separator) := by
    intro c mem
    have distinct : c ≠ separator := fun equal => absent (equal ▸ mem)
    simpa using distinct
  have whole := (takeWhile_append_stop kept [] rfl).1
  rwa [List.append_nil] at whole

theorem firstPiece_append_cons (absent : separator ∉ text) (rest : Text) :
    firstPiece separator (text ++ separator :: rest) = text := by
  have kept : ∀ c ∈ text, decide (c ≠ separator) := by
    intro c mem
    have distinct : c ≠ separator := fun equal => absent (equal ▸ mem)
    simpa using distinct
  exact (takeWhile_append_stop kept (separator :: rest) (by simp)).1

theorem lastPiece_of_not_mem (absent : separator ∉ text) : lastPiece separator text = text := by
  have absentThere : separator ∉ text.reverse := by simpa using absent
  have reversed := firstPiece_of_not_mem absentThere
  rw [firstPiece] at reversed
  rw [lastPiece, reversed, List.reverse_reverse]

theorem lastPiece_append_cons (absent : separator ∉ text) (before : Text) :
    lastPiece separator (before ++ separator :: text) = text := by
  have absentThere : separator ∉ text.reverse := by simpa using absent
  have reversed := firstPiece_append_cons absentThere before.reverse
  rw [firstPiece] at reversed
  rw [lastPiece, List.reverse_append, List.reverse_cons, List.append_assoc, List.singleton_append,
    reversed, List.reverse_reverse]

theorem mem_of_mem_firstPiece (mem : c ∈ firstPiece separator text) : c ∈ text :=
  (List.takeWhile_sublist _).subset mem

theorem mem_of_mem_lastPiece (mem : c ∈ lastPiece separator text) : c ∈ text :=
  List.mem_reverse.mp ((List.takeWhile_sublist _).subset (List.mem_reverse.mp mem))

/-- A text with a separator ends with a piece behind the last one. -/
theorem exists_eq_append_cons_of_mem (mem : separator ∈ text) :
    ∃ before piece, text = before ++ separator :: piece ∧ separator ∉ piece := by
  obtain ⟨front, rest, reversed, absent⟩ := List.eq_append_cons_of_mem (List.mem_reverse.mpr mem)
  refine ⟨rest.reverse, front.reverse, ?_, by simpa using absent⟩
  rw [← List.reverse_reverse text, reversed]
  simp

/-- What stands in front of a separator does not show in the last piece. -/
theorem lastPiece_append_of_mem (mem : separator ∈ text) (before : Text) :
    lastPiece separator (before ++ text) = lastPiece separator text := by
  obtain ⟨front, piece, rfl, absent⟩ := exists_eq_append_cons_of_mem mem
  rw [← List.append_assoc, lastPiece_append_cons absent, lastPiece_append_cons absent]

/-- Without a separator in it a text belongs to the last piece. -/
theorem lastPiece_append_of_not_mem (absent : separator ∉ text) (before : Text) :
    lastPiece separator (before ++ text) = lastPiece separator before ++ text := by
  by_cases mem : separator ∈ before
  · obtain ⟨front, piece, rfl, none⟩ := exists_eq_append_cons_of_mem mem
    have both : separator ∉ piece ++ text := by
      rw [List.mem_append, not_or]
      exact ⟨none, absent⟩
    rw [List.append_assoc, List.cons_append, lastPiece_append_cons both,
      lastPiece_append_cons none]
  · have both : separator ∉ before ++ text := by
      rw [List.mem_append, not_or]
      exact ⟨mem, absent⟩
    rw [lastPiece_of_not_mem mem, lastPiece_of_not_mem both]

/-- A text in front of another one is part of its first piece. -/
theorem exists_splitOn_append_first (separator : Char) (after : Text) : ∃ lasts,
    ∀ text, separator ∉ text →
      splitOn separator (text ++ after) = (text ++ firstPiece separator after) :: lasts := by
  by_cases mem : separator ∈ after
  · obtain ⟨piece, rest, rfl, none⟩ := List.eq_append_cons_of_mem mem
    refine ⟨splitOn separator rest, ?_⟩
    intro text absent
    have both : separator ∉ text ++ piece := by
      rw [List.mem_append, not_or]
      exact ⟨absent, none⟩
    rw [← List.append_assoc, splitOn_append_cons both, firstPiece_append_cons none]
  · refine ⟨[], ?_⟩
    intro text absent
    have both : separator ∉ text ++ after := by
      rw [List.mem_append, not_or]
      exact ⟨absent, mem⟩
    rw [firstPiece_of_not_mem mem, splitOn_of_not_mem both]

/-- A text between two others is part of one piece, and the other pieces do not depend on it. -/
theorem exists_splitOn_append (separator : Char) (before after : Text) : ∃ firsts lasts,
    ∀ text, separator ∉ text → splitOn separator (before ++ text ++ after) =
      firsts ++ (lastPiece separator before ++ text ++ firstPiece separator after) :: lasts := by
  obtain ⟨lasts, behind⟩ := exists_splitOn_append_first separator after
  by_cases mem : separator ∈ before
  · obtain ⟨front, piece, rfl, none⟩ := exists_eq_append_cons_of_mem mem
    refine ⟨splitOn separator front, lasts, ?_⟩
    intro text absent
    have both : separator ∉ piece ++ text := by
      rw [List.mem_append, not_or]
      exact ⟨none, absent⟩
    rw [List.append_assoc, List.append_assoc, List.cons_append, splitOn_append_separator,
      ← List.append_assoc piece, behind _ both, lastPiece_append_cons none]
  · refine ⟨[], lasts, ?_⟩
    intro text absent
    have both : separator ∉ before ++ text := by
      rw [List.mem_append, not_or]
      exact ⟨mem, absent⟩
    rw [lastPiece_of_not_mem mem, behind _ both, List.nil_append]

end DocAudit.Text
