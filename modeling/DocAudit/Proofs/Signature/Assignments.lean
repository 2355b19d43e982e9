import DocAudit.Proofs.Results
import DocAudit.Proofs.Signature.Indentation
import DocAudit.Proofs.Text.Positions

/-!
# Assignments on a line

A function is assigned at a position of a line if the sign of the assignment stands there and the
rest follows it. The recognisers ask for more in front of the sign and choose among several
assignments on the line, but all of them meet at such positions: the nodes of a declaration from the
sign on match exactly there, and what they take reaches to the last closing parenthesis of the line.
A left-hand side of any characters reaches to the last of these positions.
-/

namespace DocAudit.Signature

open Pattern Text

/-- A function is assigned at a position: there is a sign, then one blank, the word `function`,
perhaps further blanks, an opening parenthesis at the second position, and somewhere behind it a
closing one. -/
structure AssignsAt (text : Text) (sign opening : Nat) : Prop where
  isSign : text[sign]? = some '=' ∨ text[sign]? = some ':'
  space : (text[sign + 1]?).any isBlank
  keyword : "function".toList <+: text.drop (sign + 2)
  ordered : sign + 10 ≤ opening
  gap : allBlank (slice text (sign + 10) opening)
  isOpening : text[opening]? = some '('
  closed : ∃ closing, opening < closing ∧ text[closing]? = some ')'

/-- The last position from a given one on at which a function is assigned, with the last closing
parenthesis of the line. -/
structure LastAssignment (text : Text) (least sign opening closing : Nat) : Prop where
  assigns : AssignsAt text sign opening
  behind : least ≤ sign
  last : ∀ other another, least ≤ other → AssignsAt text other another → other ≤ sign
  closing : IsLast text ')' closing

variable {text : Text} {start least sign opening closing other another : Nat}

namespace AssignsAt

theorem exists_sign (assigns : AssignsAt text sign opening) :
    ∃ c, text[sign]? = some c ∧ (c = '=' ∨ c = ':') := by
  rcases assigns.isSign with found | found
  · exact ⟨_, found, .inl rfl⟩
  · exact ⟨_, found, .inr rfl⟩

theorem lt_length (assigns : AssignsAt text sign opening) : sign < text.length := by
  obtain ⟨c, found, -⟩ := assigns.exists_sign
  exact (List.getElem?_eq_some_iff.mp found).1

theorem drop_keyword (assigns : AssignsAt text sign opening) :
    text.drop (sign + 2) = "function".toList ++ text.drop (sign + 10) :=
  drop_eq_append_of_prefix assigns.keyword

theorem opening_lt (assigns : AssignsAt text sign opening) (last : IsLast text ')' closing) :
    opening < closing := by
  obtain ⟨place, behind, found⟩ := assigns.closed
  exact Nat.lt_of_lt_of_le behind (last.last place found)

/-- Behind the sign the function is found in one way, with parameters up to the last closing
parenthesis. -/
theorem firstWay_functionTail (assigns : AssignsAt text sign opening) (oneLine : '\n' ∉ text)
    (last : IsLast text ')' closing) :
    FirstWay functionTail (text.drop (sign + 1))
      ⟨[text.drop (opening + 1), text.drop closing], text.drop (closing + 1)⟩ := by
  obtain ⟨space, spaced, isSpace⟩ := (Option.any_eq_true _ _).mp assigns.space
  have inside := assigns.opening_lt last
  have closed : FirstWay [.capture 2 anything, .one (.char ')')] (text.drop (opening + 1))
      ⟨[text.drop (opening + 1), text.drop closing], text.drop (closing + 1)⟩ := by
    have behind : FirstWay [.one (.char ')')] (text.drop closing) ⟨[], text.drop (closing + 1)⟩ := by
      rw [drop_eq_cons last.found]
      exact firstWay_one (by decide) (firstWay_nil _)
    rw [drop_eq_slice_append text inside]
    rw [drop_eq_cons last.found] at behind ⊢
    refine firstWay_capture_back (fun c mem => ?_) (Nat.zero_le _) (fun rest suffix => ?_) behind
    · exact accepts_notNewline oneLine (List.mem_of_mem_drop (List.mem_of_mem_take mem))
    · refine Node.ways_eq_nil_of_needs (.char ')') (by decide) fun c mem => ?_
      exact accepts_char_eq_false last.not_mem_drop (suffix.subset mem)
  rw [drop_eq_cons spaced]
  refine firstWay_one (by rwa [accepts_blank]) ?_
  rw [show sign + 1 + 1 = sign + 2 from rfl, assigns.drop_keyword]
  refine firstWay_literal ?_
  rw [drop_eq_slice_append text assigns.ordered]
  refine firstWay_run (fun c mem => ?_) (Nat.zero_le _) ?_ ?_
  · rw [accepts_blank]
    exact List.all_eq_true.mp assigns.gap c mem
  · rw [drop_eq_cons assigns.isOpening, List.head?_cons, Option.all_some, accepts_blank]
    decide
  · rw [drop_eq_cons assigns.isOpening]
    exact firstWay_one (by decide) closed

/-- The nodes of a declaration from the sign on match at an assignment. -/
theorem firstWay_rightSide (assigns : AssignsAt text sign opening) (oneLine : '\n' ∉ text)
    (last : IsLast text ')' closing) :
    FirstWay rightSide (text.drop sign)
      ⟨[text.drop (opening + 1), text.drop closing], text.drop (closing + 1)⟩ := by
  obtain ⟨c, found, isSign⟩ := assigns.exists_sign
  rw [drop_eq_cons found]
  refine firstWay_one ?_ (assigns.firstWay_functionTail oneLine last)
  rw [accepts_assignSign]
  rcases isSign with rfl | rfl <;> rfl

theorem exists_isLast (assigns : AssignsAt text sign opening) :
    ∃ closing, IsLast text ')' closing := by
  obtain ⟨place, -, found⟩ := assigns.closed
  exact Text.exists_isLast (List.mem_of_getElem? found)

/-- Between the sign and the opening parenthesis there is no other sign, so assignments do not
overlap. -/
theorem opening_lt_sign (first : AssignsAt text sign opening)
    (second : AssignsAt text other another) (ordered : sign < other) : opening < other := by
  obtain ⟨c, found, isSign⟩ := second.exists_sign
  have shown : isBlank c = false := by rcases isSign with rfl | rfl <;> rfl
  by_contra late
  rcases (by omega : other = sign + 1 ∨ sign + 2 ≤ other ∧ other < sign + 10 ∨
    sign + 10 ≤ other ∧ other < opening ∨ other = opening) with
    rfl | ⟨after, before⟩ | ⟨after, before⟩ | rfl
  · have blank := first.space
    rw [found, Option.any_some, shown] at blank
    exact Bool.false_ne_true blank
  · have word : slice text (sign + 2) (sign + 10) = "function".toList :=
      slice_of_drop_eq_append first.drop_keyword
    have letter : c ∈ "function".toList := word ▸ mem_slice_iff.mpr ⟨other, after, before, found⟩
    rcases isSign with rfl | rfl <;> exact absurd letter (by decide)
  · have blank := List.all_eq_true.mp first.gap c (mem_slice_iff.mpr ⟨other, after, before, found⟩)
    rw [shown] at blank
    exact Bool.false_ne_true blank
  · obtain rfl := Option.some.inj (found.symm.trans first.isOpening)
    rcases isSign with same | same <;> exact absurd same (by decide)

/-- Only blanks stand in front of the opening parenthesis of an assignment. -/
theorem opening_unique (first : AssignsAt text sign opening)
    (second : AssignsAt text sign another) : opening = another := by
  have early {opening another : Nat} (first : AssignsAt text sign opening)
      (second : AssignsAt text sign another) : another ≤ opening := by
    by_contra before
    have blank := List.all_eq_true.mp second.gap '('
      (mem_slice_iff.mpr ⟨opening, first.ordered, by omega, first.isOpening⟩)
    exact absurd blank (by decide)
  exact Nat.le_antisymm (early second first) (early first second)

theorem opening_le (first : AssignsAt text sign opening) (second : AssignsAt text other another)
    (ordered : sign ≤ other) : opening ≤ another := by
  rcases Nat.lt_or_eq_of_le ordered with before | rfl
  · have apart := first.opening_lt_sign second before
    have behind := second.ordered
    omega
  · exact Nat.le_of_eq (first.opening_unique second)

end AssignsAt

/-- Where a line goes on with an assignment that has no left-hand side, a function is assigned. -/
theorem exists_assignsAt_of_bareAssignment (bare : BareAssignment (text.drop sign)) :
    ∃ opening, AssignsAt text sign opening := by
  obtain ⟨c, space, gap, parameters, rest, isSign, isSpace, isGap, split⟩ := bare
  have spaced : text.drop (sign + 1) = space :: ("function".toList ++ (gap ++
      '(' :: (parameters ++ ')' :: rest))) := (drop_of_drop_eq_cons split).symm
  have named : text.drop (sign + 2) = "function".toList ++ (gap ++
      '(' :: (parameters ++ ')' :: rest)) :=
    (drop_of_drop_eq_cons spaced).symm
  have gapped : text.drop (sign + 10) = gap ++ '(' :: (parameters ++ ')' :: rest) :=
    (drop_of_drop_eq_append named).symm
  have opened := (drop_of_drop_eq_append gapped).symm
  have listed : text.drop (sign + 10 + gap.length + 1) = parameters ++ ')' :: rest :=
    (drop_of_drop_eq_cons opened).symm
  have closed := (drop_of_drop_eq_append listed).symm
  refine ⟨sign + 10 + gap.length, ?_, ?_, ⟨_, named.symm⟩, Nat.le_add_right _ _, ?_,
    getElem?_of_drop_eq_cons opened, _, ?_, getElem?_of_drop_eq_cons closed⟩
  · rw [getElem?_of_drop_eq_cons split]
    exact isSign.imp (congrArg some) (congrArg some)
  · rw [getElem?_of_drop_eq_cons spaced]
    exact isSpace
  · rw [slice_of_drop_eq_append gapped]
    exact isGap
  · omega

/-- Blanks in front of the sign are passed over. -/
theorem exists_assignsAt_of_ways_blanks
    (found : (Node.sequence (blanks :: rightSide)).ways (text.drop start) ≠ []) :
    ∃ sign opening, start ≤ sign ∧ AssignsAt text sign opening := by
  rw [blanks, ways_many_sequence, Ne, List.flatMap_eq_nil_iff] at found
  simp only [Classical.not_forall, exists_prop, mem_runRests_iff] at found
  obtain ⟨rest, ⟨front, split, -, -⟩, found⟩ := found
  rw [drop_of_drop_eq_append split] at found
  obtain ⟨opening, assigns⟩ := exists_assignsAt_of_bareAssignment (bareAssignment_of_ways found)
  exact ⟨_, opening, Nat.le_add_right _ _, assigns⟩

/-- The left-hand side of a declaration takes at least one character. -/
theorem exists_assignsAt_of_ways_assignment
    (found : (Node.sequence assignment).ways (text.drop start) ≠ []) :
    ∃ sign opening, start + 1 ≤ sign ∧ AssignsAt text sign opening := by
  obtain ⟨front, rest, split, filled, -, found⟩ := ways_assignment_ne_nil_iff.mp found
  rw [drop_of_drop_eq_append split] at found
  obtain ⟨sign, opening, behind, assigns⟩ := exists_assignsAt_of_ways_blanks found
  have nonempty := List.length_pos_iff.mpr filled
  exact ⟨sign, opening, by omega, assigns⟩

/-! ## The last assignment -/

/-- Of the assignments from a position on there is a last one. -/
theorem exists_lastAssignment (assigns : AssignsAt text sign opening) (behind : least ≤ sign) :
    ∃ last another closing, sign ≤ last ∧ LastAssignment text least last another closing := by
  obtain ⟨last, ⟨another, reached, there⟩, final⟩ :=
    exists_last (p := fun place => ∃ another, least ≤ place ∧ AssignsAt text place another)
      ⟨opening, behind, assigns⟩ fun _ ⟨_, _, there⟩ => Nat.le_of_lt there.lt_length
  obtain ⟨closing, closed⟩ := there.exists_isLast
  refine ⟨last, another, closing, final sign ⟨opening, behind, assigns⟩, there, reached, ?_, closed⟩
  exact fun other opening reached there => final other ⟨opening, reached, there⟩

namespace LastAssignment

/-- A left-hand side of any characters reaches to the last assignment of the line. -/
theorem firstWay_assignment (last : LastAssignment text (start + 1) sign opening closing)
    (oneLine : '\n' ∉ text) :
    FirstWay assignment (text.drop start)
      ⟨[text.drop start, text.drop sign, text.drop (opening + 1), text.drop closing],
        text.drop (closing + 1)⟩ := by
  obtain ⟨c, found, isSign⟩ := last.assigns.exists_sign
  have behind := last.behind
  have inside := last.assigns.lt_length
  have right : FirstWay (blanks :: rightSide) (text.drop sign)
      ⟨[text.drop (opening + 1), text.drop closing], text.drop (closing + 1)⟩ := by
    refine firstWay_skip ?_ (last.assigns.firstWay_rightSide oneLine last.closing)
    rw [drop_eq_cons found, List.head?_cons, Option.all_some, accepts_blank]
    rcases isSign with rfl | rfl <;> rfl
  have split := drop_eq_slice_append text (Nat.le_of_succ_le behind)
  rw [drop_eq_cons found] at split right
  rw [split, assignment, something, drop_eq_cons found]
  refine firstWay_capture_back (fun d mem => ?_) ?_ (fun rest suffix => ?_) right
  · exact accepts_notNewline oneLine (List.mem_of_mem_drop (List.mem_of_mem_take mem))
  · exact List.length_pos_iff.mpr (slice_ne_nil behind (by omega))
  · -- Behind the sign no assignment is left, so that a longer left-hand side has nothing behind it.
    obtain ⟨place, after, rfl⟩ := exists_drop_of_suffix suffix
    apply Classical.byContradiction
    intro ways
    obtain ⟨other, another, reached, assigns⟩ := exists_assignsAt_of_ways_blanks ways
    have earlier := last.last other another (by omega) assigns
    omega

end LastAssignment

/-! ## What the groups take -/

theorem groups_drop (first second third fourth : Nat) (rest : Text) :
    (Way.mk [text.drop first, text.drop second, text.drop third, text.drop fourth] rest).groups =
      [slice text first second, slice text third fourth] := by
  have taken (first second : Nat) :
      (text.drop first).take ((text.drop first).length - (text.drop second).length) =
        slice text first second := by
    rw [slice, List.length_drop, List.length_drop]
    apply List.take_eq_take_iff.mpr
    rw [List.length_drop]
    omega
  simp only [Way.groups, markPairs, List.map_cons, List.map_nil, taken]

end DocAudit.Signature
