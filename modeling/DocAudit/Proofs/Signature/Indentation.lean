import DocAudit.Proofs.Pattern.Leads
import DocAudit.Proofs.Signature.Documented

/-!
# Signatures and indentation

How far the indentation of a line takes part in what the recognisers find on it. A documented
signature begins behind the indentation, so only its presence counts. For any other declaration the
left-hand side may be any text, blanks included, and a line that begins with the assignment itself
takes its left-hand side from the indentation: it declares a function without a name as soon as
there are two blanks, one before the left-hand side and one for it.
-/

namespace DocAudit

namespace Text

/-- Blanks in front of the content of a line, at least one. -/
structure IsLead (lead : Text) : Prop where
  nonempty : lead ≠ []
  blank : allBlank lead
  oneLine : '\n' ∉ lead

/-- A text that begins with a visible character. -/
def IsVisible (content : Text) : Prop :=
  ∃ c rest, content = c :: rest ∧ isBlank c = false

theorem IsVisible.head? {content : Text} (visible : IsVisible content) :
    (content.head?).all fun c => !isBlank c := by
  obtain ⟨c, rest, rfl, shown⟩ := visible
  simp [shown]

theorem trimStart_append {lead content : Text} (blank : allBlank lead)
    (visible : IsVisible content) : trimStart (lead ++ content) = content := by
  obtain ⟨c, rest, rfl, shown⟩ := visible
  rw [trimStart_append_of_allBlank blank, trimStart_cons_of_not_isBlank shown]

end Text

namespace Signature

open Pattern Text

/-- A line that begins with the assignment of a function and has no left-hand side. -/
def BareAssignment (content : Text) : Prop :=
  ∃ sign space gap parameters rest, (sign = '=' ∨ sign = ':') ∧ isBlank space ∧ allBlank gap ∧
    content = sign :: space :: ("function".toList ++ (gap ++ '(' :: (parameters ++ ')' :: rest)))

variable {lead other content : Text}

theorem isComment_append (leads : IsLead lead) (visible : IsVisible content) :
    isComment (lead ++ content) = isComment content := by
  have alone : trimStart content = content := by
    obtain ⟨c, rest, rfl, shown⟩ := visible
    exact trimStart_cons_of_not_isBlank shown
  rw [isComment, isComment, trimStart_append leads.blank visible, alone]

theorem accepted_of_isLead (leads : IsLead lead) : ∀ c ∈ lead, blank.accepts c := by
  intro c mem
  rw [accepts_blank]
  exact List.all_eq_true.mp leads.blank c mem

theorem refused_of_isVisible (visible : IsVisible content) :
    (content.head?).all fun c => !blank.accepts c := by
  simpa only [accepts_blank] using visible.head?

/-- The signature that two groups make. -/
def ofGroups (kind : SignatureKind) : List Text → Option Signature
  | [name, parameters] => some ⟨trim name, parameters, kind⟩
  | _ => none

/-- What a recogniser finds depends on a line through the groups of the first way only. -/
theorem find?_eq {pattern : Pattern} (plain : pattern.IsPlain) (kind : SignatureKind)
    (line : Text) : find? pattern kind line =
      if isComment line then none
      else ((pattern.root.firstWay? line).map Prod.snd).bind fun way => ofGroups kind way.groups := by
  rw [find?, groups_search? plain]
  cases pattern.root.firstWay? line with
  | none => rfl
  | some found =>
      simp only [Option.map_some, Option.bind_some]
      rcases found.2.groups with _ | ⟨name, _ | ⟨parameters, _ | ⟨other, others⟩⟩⟩ <;> rfl

/-! ## Documented signatures -/

/-- A pattern whose nodes behind the indentation cannot begin with a blank. -/
theorem find?_append_of_refused {pattern : Pattern} (plain : pattern.IsPlain)
    (kind : SignatureKind) {nodes : List Node} (root : pattern.root = .sequence (someBlanks :: nodes))
    (refused : ∀ c rest, isBlank c → (Node.sequence nodes).ways (c :: rest) = [])
    (leads : IsLead lead) (others : IsLead other) (visible : IsVisible content) :
    find? pattern kind (lead ++ content) = find? pattern kind (other ++ content) := by
  have refusedThere : ∀ c rest, blank.accepts c → (Node.sequence nodes).ways (c :: rest) = [] := by
    intro c rest accepted
    rw [accepts_blank] at accepted
    exact refused c rest accepted
  have passed {lead : Text} (leads : IsLead lead) :=
    map_firstWay?_of_refused refusedThere (accepted_of_isLead leads) leads.nonempty
      (refused_of_isVisible visible)
  rw [find?_eq plain, find?_eq plain, isComment_append leads visible,
    isComment_append others visible, root, someBlanks, passed leads, passed others]

/-- A word does not begin with a blank. -/
theorem ways_word_of_isBlank {c : Char} (blank : isBlank c) (group : Nat) (nodes : List Node)
    (rest : Text) : (Node.sequence
      (.capture group (.many .greedy 1 none wordChar) :: nodes)).ways (c :: rest) = [] := by
  have noWord : ¬ wordChar.accepts c := by
    rw [accepts_wordChar]
    intro word
    rw [isBlank_eq_false_of_isWord word] at blank
    exact Bool.noConfusion blank
  rw [ways_capture_sequence, runRests, if_neg noWord, List.flatMap_nil]

/-- Neither does `var`. -/
theorem ways_var_of_isBlank {c : Char} (blank : isBlank c) (nodes : List Node) (rest : Text) :
    (Node.sequence (.literal "var " :: nodes)).ways (c :: rest) = [] := by
  have noLetter : c ≠ 'v' := by
    rintro rfl
    exact absurd blank (by decide)
  exact Node.ways_sequence_literal_eq_nil noLetter "ar ".toList rest nodes

/-- The depth of the indentation does not show in a documented signature. -/
theorem documented?_append (leads : IsLead lead) (others : IsLead other)
    (visible : IsVisible content) :
    documented? (lead ++ content) = documented? (other ++ content) := by
  have member : find? memberPattern .member (lead ++ content) =
      find? memberPattern .member (other ++ content) :=
    find?_append_of_refused isPlain_memberPattern .member rfl
      (fun _ rest blank => ways_word_of_isBlank blank 1 _ rest) leads others visible
  have var : find? varPattern .varAssignment (lead ++ content) =
      find? varPattern .varAssignment (other ++ content) :=
    find?_append_of_refused isPlain_varPattern .varAssignment rfl
      (fun _ rest blank => ways_var_of_isBlank blank _ rest) leads others visible
  rw [documented?, documented?, member, var]

/-! ## Other declarations -/

theorem isPlain_assignmentPattern : assignmentPattern.IsPlain :=
  ⟨by decide, rfl, rfl⟩

/-- The nodes of a declaration from the sign of the assignment on. -/
def rightSide : List Node := assignSign :: functionTail

/-- The nodes of a declaration behind the indentation. -/
def assignment : List Node := .capture 1 something :: blanks :: rightSide

theorem ways_assignmentPattern (text : Text) : assignmentPattern.root.ways text =
    (runRests blank 1 text).flatMap (Node.sequence assignment).ways :=
  ways_many_sequence blank 1 assignment text

/-- Without a left-hand side an assignment begins with its sign, a blank and `function`. -/
theorem bareAssignment_of_ways (found : (Node.sequence rightSide).ways content ≠ []) :
    BareAssignment content := by
  obtain ⟨sign, behind, rfl, isSign, spaced⟩ := exists_cons_of_ways_one found
  obtain ⟨space, behind, rfl, isSpace, named⟩ := exists_cons_of_ways_one spaced
  obtain ⟨behind, rfl, opened⟩ := exists_append_of_ways_literal named
  have gaps := ways_many_sequence blank 0 [.one (.char '('), .capture 2 anything, .one (.char ')')]
    behind
  rw [← blanks] at gaps
  rw [gaps, Ne, List.flatMap_eq_nil_iff] at opened
  simp only [Classical.not_forall, exists_prop, mem_runRests_iff] at opened
  obtain ⟨behind, ⟨gap, rfl, isGap, -⟩, inner⟩ := opened
  obtain ⟨opening, behind, rfl, isOpening, listed⟩ := exists_cons_of_ways_one inner
  rw [anything, ways_capture_sequence, Ne, List.flatMap_eq_nil_iff] at listed
  simp only [List.map_eq_nil_iff, Classical.not_forall, exists_prop, mem_runRests_iff] at listed
  obtain ⟨behind, ⟨parameters, rfl, -, -⟩, closed⟩ := listed
  obtain ⟨closing, rest, rfl, isClosing, -⟩ := exists_cons_of_ways_one closed
  rw [accepts_assignSign, Bool.or_eq_true, beq_iff_eq, beq_iff_eq] at isSign
  rw [accepts_blank] at isSpace
  obtain rfl : opening = '(' := by simpa [CharTest.accepts] using isOpening
  obtain rfl : closing = ')' := by simpa [CharTest.accepts] using isClosing
  simp only [accepts_blank] at isGap
  exact ⟨sign, space, gap, parameters, rest, isSign, isSpace, List.all_eq_true.mpr isGap, rfl⟩

theorem ways_rightSide_of_isBlank {c : Char} {rest : Text} (blank : isBlank c) :
    (Node.sequence rightSide).ways (c :: rest) = [] := by
  apply Classical.byContradiction
  intro found
  obtain ⟨sign, space, gap, parameters, behind, isSign, -, -, same⟩ := bareAssignment_of_ways found
  obtain rfl := (List.cons.inj same).1
  rcases isSign with rfl | rfl <;> exact absurd blank (by decide)

/-- The blanks in front of the sign of an assignment belong to no side of it. -/
theorem ways_blanks_append {front : Text} (allBlank : ∀ c ∈ front, blank.accepts c)
    (visible : IsVisible content) :
    (Node.sequence (blanks :: rightSide)).ways (front ++ content) =
      (Node.sequence rightSide).ways content := by
  rw [blanks, ways_many_sequence]
  refine flatMap_runRests_of_refused ?_ allBlank (Nat.zero_le _) (refused_of_isVisible visible)
  intro c rest accepted
  rw [accepts_blank] at accepted
  exact ways_rightSide_of_isBlank accepted

theorem ways_blanks (visible : IsVisible content) :
    (Node.sequence (blanks :: rightSide)).ways content = (Node.sequence rightSide).ways content := by
  have none : ∀ c ∈ ([] : Text), blank.accepts c := by simp
  exact ways_blanks_append none visible

/-- An assignment has a left-hand side of one line and goes on behind it. -/
theorem ways_assignment_ne_nil_iff {text : Text} : (Node.sequence assignment).ways text ≠ [] ↔
    ∃ front rest, text = front ++ rest ∧ front ≠ [] ∧ '\n' ∉ front ∧
      (Node.sequence (blanks :: rightSide)).ways rest ≠ [] := by
  rw [assignment, something, ways_capture_sequence, Ne, List.flatMap_eq_nil_iff]
  simp only [List.map_eq_nil_iff, Classical.not_forall, exists_prop, mem_runRests_iff]
  constructor
  · rintro ⟨rest, ⟨front, rfl, oneLine, filled⟩, found⟩
    refine ⟨front, rest, rfl, List.length_pos_iff.mp filled, ?_, found⟩
    intro mem
    exact absurd (oneLine _ mem) (by decide)
  · rintro ⟨front, rest, rfl, filled, oneLine, found⟩
    refine ⟨rest, ⟨front, rfl, ?_, List.length_pos_iff.mpr filled⟩, found⟩
    exact fun c mem => accepts_notNewline oneLine mem

/-- A left-hand side can be made longer at its beginning. -/
theorem ways_assignment_append_ne_nil {front : Text} (oneLine : '\n' ∉ front)
    (found : (Node.sequence assignment).ways content ≠ []) :
    (Node.sequence assignment).ways (front ++ content) ≠ [] := by
  rw [ways_assignment_ne_nil_iff] at found ⊢
  obtain ⟨side, rest, rfl, filled, sideLine, found⟩ := found
  refine ⟨front ++ side, rest, (List.append_assoc front side rest).symm, ?_, ?_, found⟩
  · exact List.append_ne_nil_of_right_ne_nil front filled
  · rw [List.mem_append, not_or]
    exact ⟨oneLine, sideLine⟩

section

variable (leads : IsLead lead) (visible : IsVisible content) (oneLine : '\n' ∉ content)

include leads visible in
/-- A declaration that begins behind the indentation is found there. -/
theorem firstWay?_of_ways (found : (Node.sequence assignment).ways content ≠ []) :
    (assignmentPattern.root.firstWay? (lead ++ content)).map Prod.snd =
      ((Node.sequence assignment).ways content).head? := by
  obtain ⟨way, others, ways⟩ := List.exists_cons_of_ne_nil found
  have first : FirstWay (someBlanks :: assignment) (lead ++ content) way := by
    refine firstWay_run (accepted_of_isLead leads) (List.length_pos_iff.mpr leads.nonempty)
      (refused_of_isVisible visible) ?_
    rw [FirstWay, ways, List.head?_cons]
  have searched := Node.firstWay?_of_head? first
  rw [ways, List.head?_cons]
  exact congrArg (Option.map Prod.snd) searched

include oneLine in
/-- If no declaration begins behind the indentation, none begins later on the line. -/
theorem ways_eq_nil_of_suffix (none : (Node.sequence assignment).ways content = [])
    {behind : Text} (suffix : behind <:+ content) :
    (Node.sequence assignment).ways behind = [] := by
  apply Classical.byContradiction
  intro found
  obtain ⟨front, rfl⟩ := suffix
  have short : '\n' ∉ front := fun mem => oneLine (List.mem_append_left _ mem)
  exact ways_assignment_append_ne_nil short found none

include visible oneLine in
/-- Where no declaration begins behind the indentation, one that begins with the last blank of it has
this blank for its left-hand side. -/
theorem head?_ways_cons {c : Char} (single : c ≠ '\n')
    (none : (Node.sequence assignment).ways content = []) :
    ((Node.sequence assignment).ways (c :: content)).head? =
      (((Node.sequence rightSide).ways content).head?).map fun way =>
        ⟨(c :: content) :: content :: way.marks, way.rest⟩ := by
  have rights := ways_blanks visible
  obtain ⟨d, tail, rfl, -⟩ := visible
  have first : CharTest.notNewline.accepts c := by simpa [CharTest.accepts] using single
  have second : CharTest.notNewline.accepts d := accepts_notNewline oneLine List.mem_cons_self
  rw [assignment, something, ways_capture_sequence, runRests, if_pos second] at none
  rw [assignment, something, ways_capture_sequence, runRests, if_pos first, runRests,
    if_pos second, List.flatMap_append]
  have longer : ((runRests CharTest.notNewline 0 tail).flatMap fun rest =>
      ((Node.sequence (blanks :: rightSide)).ways rest).map fun way =>
        Way.mk ((c :: d :: tail) :: rest :: way.marks) way.rest) = [] := by
    rw [List.flatMap_eq_nil_iff] at none ⊢
    intro rest mem
    exact List.map_eq_nil_iff.mpr (List.map_eq_nil_iff.mp (none rest mem))
  rw [longer, List.nil_append, List.flatMap_singleton, ← rights, List.head?_map]

include visible in
/-- Without a right-hand side behind the indentation none begins in it either. -/
theorem ways_append_eq_nil {front : Text} (blank : ∀ c ∈ front, blank.accepts c)
    (none : (Node.sequence assignment).ways content = [])
    (sideless : (Node.sequence rightSide).ways content = []) :
    (Node.sequence assignment).ways (front ++ content) = [] := by
  apply Classical.byContradiction
  intro found
  obtain ⟨side, rest, split, filled, line, reached⟩ := ways_assignment_ne_nil_iff.mp found
  have rights := ways_blanks visible
  rw [sideless] at rights
  -- The left-hand side ends in the content or in the blanks in front of it.
  rcases List.append_eq_append_iff.mp split with ⟨more, rfl, rfl⟩ | ⟨more, rfl, rfl⟩
  · cases more with
    | nil =>
        rw [List.nil_append] at rights
        exact reached rights
    | cons c more =>
        have short : '\n' ∉ c :: more := fun mem => line (List.mem_append_right _ mem)
        have whole : (Node.sequence assignment).ways (c :: more ++ rest) ≠ [] := by
          rw [ways_assignment_ne_nil_iff]
          exact ⟨c :: more, rest, rfl, List.cons_ne_nil c more, short, reached⟩
        exact whole none
  · have after : ∀ c ∈ more, Signature.blank.accepts c :=
      fun c mem => blank c (List.mem_append_right _ mem)
    rw [ways_blanks_append after visible] at reached
    exact reached sideless

/-- A search finds nothing if no declaration begins behind some blanks of the line. -/
theorem firstWay?_eq_none {line : Text} (none : ∀ run behind, run ≠ [] →
      (∀ c ∈ run, blank.accepts c) → run ++ behind <:+ line →
        (Node.sequence assignment).ways behind = []) :
    assignmentPattern.root.firstWay? line = .none := by
  apply Node.firstWay?_eq_none
  intro rest suffix
  rw [ways_assignmentPattern, List.flatMap_eq_nil_iff]
  intro behind mem
  obtain ⟨run, rfl, passes, filled⟩ := mem_runRests_iff.mp mem
  exact none run behind (List.length_pos_iff.mp filled) passes suffix

/-- A search in a line whose indentation is a single blank, where no declaration begins behind it. -/
theorem firstWay?_singleton_append (oneLine : '\n' ∉ content) (c : Char)
    (none : (Node.sequence assignment).ways content = []) :
    assignmentPattern.root.firstWay? ([c] ++ content) = .none := by
  apply firstWay?_eq_none
  intro run behind filled _ suffix
  rcases List.suffix_cons_iff.mp suffix with same | inside
  · obtain ⟨d, run, rfl⟩ := List.exists_cons_of_ne_nil filled
    obtain ⟨-, same⟩ := List.cons.inj same
    exact ways_eq_nil_of_suffix oneLine none ⟨run, same⟩
  · exact ways_eq_nil_of_suffix oneLine none ((List.suffix_append run behind).trans inside)

include visible in
/-- A search in a line where a right-hand side alone does not begin behind the indentation either. -/
theorem firstWay?_append_of_sideless (leads : IsLead lead) (oneLine : '\n' ∉ content)
    (none : (Node.sequence assignment).ways content = [])
    (sideless : (Node.sequence rightSide).ways content = []) :
    assignmentPattern.root.firstWay? (lead ++ content) = .none := by
  apply firstWay?_eq_none
  intro run behind _ _ suffix
  obtain ⟨front, whole⟩ := (List.suffix_append run behind).trans suffix
  rcases List.append_eq_append_iff.mp whole with ⟨more, rfl, rfl⟩ | ⟨more, rfl, rfl⟩
  · have blanks : ∀ c ∈ more, blank.accepts c := fun c mem =>
      accepted_of_isLead leads c (List.mem_append_right _ mem)
    exact ways_append_eq_nil visible blanks none sideless
  · exact ways_eq_nil_of_suffix oneLine none (List.suffix_append _ _)

include visible in
/-- A search in a line with more than one blank in front, where no declaration begins behind them but
a right-hand side does: the last blank becomes the left-hand side. -/
theorem firstWay?_append_of_rightSide {front : Text} (filled : front ≠ [])
    (blanks : ∀ c ∈ front, blank.accepts c) {c : Char} (last : blank.accepts c)
    (single : c ≠ '\n') (oneLine : '\n' ∉ content)
    (none : (Node.sequence assignment).ways content = []) {way : Way}
    (right : ((Node.sequence rightSide).ways content).head? = some way) :
    (assignmentPattern.root.firstWay? (front ++ c :: content)).map Prod.snd =
      some ⟨(c :: content) :: content :: way.marks, way.rest⟩ := by
  have stop : runRests blank 0 (c :: content) = [content, c :: content] := by
    rw [runRests, if_pos last, runRests_zero_of_refused (refused_of_isVisible visible)]
    rfl
  have enough : 1 ≤ front.length := List.length_pos_iff.mpr filled
  obtain ⟨shorter, runs⟩ := exists_runRests_append (c :: content) blanks enough
  have first : (assignmentPattern.root.ways (front ++ c :: content)).head? =
      some ⟨(c :: content) :: content :: way.marks, way.rest⟩ := by
    rw [ways_assignmentPattern, runs, stop, List.flatMap_append, List.flatMap_cons, none,
      List.nil_append, List.flatMap_singleton, List.head?_append,
      head?_ways_cons visible oneLine single none, right, Option.map_some, Option.some_or]
  rw [Node.firstWay?_of_head? first, Option.map_some]

end

/-- The recogniser of declarations, behind an indentation. -/
theorem declared?_append_of_ways (leads : IsLead lead) (others : IsLead other)
    (visible : IsVisible content) (found : (Node.sequence assignment).ways content ≠ []) :
    declared? (lead ++ content) = declared? (other ++ content) := by
  rw [declared?, declared?, find?_eq isPlain_assignmentPattern, find?_eq isPlain_assignmentPattern,
    isComment_append leads visible, isComment_append others visible,
    firstWay?_of_ways leads visible found, firstWay?_of_ways others visible found]

/-- A group of one character in front of the others of a way. -/
theorem groups_cons (c : Char) (after : Text) (way : Way) :
    (Way.mk ((c :: after) :: after :: way.marks) way.rest).groups = [c] :: way.groups := by
  simp [Way.groups, markPairs]

/-- A name of one blank is empty. -/
theorem ofGroups_blank {kind : SignatureKind} {c : Char} (blank : isBlank c) (groups : List Text) :
    ofGroups kind ([c] :: groups) = ofGroups kind ([] :: groups) := by
  have unnamed : trim [c] = [] := by
    simp [trim, trimStart, trimEnd, dropEndWhile, blank]
  rcases groups with _ | ⟨parameters, _ | ⟨other, others⟩⟩
  · rfl
  · rw [ofGroups, unnamed]
    rfl
  · rfl

/-- A line that begins with an assignment declares a function without a name if more than one blank
stands in front, and nothing if there is a single one. -/
theorem declared?_append_of_rightSide (leads : IsLead lead) (visible : IsVisible content)
    (oneLine : '\n' ∉ content) (none : (Node.sequence assignment).ways content = []) {way : Way}
    (right : ((Node.sequence rightSide).ways content).head? = some way) :
    declared? (lead ++ content) =
      if isComment content ∨ lead.length = 1 then .none
      else ofGroups .assignment ([] :: way.groups) := by
  rw [declared?, find?_eq isPlain_assignmentPattern, isComment_append leads visible]
  by_cases comment : isComment content
  · rw [if_pos comment, if_pos (.inl comment)]
  · rw [if_neg comment]
    obtain rfl | ⟨front, c, rfl⟩ := List.eq_nil_or_concat lead
    · exact absurd rfl leads.nonempty
    · rw [List.concat_eq_append] at leads ⊢
      cases front with
      | nil =>
          have alone := firstWay?_singleton_append oneLine c none
          rw [List.nil_append, alone, if_pos (.inr rfl)]
          rfl
      | cons d front =>
          have accepted := List.forall_mem_append.mp (accepted_of_isLead leads)
          have last : blank.accepts c := accepted.2 c List.mem_cons_self
          have single : c ≠ '\n' := fun equal => leads.oneLine (by simp [equal])
          have found := firstWay?_append_of_rightSide visible (List.cons_ne_nil d front)
            accepted.1 last single oneLine none right
          have several : ¬ (isComment content ∨ (d :: front ++ [c]).length = 1) := by
            simp [comment]
          rw [accepts_blank] at last
          rw [if_neg several, List.append_assoc, List.singleton_append, found, Option.bind_some,
            groups_cons, ofGroups_blank last]

/-- The depth of the indentation does not show in a declaration, but a line that begins with an
assignment has to stand behind a single blank in both cases or in neither. -/
theorem declared?_append (leads : IsLead lead) (others : IsLead other) (visible : IsVisible content)
    (oneLine : '\n' ∉ content)
    (depth : BareAssignment content → (lead.length = 1 ↔ other.length = 1)) :
    declared? (lead ++ content) = declared? (other ++ content) := by
  by_cases found : (Node.sequence assignment).ways content = []
  · cases right : (Node.sequence rightSide).ways content with
    | nil =>
        have unfound {lead : Text} (leads : IsLead lead) : declared? (lead ++ content) = none := by
          rw [declared?, find?_eq isPlain_assignmentPattern,
            firstWay?_append_of_sideless visible leads oneLine found right]
          exact ite_self _
        rw [unfound leads, unfound others]
    | cons way ways =>
        have head : ((Node.sequence rightSide).ways content).head? = some way := by
          rw [right, List.head?_cons]
        have bare : BareAssignment content := by
          apply bareAssignment_of_ways
          rw [right]
          exact List.cons_ne_nil way ways
        rw [declared?_append_of_rightSide leads visible oneLine found head,
          declared?_append_of_rightSide others visible oneLine found head]
        simp only [depth bare]
  · exact declared?_append_of_ways leads others visible found

end Signature

end DocAudit
