import DocAudit.Proofs.DocBlock.Tags
import DocAudit.Proofs.Signature.Indentation
import Mathlib.Data.List.Forall2

/-!
# Doc blocks and indentation

The lines of a block are joined without separators, so the indentation of a line ends up inside of
a segment. What a segment contributes depends on such blanks in two ways only. Between the braces of
a parameter tag they belong to the type. Behind the closing brace at least two characters have to
follow, a blank and a description, so blanks at the end of a segment may be too few. All other parts
of a segment are told by words without blanks, and these are moved by another indentation, but never
torn apart.
-/

namespace DocAudit

namespace Text

variable {front lead back before after word : Text}

/-- A word without blanks stands either in front of some blanks or behind them. -/
theorem append_eq_append_of_visible (filled : lead ≠ []) (blank : allBlank lead) (long : word ≠ [])
    (visible : ∀ c ∈ word, isBlank c = false)
    (same : front ++ lead ++ back = before ++ word ++ after) :
    (∃ between, front = before ++ word ++ between ∧ after = between ++ lead ++ back) ∨
      ∃ between, before = front ++ lead ++ between ∧ back = between ++ word ++ after := by
  have blanks := List.all_eq_true.mp blank
  rw [List.append_assoc] at same
  rcases List.append_eq_append_iff.mp same with ⟨rest, split, tail⟩ | ⟨rest, rfl, rfl⟩
  · rcases List.append_eq_append_iff.mp split with ⟨early, rfl, rfl⟩ | ⟨late, rfl, rfl⟩
    · cases rest with
      | nil => exact .inl ⟨[], by simp, by simpa using tail.symm⟩
      | cons c rest =>
          obtain ⟨d, lead, rfl⟩ := List.exists_cons_of_ne_nil filled
          obtain ⟨rfl, -⟩ := List.cons.inj tail
          have shown := visible d (by simp)
          rw [blanks d List.mem_cons_self] at shown
          exact Bool.noConfusion shown
    · rw [List.append_assoc] at tail
      rcases List.append_eq_append_iff.mp tail with ⟨between, rfl, rfl⟩ | ⟨between, rfl, shared⟩
      · refine .inr ⟨between, (List.append_assoc front lead between).symm, ?_⟩
        exact (List.append_assoc between word after).symm
      · cases between with
        | nil => exact .inr ⟨[], by simp, by simpa using shared.symm⟩
        | cons c between =>
            obtain ⟨d, rest, rfl⟩ := List.exists_cons_of_ne_nil long
            obtain ⟨rfl, -⟩ := List.cons.inj shared
            have shown := visible d List.mem_cons_self
            rw [blanks d (by simp)] at shown
            exact Bool.noConfusion shown
  · exact .inl ⟨rest, rfl, (List.append_assoc rest lead back).symm⟩

/-- A visible character stands either in front of some blanks or behind them. -/
theorem append_eq_append_cons_of_visible {c : Char} (filled : lead ≠ []) (blank : allBlank lead)
    (visible : isBlank c = false) (same : front ++ lead ++ back = before ++ c :: after) :
    (∃ between, front = before ++ c :: between ∧ after = between ++ lead ++ back) ∨
      ∃ between, before = front ++ lead ++ between ∧ back = between ++ c :: after := by
  have single : front ++ lead ++ back = before ++ [c] ++ after := by
    rw [same, List.append_assoc, List.singleton_append]
  have split := append_eq_append_of_visible filled blank (List.cons_ne_nil c [])
    (by simpa using visible) single
  simpa only [List.append_assoc, List.singleton_append] using split

end Text

namespace DocBlock

open Pattern Text

variable {front lead other back segment typeName inside before after : Text}

/-! ## Another indentation inside of a segment -/

theorem visible_param : ∀ c ∈ "@param".toList, isBlank c = false := by
  intro c mem
  have shown : "@param".toList.all fun c => !isBlank c := by decide
  simpa using List.all_eq_true.mp shown c mem

/-- A text that ends with the closing brace of a tag which is not empty. -/
def EndsTag (text : Text) : Prop :=
  ∃ typeName, typeName ≠ [] ∧ Opened text (typeName ++ ['\x7d'])

section

variable (leads : IsLead lead) (others : IsLead other)

include leads others

/-- What follows a brace and reaches into an indentation. Only a single blank at the end of the
segment is too short to follow. -/
theorem follows_append (between : Text)
    (depth : between = [] → back = [] → (lead.length = 1 ↔ other.length = 1))
    (follows : Follows (between ++ lead ++ back)) : Follows (between ++ other ++ back) := by
  obtain ⟨space, summary, isSpace, long, same⟩ := follows
  cases between with
  | nil =>
      obtain ⟨c, rest, rfl⟩ := List.exists_cons_of_ne_nil leads.nonempty
      obtain ⟨d, more, rfl⟩ := List.exists_cons_of_ne_nil others.nonempty
      obtain ⟨rfl, rfl⟩ := List.cons.inj same
      refine ⟨d, more ++ back, List.all_eq_true.mp others.blank d List.mem_cons_self, ?_, rfl⟩
      intro empty
      obtain ⟨rfl, rfl⟩ := List.append_eq_nil_iff.mp empty
      have single := (depth rfl rfl).mpr rfl
      rw [List.length_cons, Nat.succ.injEq, List.length_eq_zero_iff] at single
      exact long (by simp [single])
  | cons c between =>
      obtain ⟨rfl, -⟩ := List.cons.inj same
      refine ⟨c, between ++ other ++ back, isSpace, ?_, rfl⟩
      simp [others.nonempty]

/-- Where a tag is opened in a text with an indentation inside: in front of the indentation, around
it, or behind it. Only in the first case the indentation comes to stand behind the brace. -/
theorem opening_append {gap : Text} (blank : allBlank gap)
    (same : front ++ lead ++ back = before ++ "@param".toList ++ (gap ++ '\x7b' :: inside)) :
    (∃ late, front = before ++ "@param".toList ++ (gap ++ '\x7b' :: late) ∧
      inside = late ++ lead ++ back) ∨
    (∃ space, allBlank space ∧
      front ++ other ++ back = before ++ "@param".toList ++ (space ++ '\x7b' :: inside)) ∨
    ∃ between, before = front ++ lead ++ between ∧ front ++ other ++ back =
      front ++ other ++ between ++ "@param".toList ++ (gap ++ '\x7b' :: inside) := by
  rcases append_eq_append_of_visible leads.nonempty leads.blank (by simp) visible_param same with
    ⟨between, rfl, behind⟩ | ⟨between, rfl, rfl⟩
  · rcases append_eq_append_cons_of_visible leads.nonempty leads.blank (by decide) behind.symm with
      ⟨late, rfl, rfl⟩ | ⟨late, rfl, rfl⟩
    · exact .inl ⟨late, by simp, rfl⟩
    · refine .inr (.inl ⟨between ++ other ++ late, ?_, by simp⟩)
      simp only [allBlank_append, Bool.and_eq_true] at blank ⊢
      exact ⟨⟨blank.1.1, others.blank⟩, blank.2⟩
  · exact .inr (.inr ⟨between, rfl, by simp⟩)

/-- A tag stays open when an indentation changes. -/
theorem exists_opened_append (opened : Opened (front ++ lead ++ back) inside) :
    ∃ inside, Opened (front ++ other ++ back) inside := by
  obtain ⟨before, gap, blank, same⟩ := opened
  rcases opening_append leads others blank same with
    ⟨late, rfl, -⟩ | ⟨space, spaces, whole⟩ | ⟨between, rfl, whole⟩
  · exact ⟨late ++ other ++ back, before, gap, blank, by simp⟩
  · exact ⟨inside, before, space, spaces, whole⟩
  · exact ⟨inside, front ++ other ++ between, gap, blank, whole⟩

/-- A text that ends with the brace of a tag still does so when an indentation in it changes. -/
theorem endsTag_append (ends : EndsTag (front ++ lead ++ back)) :
    EndsTag (front ++ other ++ back) := by
  obtain ⟨typeName, filled, before, gap, blank, same⟩ := ends
  rcases opening_append leads others blank same with
    ⟨late, rfl, inner⟩ | ⟨space, spaces, whole⟩ | ⟨between, rfl, whole⟩
  · rcases append_eq_append_cons_of_visible leads.nonempty leads.blank (by decide) inner.symm with
      ⟨more, -, empty⟩ | ⟨more, rfl, rfl⟩
    · exact absurd empty.symm (by simp [leads.nonempty])
    · refine ⟨late ++ other ++ more, ?_, before, gap, blank, by simp⟩
      simp [others.nonempty]
  · exact ⟨typeName, filled, before, space, spaces, whole⟩
  · exact ⟨typeName, filled, front ++ other ++ between, gap, blank, whole⟩

/-- Behind the closing brace of a tag an indentation does not matter, unless a single blank at the
end of the segment is all that follows. -/
theorem not_closed_append (between : Text) (unclosed : ¬ Closed (between ++ lead ++ back))
    (outside : ¬ Closed back)
    (depth : ∀ early, between = early ++ ['\x7d'] → back = [] →
      (lead.length = 1 ↔ other.length = 1)) : ¬ Closed (between ++ other ++ back) := by
  rintro ⟨early, rest, follows, same⟩
  rcases append_eq_append_cons_of_visible others.nonempty others.blank (by decide) same with
    ⟨late, rfl, rfl⟩ | ⟨late, rfl, rfl⟩
  · refine unclosed ⟨early, late ++ lead ++ back, ?_, by simp⟩
    refine follows_append others leads late ?_ follows
    rintro rfl rfl
    exact (depth early rfl rfl).symm
  · exact outside ⟨late, rest, follows, rfl⟩

/-- A tag is found again when an indentation in its segment changes, unless the segment ends in a
single blank behind the closing brace. It keeps its type if the blanks are not between the braces. -/
theorem exists_isTag_append
    (depth : EndsTag front → back = [] → (lead.length = 1 ↔ other.length = 1))
    (tag : IsTag (front ++ lead ++ back) typeName) : ∃ otherName,
      IsTag (front ++ other ++ back) otherName ∧
        ((∀ inside, Opened front inside → ¬ Closed back) → otherName = typeName) := by
  obtain ⟨before, gap, rest, same, blank, filled, follows, unopened, unclosed⟩ := tag
  rcases opening_append leads others blank same with
    ⟨late, rfl, inner⟩ | ⟨space, spaces, whole⟩ | ⟨between, rfl, whole⟩
  · have opened : Opened (before ++ "@param".toList ++ (gap ++ '\x7b' :: late)) late :=
      ⟨before, gap, blank, rfl⟩
    rcases append_eq_append_cons_of_visible leads.nonempty leads.blank (by decide) inner.symm with
      ⟨more, rfl, rfl⟩ | ⟨more, rfl, rfl⟩
    · -- The indentation follows the closing brace.
      have outside : ¬ Closed back := by
        rintro ⟨early, rest, behind, rfl⟩
        exact unclosed ⟨more ++ lead ++ early, rest, behind, by simp⟩
      refine ⟨typeName, ⟨before, gap, more ++ other ++ back, by simp, blank, filled, ?_, unopened,
        ?_⟩, fun _ => rfl⟩
      · refine follows_append leads others more ?_ follows
        rintro rfl
        exact depth ⟨typeName, filled, before, gap, blank, rfl⟩
      · refine not_closed_append leads others more unclosed outside ?_
        rintro early rfl
        exact depth ⟨typeName ++ '\x7d' :: early, by simp, before, gap, blank, by simp⟩
    · -- The indentation stands between the braces.
      refine ⟨late ++ other ++ more, ⟨before, gap, rest, by simp, blank, by simp [others.nonempty],
        follows, unopened, unclosed⟩, ?_⟩
      intro kept
      exact absurd ⟨more, rest, follows, rfl⟩ (kept late opened)
  · exact ⟨typeName, ⟨before, space, rest, whole, spaces, filled, follows, unopened, unclosed⟩,
      fun _ => rfl⟩
  · refine ⟨typeName, ⟨front ++ other ++ between, gap, rest, whole, blank, filled, follows, ?_,
      unclosed⟩, fun _ => rfl⟩
    intro inside opened
    obtain ⟨inside, opened⟩ := exists_opened_append others leads opened
    exact unopened inside opened

/-! ## Lines of description -/

omit others in
theorem annotated_append (annotated : Annotated (front ++ lead ++ back)) :
    Annotated (front ++ other ++ back) := by
  obtain ⟨before, c, after, isWord, same⟩ := annotated
  have visible : ∀ d ∈ ['@', c], isBlank d = false := by
    simp [isBlank_eq_false_of_isWord isWord]
    decide
  rcases append_eq_append_of_visible leads.nonempty leads.blank (by simp) visible same with
    ⟨between, rfl, rfl⟩ | ⟨between, rfl, rfl⟩
  · exact ⟨before, c, between ++ other ++ back, isWord, by simp⟩
  · exact ⟨front ++ other ++ between, c, after, isWord, by simp⟩

/-- A segment is a line of description under one indentation if it is one under another. -/
theorem isDescription_append :
    isDescription (front ++ lead ++ back) = isDescription (front ++ other ++ back) := by
  have annotation : (annotationPattern.search? (front ++ lead ++ back)).isSome =
      (annotationPattern.search? (front ++ other ++ back)).isSome := by
    rw [Bool.eq_iff_iff, isSome_search?_annotationPattern_iff,
      isSome_search?_annotationPattern_iff]
    exact ⟨annotated_append leads, annotated_append others⟩
  have slashless {lead : Text} (leads : IsLead lead) : lead.contains '/' = false := by
    rw [List.contains_eq_mem, decide_eq_false_iff_not]
    intro mem
    exact absurd (List.all_eq_true.mp leads.blank _ mem) (by decide)
  have slash : (front ++ lead ++ back).contains '/' = (front ++ other ++ back).contains '/' := by
    simp only [List.contains_eq_any_beq, List.any_append] at slashless ⊢
    rw [slashless leads, slashless others]
  rw [isDescription, isDescription, ← Option.not_isSome, annotation, ← Option.not_isSome, slash]
  simp only [allBlank_append, leads.blank, others.blank]

end

/-! ## Segments that agree -/

/-- Segments that make no difference to a check: both are tags, both are lines of description, or
neither contributes anything. The types of tags count if they are checked. -/
inductive Segment.Agrees (strict : Prop) : Segment → Segment → Prop
  | tag {first second : ParamTag} (same : strict → first.typeName = second.typeName) :
    Agrees strict (.tag first) (.tag second)
  | description (first second : Text) : Agrees strict (.description first) (.description second)
  | nothing : Agrees strict .nothing .nothing

/-- What has to hold of an indentation in a segment, given by what stands in front of it and behind
it: directly behind the brace of a tag, at the end of the segment, a single blank is not replaced by
more and more are not replaced by a single one; and between the braces of a tag the blanks stay what
they are if types are checked. -/
structure Fits (strict : Prop) (front back lead other : Text) : Prop where
  ending : EndsTag front → back = [] → (lead.length = 1 ↔ other.length = 1)
  inside : strict → ∀ inside, Opened front inside → Closed back → lead = other

variable {strict : Prop}

theorem not_opened_nil (inside : Text) : ¬ Opened [] inside := by
  rintro ⟨front, gap, -, same⟩
  exact absurd same.symm (by simp)

/-- At the beginning of a block every indentation fits. -/
theorem fits_nil (back lead other : Text) : Fits strict [] back lead other :=
  ⟨fun ⟨_, _, opened⟩ => absurd opened (not_opened_nil _),
    fun _ inside opened => absurd opened (not_opened_nil inside)⟩

theorem Segment.Agrees.refl (segment : Segment) : Agrees strict segment segment := by
  cases segment with
  | tag found => exact .tag fun _ => rfl
  | description line => exact .description line line
  | nothing => exact .nothing

theorem Segment.Agrees.trans {first second third : Segment} (left : Agrees strict first second)
    (right : Agrees strict second third) : Agrees strict first third := by
  cases left with
  | tag same =>
      cases right with
      | tag other => exact .tag fun checked => (same checked).trans (other checked)
  | description line _ =>
      cases right with
      | description _ other => exact .description line other
  | nothing => exact right

/-- A segment agrees with itself under another indentation that fits. -/
theorem agrees_classify (leads : IsLead lead) (others : IsLead other)
    (fits : Fits strict front back lead other) (frontLine : '\n' ∉ front) (backLine : '\n' ∉ back) :
    Segment.Agrees strict (classify Settings.defaultParamPattern (front ++ lead ++ back))
      (classify Settings.defaultParamPattern (front ++ other ++ back)) := by
  by_cases unchanged : lead = other
  · rw [unchanged]
    exact .refl _
  · have oneLine {lead : Text} (leads : IsLead lead) : '\n' ∉ front ++ lead ++ back := by
      simp only [List.mem_append, not_or]
      exact ⟨⟨frontLine, leads.oneLine⟩, backLine⟩
    by_cases tagged : ∃ typeName, IsTag (front ++ lead ++ back) typeName
    · obtain ⟨typeName, tag⟩ := tagged
      obtain ⟨otherName, again, same⟩ := exists_isTag_append leads others fits.ending tag
      obtain ⟨summary, found⟩ := exists_classify_of_isTag (oneLine leads) tag
      obtain ⟨otherSummary, otherFound⟩ := exists_classify_of_isTag (oneLine others) again
      rw [found, otherFound]
      refine .tag fun checked => (same ?_).symm
      intro inside opened closed
      exact unchanged (fits.inside checked inside opened closed)
    · have ending : EndsTag front → back = [] → (other.length = 1 ↔ lead.length = 1) :=
        fun ends last => (fits.ending ends last).symm
      have untagged : ∀ typeName, ¬ IsTag (front ++ other ++ back) typeName := by
        intro typeName tag
        obtain ⟨otherName, again, -⟩ := exists_isTag_append others leads ending tag
        exact tagged ⟨otherName, again⟩
      rw [classify_of_no_tag fun typeName tag => tagged ⟨typeName, tag⟩,
        classify_of_no_tag untagged, isDescription_append leads others]
      split
      · exact .description _ _
      · exact .nothing

/-! ## Another indentation of the lines of a block -/

/-- Lines of a block behind the given front, some of which get another indentation that fits into
its segment. What is asked of an indentation is told by the lines as they were. -/
inductive Reindented (strict : Prop) : Text → List Text → List Text → Prop
  | nil (front : Text) : Reindented strict front [] []
  | same {front : Text} {lines others : List Text} (line : Text)
    (behind : Reindented strict (front ++ line) lines others) :
    Reindented strict front (line :: lines) (line :: others)
  | indent {front lead other content : Text} {lines others : List Text} (leads : IsLead lead)
    (otherLeads : IsLead other)
    (fits : Fits strict (lastPiece '*' front) (firstPiece '*' (content ++ lines.flatten)) lead
      other)
    (behind : Reindented strict (front ++ (lead ++ content)) lines others) :
    Reindented strict front ((lead ++ content) :: lines) ((other ++ content) :: others)

/-- Fronts of a block that differ in the indentation of their lines: whatever follows, the same tags
are open and ended in the segment at the end. -/
structure Alike (front other : Text) : Prop where
  opened : ∀ more, (∃ inside, Opened (lastPiece '*' (front ++ more)) inside) →
    ∃ inside, Opened (lastPiece '*' (other ++ more)) inside
  ended : ∀ more, EndsTag (lastPiece '*' (front ++ more)) → EndsTag (lastPiece '*' (other ++ more))

theorem Alike.refl (front : Text) : Alike front front :=
  ⟨fun _ opened => opened, fun _ ended => ended⟩

theorem Alike.append {front other : Text} (alike : Alike front other) (more : Text) :
    Alike (front ++ more) (other ++ more) := by
  constructor
  · intro rest opened
    rw [List.append_assoc] at opened ⊢
    exact alike.opened (more ++ rest) opened
  · intro rest ended
    rw [List.append_assoc] at ended ⊢
    exact alike.ended (more ++ rest) ended

theorem Alike.trans {first second third : Text} (left : Alike first second)
    (right : Alike second third) : Alike first third :=
  ⟨fun more opened => right.opened more (left.opened more opened),
    fun more ended => right.ended more (left.ended more ended)⟩

theorem starless_of_isLead (leads : IsLead lead) : '*' ∉ lead := by
  intro mem
  exact absurd (List.all_eq_true.mp leads.blank _ mem) (by decide)

/-- Another indentation at the end of a front. -/
theorem alike_append (front : Text) (leads : IsLead lead) (others : IsLead other) :
    Alike (front ++ lead) (front ++ other) := by
  have behind {lead more : Text} (mem : '*' ∈ more) :
      lastPiece '*' (front ++ lead ++ more) = lastPiece '*' more :=
    lastPiece_append_of_mem mem _
  have around {lead more : Text} (leads : IsLead lead) (absent : '*' ∉ more) :
      lastPiece '*' (front ++ lead ++ more) = lastPiece '*' front ++ lead ++ more := by
    rw [lastPiece_append_of_not_mem absent, lastPiece_append_of_not_mem (starless_of_isLead leads)]
  constructor
  · intro more opened
    by_cases mem : '*' ∈ more
    · rwa [behind mem] at opened ⊢
    · rw [around others mem]
      rw [around leads mem] at opened
      obtain ⟨inside, opened⟩ := opened
      exact exists_opened_append leads others opened
  · intro more ended
    by_cases mem : '*' ∈ more
    · rwa [behind mem] at ended ⊢
    · rw [around others mem]
      rw [around leads mem] at ended
      exact endsTag_append leads others ended

theorem forall₂_agrees_trans {first second third : List Segment}
    (left : List.Forall₂ (Segment.Agrees strict) first second)
    (right : List.Forall₂ (Segment.Agrees strict) second third) :
    List.Forall₂ (Segment.Agrees strict) first third := by
  induction left generalizing third with
  | nil => exact right
  | cons agrees _ ih =>
      cases right with
      | cons other rest => exact .cons (agrees.trans other) (ih rest)

theorem forall₂_agrees_refl (parts : List Segment) :
    List.Forall₂ (Segment.Agrees strict) parts parts :=
  List.forall₂_same.mpr fun segment _ => .refl segment

/-- A block agrees with itself under another indentation of one line. -/
theorem forall₂_segments_append (leads : IsLead lead) (others : IsLead other)
    (fits : Fits strict (lastPiece '*' front) (firstPiece '*' back) lead other)
    (frontLine : '\n' ∉ front) (backLine : '\n' ∉ back) :
    List.Forall₂ (Segment.Agrees strict)
      (segments Settings.defaultParamPattern (front ++ lead ++ back))
      (segments Settings.defaultParamPattern (front ++ other ++ back)) := by
  obtain ⟨firsts, lasts, cut⟩ := exists_splitOn_append '*' front back
  have here := agrees_classify leads others fits (fun mem => frontLine (mem_of_mem_lastPiece mem))
    (fun mem => backLine (mem_of_mem_firstPiece mem))
  rw [segments, segments, cut lead (starless_of_isLead leads), cut other (starless_of_isLead others),
    List.map_append, List.map_append, List.map_cons, List.map_cons]
  exact List.rel_append (forall₂_agrees_refl _) (.cons here (forall₂_agrees_refl _))

/-- A block agrees with itself under another indentation of its lines, by induction over the lines.
The lines in front have already been changed, and leave the same tags open. -/
theorem forall₂_segments_of_reindented {front start : Text} {lines others : List Text}
    (reindented : Reindented strict front lines others) (alike : Alike start front)
    (startLine : '\n' ∉ start) (oneLine : ∀ line ∈ lines, '\n' ∉ line) :
    List.Forall₂ (Segment.Agrees strict)
      (segments Settings.defaultParamPattern (start ++ lines.flatten))
      (segments Settings.defaultParamPattern (start ++ others.flatten)) := by
  induction reindented generalizing start with
  | nil => exact forall₂_agrees_refl _
  | same line behind ih =>
      obtain ⟨first, rest⟩ := List.forall_mem_cons.mp oneLine
      have longer : '\n' ∉ start ++ line := by
        rw [List.mem_append, not_or]
        exact ⟨startLine, first⟩
      have tail := ih (alike.append line) longer rest
      rwa [List.append_assoc, List.append_assoc] at tail
  | @indent front lead other content lines others leads otherLeads fits behind ih =>
      obtain ⟨first, rest⟩ := List.forall_mem_cons.mp oneLine
      have contentLine : '\n' ∉ content := fun mem => first (List.mem_append_right lead mem)
      have restLine : '\n' ∉ content ++ lines.flatten := by
        rw [List.mem_append, not_or, List.mem_flatten]
        exact ⟨contentLine, fun ⟨line, mem, inside⟩ => rest line mem inside⟩
      have fitsHere : Fits strict (lastPiece '*' start) (firstPiece '*' (content ++ lines.flatten))
          lead other := by
        constructor
        · intro ends last
          have before := alike.ended []
          rw [List.append_nil, List.append_nil] at before
          exact fits.ending (before ends) last
        · intro checked inside opened closed
          have before := alike.opened []
          rw [List.append_nil, List.append_nil] at before
          obtain ⟨outer, opened⟩ := before ⟨inside, opened⟩
          exact fits.inside checked outer opened closed
      have here := forall₂_segments_append leads otherLeads fitsHere startLine restLine
      have changed : Alike (start ++ other ++ content) (front ++ (lead ++ content)) := by
        rw [← List.append_assoc]
        exact ((alike_append start otherLeads leads).trans (alike.append lead)).append content
      have longer : '\n' ∉ start ++ other ++ content := by
        simp only [List.mem_append, not_or]
        exact ⟨⟨startLine, otherLeads.oneLine⟩, contentLine⟩
      have tail := ih changed longer rest
      simp only [List.flatten_cons, List.append_assoc] at here tail ⊢
      exact forall₂_agrees_trans here tail

end DocBlock

namespace Check

open DocBlock

/-- Only the types of the tags show in the warnings about types. -/
theorem invalidTypes_eq_map (doc : MethodDoc) (line : Int) (name : Text) :
    invalidTypes doc line name =
      ((doc.tags.map ParamTag.typeName).filter fun typeName => !validTypes.contains typeName).map
        fun typeName => ⟨.warning, invalidTypeMessage typeName, line, name⟩ := by
  rw [invalidTypes, List.filter_map, List.map_map]
  rfl

/-- A check sees of the documentation how many lines of description and how many tags there are,
and, if it is strict, the types of the tags. -/
theorem method_congr {settings : Settings} {first second : MethodDoc}
    (descriptions : first.description.length = second.description.length)
    (arguments : first.arguments = second.arguments)
    (tags : List.Forall₂ (fun first second : ParamTag =>
      settings.strictTypes → first.typeName = second.typeName) first.tags second.tags)
    (line : Int) (name : Text) : method settings first line name =
      method settings second line name := by
  have types : (if settings.strictTypes then invalidTypes first line name else []) =
      if settings.strictTypes then invalidTypes second line name else [] := by
    by_cases checked : settings.strictTypes
    · have names : first.tags.map ParamTag.typeName = second.tags.map ParamTag.typeName := by
        rw [← List.forall₂_eq_eq_eq, List.forall₂_map_left_iff, List.forall₂_map_right_iff]
        exact tags.imp fun _ _ same => same checked
      rw [if_pos checked, if_pos checked, invalidTypes_eq_map, invalidTypes_eq_map, names]
    · rw [if_neg checked, if_neg checked]
  rw [method, method, types, shortDescription, shortDescription, argumentCount, argumentCount,
    descriptions, arguments, tags.length_eq]

/-- Segments that agree make no difference to a check. -/
theorem method_extract_congr (settings : Settings) {pattern : Pattern} {block other : Text}
    (agree : List.Forall₂ (Segment.Agrees settings.strictTypes) (segments pattern block)
      (segments pattern other)) (parameters : Text) (line : Int) (name : Text) :
    method settings (extract pattern block parameters) line name =
      method settings (extract pattern other parameters) line name := by
  apply method_congr
  · have lines : List.Forall₂ (fun _ _ : Text => True)
        ((segments pattern block).filterMap Segment.description?)
        ((segments pattern other).filterMap Segment.description?) := by
      apply List.rel_filterMap _ agree
      intro first second same
      cases same with
      | tag => exact .none
      | description => exact .some trivial
      | nothing => exact .none
    exact lines.length_eq
  · rfl
  · apply List.rel_filterMap _ agree
    intro first second same
    cases same with
    | tag same => exact .some same
    | description => exact .none
    | nothing => exact .none

end Check

end DocAudit
