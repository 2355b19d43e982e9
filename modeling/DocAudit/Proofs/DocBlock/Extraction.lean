import DocAudit.Proofs.DocBlock.Tags
import DocAudit.Proofs.Scan.GroupAccess
import DocAudit.Proofs.Text.Positions

/-!
# Extraction by segments

What is extracted of a block under any pattern for parameter tags that has a group for the type and one
for the description. A block is extracted segment by segment: at an asterisk it can be cut in two, and
each part is extracted as a block of its own. A single segment contributes in one of four ways, which
exclude each other: the pattern finds a tag, it finds a match without a type, the segment is a line of
description, or it is neither. From these two facts follow those about whole blocks.
-/

namespace DocAudit.DocBlock

open Text

variable {pattern : Pattern} {segment block line : Text}

/-! ## Blocks as segments -/

theorem segments_append (pattern : Pattern) (first second : Text) :
    segments pattern (first ++ '*' :: second) =
      segments pattern first ++ segments pattern second := by
  rw [segments, splitOn_append_separator, List.map_append, ← segments, ← segments]

/-- Nothing can be extracted of a block exactly if this holds of one of its parts. -/
theorem isTangled_append (pattern : Pattern) (first second : Text) :
    isTangled pattern (first ++ '*' :: second) =
      (isTangled pattern first || isTangled pattern second) := by
  rw [isTangled, splitOn_append_separator, List.any_append, ← isTangled, ← isTangled]

/-- A block without asterisks is a single segment. -/
theorem extract_of_not_mem (starless : '*' ∉ segment) (parameters : Text) :
    extract pattern segment parameters =
      { description := (classify pattern segment).description?.toList
        arguments := splitArguments parameters
        tags := (classify pattern segment).tag?.toList } := by
  simp only [extract, segments, splitOn_of_not_mem starless, List.map_singleton,
    List.filterMap_cons, List.filterMap_nil]
  cases classify pattern segment <;> rfl

/-- A segment contributes one line or one tag at the most. -/
theorem length_filterMap_add_le (parts : List Segment) :
    (parts.filterMap Segment.description?).length + (parts.filterMap Segment.tag?).length ≤
      parts.length := by
  induction parts with
  | nil => exact Nat.le_refl 0
  | cons part rest ih =>
      cases part with
      | tag found | description line =>
          simp only [List.filterMap_cons, Segment.description?, Segment.tag?, List.length_cons]
          omega
      | nothing => exact Nat.le_succ_of_le ih

/-! ## The ways in which a segment contributes -/

/-- A text that can be a line of description: it is not blank, has no slash, and no at sign in front of
a word character. -/
structure Describes (text : Text) : Prop where
  visible : allBlank text = false
  slashless : '/' ∉ text
  plain : ¬ Annotated text

theorem isDescription_iff : isDescription segment ↔ Describes segment := by
  have annotated : (annotationPattern.search? segment).isNone ↔ ¬ Annotated segment := by
    rw [← isSome_search?_annotationPattern_iff, Bool.not_eq_true, Option.isSome_eq_false_iff]
  rw [isDescription, Bool.and_eq_true, Bool.and_eq_true, annotated, Bool.not_eq_true',
    Bool.not_eq_true', List.contains_eq_mem, decide_eq_false_iff_not]
  constructor
  · rintro ⟨⟨plain, slashless⟩, visible⟩
    exact ⟨visible, slashless, plain⟩
  · rintro ⟨visible, slashless, plain⟩
    exact ⟨⟨plain, slashless⟩, visible⟩

/-- The ways in which a segment can contribute. -/
inductive Contribution where
  /-- A match with a type. -/
  | tag
  /-- A match in which the group of the type took no part. -/
  | untyped
  | description
  | silence

/-- What a segment is like that contributes in some way, and what its documentation holds then. -/
def Contributes (pattern : Pattern) (segment : Text) (doc : MethodDoc) : Contribution → Prop
  | .tag => ∃ found typeName summary, pattern.search? segment = some found ∧
      found.group segment 1 = .ok (some typeName) ∧ found.group segment 2 = .ok summary ∧
      doc.description = [] ∧ doc.tags = [⟨typeName, summary.getD []⟩]
  | .untyped => ∃ found, pattern.search? segment = some found ∧
      found.group segment 1 = .ok none ∧ doc.description = [] ∧ doc.tags = []
  | .description => pattern.search? segment = none ∧ Describes segment ∧
      doc.description = [trim segment] ∧ doc.tags = []
  | .silence => pattern.search? segment = none ∧ ¬ Describes segment ∧
      doc.description = [] ∧ doc.tags = []

/-- With two groups a match has something to say about both. -/
theorem exists_groups (two : 2 ≤ pattern.groups) {found : Pattern.Match}
    (matched : pattern.search? segment = some found) : ∃ first second others,
      found.groups segment = first :: second :: others ∧
        found.group segment 1 = .ok first ∧ found.group segment 2 = .ok second := by
  rw [← Pattern.length_groups_of_search? matched] at two
  match groups : found.groups segment, two with
  | first :: second :: others, _ =>
      refine ⟨first, second, others, rfl, ?_, ?_⟩
      all_goals
        rw [Pattern.Match.group, groups]
        rfl

/-- The way in which a segment contributes. -/
def wayOf (pattern : Pattern) (segment : Text) : Contribution :=
  match pattern.search? segment with
  | some found =>
    match found.group segment 1 with
    | .ok (some _) => .tag
    | _ => .untyped
  | none => if isDescription segment then .description else .silence

theorem contributes_wayOf (two : 2 ≤ pattern.groups) (starless : '*' ∉ segment)
    (parameters : Text) :
    Contributes pattern segment (extract pattern segment parameters)
      (wayOf pattern segment) := by
  rw [extract_of_not_mem starless, classify, wayOf]
  cases matched : pattern.search? segment with
  | some found =>
      obtain ⟨first, second, others, groups, typed, described⟩ := exists_groups two matched
      dsimp only
      rw [groups, typed]
      cases first with
      | some typeName => exact ⟨found, typeName, second, matched, typed, described, rfl, rfl⟩
      | none => exact ⟨found, matched, typed, rfl, rfl⟩
  | none =>
      dsimp only
      split
      case isTrue described => exact ⟨matched, isDescription_iff.mp described, rfl, rfl⟩
      case isFalse plain =>
          exact ⟨matched, fun describes => plain (isDescription_iff.mpr describes), rfl, rfl⟩

/-- What a segment is like decides the way in which it contributes. -/
theorem Contributes.eq_wayOf {doc : MethodDoc} {way : Contribution}
    (contributes : Contributes pattern segment doc way) : way = wayOf pattern segment := by
  rw [wayOf]
  cases way with
  | tag =>
      obtain ⟨found, typeName, summary, matched, typed, -⟩ := contributes
      simp only [matched, typed]
  | untyped =>
      obtain ⟨found, matched, typed, -⟩ := contributes
      simp only [matched, typed]
  | description =>
      obtain ⟨unmatched, describes, -⟩ := contributes
      simp only [unmatched, if_pos (isDescription_iff.mpr describes)]
  | silence =>
      obtain ⟨unmatched, plain, -⟩ := contributes
      rw [← isDescription_iff] at plain
      simp only [unmatched, if_neg plain]

/-! ## Lines of description -/

theorem Annotated.of_infix {text whole : Text} (annotated : Annotated text)
    (inside : text <:+: whole) : Annotated whole := by
  obtain ⟨front, back, rfl⟩ := inside
  obtain ⟨before, c, after, isWord, rfl⟩ := annotated
  exact ⟨front ++ before, c, after ++ back, isWord, by simp⟩

theorem description?_tagOf (groups : List (Option Text)) : (tagOf groups).description? = none := by
  unfold tagOf
  split <;> rfl

/-- A line of description is a trimmed segment that can be one. -/
theorem exists_of_mem_description {parameters : Text}
    (mem : line ∈ (extract pattern block parameters).description) :
    ∃ segment, '*' ∉ segment ∧ Describes segment ∧ line = trim segment := by
  rw [extract, List.mem_filterMap] at mem
  obtain ⟨part, inBlock, said⟩ := mem
  rw [segments, List.mem_map] at inBlock
  obtain ⟨segment, cut, rfl⟩ := inBlock
  refine ⟨segment, not_mem_of_mem_splitOn cut, ?_⟩
  rw [classify] at said
  split at said
  case h_1 found matched =>
      rw [description?_tagOf] at said
      cases said
  case h_2 unmatched =>
      split at said
      case isTrue described =>
          exact ⟨isDescription_iff.mp described, (Option.some.inj said).symm⟩
      case isFalse => cases said

/-- Trimming keeps what makes a segment a line of description. -/
theorem Describes.trim (describes : Describes segment) :
    Text.trim segment ≠ [] ∧ Describes (Text.trim segment) := by
  have filled : Text.trim segment ≠ [] := by
    rw [Ne, trim_eq_nil_iff, describes.visible]
    exact Bool.false_ne_true
  refine ⟨filled, ?_, ?_, ?_⟩
  · rw [← Bool.not_eq_true, ← trim_eq_nil_iff, trim_trim]
    exact filled
  · exact fun mem => describes.slashless ((isInfix_trim segment).subset mem)
  · exact fun annotated => describes.plain (annotated.of_infix (isInfix_trim segment))

/-! ## Whole blocks -/

/-- Under a pattern with two groups a block is extracted in parts: what stands on both sides of an
asterisk gives its lines and its tags by itself, and nothing can be extracted of the whole only if this
holds of a part. A part without asterisks contributes in exactly one way. So every line of description
is a trimmed text with something in it, without asterisks, slashes and annotations, and there are no
more lines and tags together than asterisks and one. -/
theorem extract_by_segments (two : 2 ≤ pattern.groups) (parameters : Text) :
    (∀ first second,
      let whole := extract pattern (first ++ '*' :: second) parameters
      whole.description = (extract pattern first parameters).description ++
          (extract pattern second parameters).description ∧
        whole.tags = (extract pattern first parameters).tags ++
          (extract pattern second parameters).tags ∧
        isTangled pattern (first ++ '*' :: second) =
          (isTangled pattern first || isTangled pattern second)) ∧
      (∀ segment, '*' ∉ segment →
        ∃! way, Contributes pattern segment (extract pattern segment parameters) way) ∧
      ∀ block,
        (∀ line ∈ (extract pattern block parameters).description,
          line ≠ [] ∧ trim line = line ∧ '*' ∉ line ∧ '/' ∉ line ∧ ¬ Annotated line) ∧
        (extract pattern block parameters).description.length +
          (extract pattern block parameters).tags.length ≤ block.count '*' + 1 := by
  refine ⟨fun first second => ⟨?_, ?_, isTangled_append pattern first second⟩, ?_, ?_⟩
  · simp only [extract, segments_append, List.filterMap_append]
  · simp only [extract, segments_append, List.filterMap_append]
  · intro segment starless
    exact ⟨wayOf pattern segment, contributes_wayOf two starless parameters,
      fun _ contributes => contributes.eq_wayOf⟩
  · intro block
    constructor
    · intro line mem
      obtain ⟨segment, starless, describes, rfl⟩ := exists_of_mem_description mem
      obtain ⟨filled, trimmed⟩ := describes.trim
      refine ⟨filled, trim_trim segment, ?_, trimmed.slashless, trimmed.plain⟩
      exact fun mem => starless ((isInfix_trim segment).subset mem)
    · have counted := length_filterMap_add_le (segments pattern block)
      rwa [segments, List.length_map, length_splitOn] at counted

/-- A block with a match without a type, a tag and a line of description, under a pattern whose first
group need not take part. -/
theorem extract_by_segments_of_optional_type :
    let pattern : Pattern :=
      { source := "(x)?(y)"
        root := .seq (.loop .greedy 0 (some 1) (.capture 1 (.one (.char 'x'))))
          (.capture 2 (.one (.char 'y')))
        groups := 2 }
    let first : Text := " y"
    let second : Text := "xy* a b "
    2 ≤ pattern.groups ∧ '*' ∉ first ∧
      (∃! way, Contributes pattern first (extract pattern first []) way) ∧
      (extract pattern (first ++ '*' :: second) []).description = ["a b".toList] ∧
      (extract pattern (first ++ '*' :: second) []).tags = [⟨"x".toList, "y".toList⟩] := by
  intro pattern first second
  have two : 2 ≤ pattern.groups := by decide
  have starless : '*' ∉ first := by decide
  obtain ⟨joined, single, -⟩ := extract_by_segments two []
  obtain ⟨lines, tags, -⟩ := joined first second
  refine ⟨two, starless, single first starless, ?_, ?_⟩
  · rw [lines]
    decide +kernel
  · rw [tags]
    decide +kernel

end DocAudit.DocBlock
