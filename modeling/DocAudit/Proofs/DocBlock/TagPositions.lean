import DocAudit.Proofs.DocBlock.Tags
import DocAudit.Proofs.Text.Positions

/-!
# Parameter tags in closed form

What the usual pattern for parameter tags takes of a segment, told by positions alone. A tag can be
read between any `@param` with an opening brace behind it and any closing brace, not directly behind
the opening one, that has a blank and some text behind it. A segment gives one tag at the most, read
between the first such `@param` and the last such brace. The search is leftmost in the first and
greedy in the second, but the two choices do not meet: a closing brace that serves a later tag serves
every earlier one as well.
-/

namespace DocAudit.DocBlock

open Pattern Text

/-- A tag is opened at a position: `@param` stands there, then perhaps blanks, then an opening brace
at the second position. -/
structure OpensAt (text : Text) (start opening : Nat) : Prop where
  keyword : "@param".toList <+: text.drop start
  ordered : start + 6 ≤ opening
  gap : allBlank (slice text (start + 6) opening)
  isOpening : text[opening]? = some '\x7b'

/-- A brace at a position can close a tag: a blank stands behind it, and some text behind that. -/
structure ClosesAt (text : Text) (closing : Nat) : Prop where
  isClosing : text[closing]? = some '\x7d'
  space : (text[closing + 1]?).any isBlank
  described : closing + 2 < text.length

/-- A tag can be read between two positions. Its type is not empty. -/
structure TagAt (text : Text) (start opening closing : Nat) : Prop where
  opens : OpensAt text start opening
  filled : opening + 2 ≤ closing
  closes : ClosesAt text closing

/-- The tag that reaches from the first to the last of the positions between which one can be
read. -/
structure WidestTag (text : Text) (start opening closing : Nat) : Prop where
  tag : TagAt text start opening closing
  first : ∀ other between last, TagAt text other between last → start ≤ other
  last : ∀ other between last, TagAt text other between last → last ≤ closing

variable {text segment inside typeName : Text} {start opening closing place : Nat}

/-! ## Positions and parts -/

theorem OpensAt.eq_append (opens : OpensAt text start opening) :
    text = text.take start ++ "@param".toList ++
      (slice text (start + 6) opening ++ '\x7b' :: text.drop (opening + 1)) := by
  rw [← drop_eq_cons opens.isOpening, ← drop_eq_slice_append text opens.ordered, List.append_assoc]
  have named := drop_eq_append_of_prefix opens.keyword
  have length : "@param".toList.length = 6 := rfl
  rw [length] at named
  rw [← named, List.take_append_drop]

/-- What stands behind the opening brace of a tag is the text from some position on. -/
theorem opened_iff : Opened text inside ↔
    ∃ start opening, OpensAt text start opening ∧ inside = text.drop (opening + 1) := by
  constructor
  · rintro ⟨front, gap, blank, rfl⟩
    have length : "@param".toList.length = 6 := rfl
    have named : (front ++ "@param".toList ++ (gap ++ '\x7b' :: inside)).drop front.length =
        "@param".toList ++ (gap ++ '\x7b' :: inside) := by
      rw [List.append_assoc, List.drop_left]
    have behind := drop_of_drop_eq_append named
    rw [length] at behind
    have braced := drop_of_drop_eq_append behind.symm
    refine ⟨front.length, front.length + 6 + gap.length, ⟨?_, Nat.le_add_right _ _, ?_, ?_⟩, ?_⟩
    · rw [named]
      exact List.prefix_append _ _
    · rw [slice_of_drop_eq_append behind.symm]
      exact blank
    · exact getElem?_of_drop_eq_cons braced.symm
    · exact drop_of_drop_eq_cons braced.symm
  · rintro ⟨start, opening, opens, rfl⟩
    exact ⟨text.take start, slice text (start + 6) opening, opens.gap, opens.eq_append⟩

/-- What a brace needs behind it to close a tag. -/
theorem follows_iff : Follows (text.drop (closing + 1)) ↔
    (text[closing + 1]?).any isBlank ∧ closing + 2 < text.length := by
  constructor
  · rintro ⟨space, summary, isSpace, long, split⟩
    have rest := drop_of_drop_eq_cons split
    rw [rest, Ne, List.drop_eq_nil_iff, Nat.not_le] at long
    rw [getElem?_of_drop_eq_cons split, Option.any_some]
    exact ⟨isSpace, long⟩
  · rintro ⟨spaced, described⟩
    obtain ⟨space, found, isSpace⟩ := (Option.any_eq_true _ _).mp spaced
    refine ⟨space, text.drop (closing + 2), isSpace, ?_, drop_eq_cons found⟩
    rw [Ne, List.drop_eq_nil_iff, Nat.not_le]
    exact described

theorem closed_iff :
    Closed (text.drop place) ↔ ∃ closing, place ≤ closing ∧ ClosesAt text closing := by
  constructor
  · rintro ⟨before, rest, follows, split⟩
    have braced := drop_of_drop_eq_append split
    rw [drop_of_drop_eq_cons braced.symm] at follows
    obtain ⟨space, described⟩ := follows_iff.mp follows
    exact ⟨place + before.length, Nat.le_add_right _ _, getElem?_of_drop_eq_cons braced.symm, space,
      described⟩
  · rintro ⟨closing, behind, closes⟩
    refine ⟨slice text place closing, text.drop (closing + 1),
      follows_iff.mpr ⟨closes.space, closes.described⟩, ?_⟩
    rw [← drop_eq_cons closes.isClosing, ← drop_eq_slice_append text behind]

/-! ## The widest tag -/

/-- The brace that closes the last tag closes the first one too. -/
theorem TagAt.exists_widestTag (tag : TagAt text start opening closing) :
    ∃ start opening closing, WidestTag text start opening closing := by
  obtain ⟨first, -, ⟨brace, late, early⟩, least⟩ :=
    exists_first (p := fun start => ∃ opening closing, TagAt text start opening closing)
      ⟨opening, closing, tag⟩
  have bounded : ∀ closing, (∃ start opening, TagAt text start opening closing) →
      closing ≤ text.length := by
    rintro closing ⟨_, _, tag⟩
    have inside := tag.closes.described
    omega
  obtain ⟨last, ⟨other, between, final⟩, greatest⟩ := exists_last ⟨start, opening, tag⟩ bounded
  have further : late ≤ last := greatest late ⟨first, brace, early⟩
  refine ⟨first, brace, last, ⟨early.opens, Nat.le_trans early.filled further, final.closes⟩, ?_, ?_⟩
  · intro other between last another
    exact least other ⟨between, last, another⟩
  · intro other between last another
    exact greatest last ⟨other, between, another⟩

/-- No tag is opened in front of the widest one. -/
theorem WidestTag.not_opened (widest : WidestTag text start opening closing) (inside : Text) :
    ¬ Opened (text.take start) inside := by
  rintro ⟨front, gap, blank, split⟩
  have whole : Opened text (inside ++ text.drop start) := by
    refine ⟨front, gap, blank, ?_⟩
    have joined := congrArg (· ++ text.drop start) split
    simpa using joined
  obtain ⟨other, between, opens, behind⟩ := opened_iff.mp whole
  have lengths := congrArg List.length behind
  have ordered := widest.tag.opens.ordered
  have filled := widest.tag.filled
  have inText := widest.tag.closes.described
  rw [List.length_append, List.length_drop, List.length_drop] at lengths
  have sooner := opens.ordered
  have earlier := widest.first other between closing ⟨opens, by omega, widest.tag.closes⟩
  omega

/-- No brace behind the widest tag can close one. -/
theorem WidestTag.not_closed (widest : WidestTag text start opening closing) :
    ¬ Closed (text.drop (closing + 1)) := by
  rw [closed_iff]
  rintro ⟨other, behind, closes⟩
  have filled := widest.tag.filled
  have within := widest.last start opening other ⟨widest.tag.opens, by omega, closes⟩
  omega

/-- The usual pattern finds the widest tag. -/
theorem WidestTag.classify_eq (widest : WidestTag segment start opening closing)
    (oneLine : '\n' ∉ segment) : classify Settings.defaultParamPattern segment =
      .tag ⟨slice segment (opening + 1) closing, segment.drop (closing + 2)⟩ := by
  obtain ⟨opens, filled, closes⟩ := widest.tag
  obtain ⟨space, found, isSpace⟩ := (Option.any_eq_true _ _).mp closes.space
  have described := closes.described
  have rest : segment.drop (closing + 1) = space :: segment.drop (closing + 2) := drop_eq_cons found
  have unclosed := widest.not_closed
  have split := opens.eq_append
  rw [drop_eq_slice_append segment (by omega : opening + 1 ≤ closing),
    drop_eq_cons closes.isClosing, rest] at split
  rw [rest] at unclosed
  have parts := classify_of_parts (split ▸ oneLine) opens.gap
    (slice_ne_nil (by omega) (by omega)) isSpace ?_ widest.not_opened unclosed
  · rwa [← split] at parts
  · rw [Ne, List.drop_eq_nil_iff, Nat.not_le]
    exact described

/-- A segment between whose positions no tag can be read is none. -/
theorem classify_ne_tag (none : ¬ ∃ start opening closing, TagAt segment start opening closing)
    (found : ParamTag) : classify Settings.defaultParamPattern segment ≠ .tag found := by
  have untagged : ∀ typeName, ¬ IsTag segment typeName := by
    rintro typeName ⟨front, gap, rest, split, blank, filled, follows, -, -⟩
    obtain ⟨start, opening, opens, inside⟩ := opened_iff.mp ⟨front, gap, blank, split⟩
    have behind := drop_of_drop_eq_append inside.symm
    have after := drop_of_drop_eq_cons behind.symm
    rw [after] at follows
    obtain ⟨space, described⟩ := follows_iff.mp follows
    have long := List.length_pos_iff.mpr filled
    exact none ⟨start, opening, opening + 1 + typeName.length, opens, by omega,
      getElem?_of_drop_eq_cons behind.symm, space, described⟩
  rw [classify_of_no_tag untagged]
  split <;> exact nofun

/-! ## The closed form -/

/-- The parameter tags of a segment of one line under the usual pattern, by positions. There is one
exactly if one can be read somewhere, and then it is a single one: its type stands between the opening
brace of the first `@param` from which a tag can be read and the last brace that can close one, and its
description behind the blank that follows. -/
theorem tags_closed_form (oneLine : '\n' ∉ segment) (starless : '*' ∉ segment)
    (parameters : Text) :
    let tags := (extract Settings.defaultParamPattern segment parameters).tags
    isTangled Settings.defaultParamPattern segment = false ∧
      (tags ≠ [] ↔ ∃ start opening closing, TagAt segment start opening closing) ∧
      (tags ≠ [] → ∃ start opening closing, WidestTag segment start opening closing ∧
        tags = [⟨slice segment (opening + 1) closing, segment.drop (closing + 2)⟩]) := by
  intro tags
  have single : tags = [classify Settings.defaultParamPattern segment].filterMap Segment.tag? := by
    simp only [tags, extract, segments, splitOn_of_not_mem starless, List.map_singleton]
  have taken {start opening closing : Nat} (tag : TagAt segment start opening closing) :
      ∃ start opening closing, WidestTag segment start opening closing ∧
        tags = [⟨slice segment (opening + 1) closing, segment.drop (closing + 2)⟩] := by
    obtain ⟨start, opening, closing, widest⟩ := tag.exists_widestTag
    refine ⟨start, opening, closing, widest, ?_⟩
    rw [single, widest.classify_eq oneLine]
    rfl
  have read (filled : tags ≠ []) :
      ∃ start opening closing, TagAt segment start opening closing := by
    by_contra none
    apply filled
    rw [single]
    cases segmentIs : classify Settings.defaultParamPattern segment with
    | tag found => exact absurd segmentIs (classify_ne_tag none found)
    | description line => rfl
    | nothing => rfl
  refine ⟨isTangled_defaultParamPattern segment, ⟨read, ?_⟩, ?_⟩
  · rintro ⟨start, opening, closing, tag⟩
    obtain ⟨_, _, _, -, found⟩ := taken tag
    rw [found]
    exact List.cons_ne_nil _ _
  · intro filled
    obtain ⟨start, opening, closing, tag⟩ := read filled
    exact taken tag

/-- A second tag and a brace in the description are swallowed by the type of the first tag. -/
theorem tags_closed_form_of_two_tags :
    let segment := " @param\x7bA\x7d @param \x7bB\x7d b\x7d c".toList
    '\n' ∉ segment ∧ '*' ∉ segment ∧ ∃ start opening closing,
      WidestTag segment start opening closing ∧
      slice segment (opening + 1) closing = "A\x7d @param \x7bB\x7d b".toList ∧
      segment.drop (closing + 2) = "c".toList := by
  intro segment
  have oneLine : '\n' ∉ segment := by decide
  have starless : '*' ∉ segment := by decide
  have tags : (extract Settings.defaultParamPattern segment []).tags =
      [⟨"A\x7d @param \x7bB\x7d b".toList, "c".toList⟩] := by decide +kernel
  obtain ⟨-, -, found⟩ := tags_closed_form oneLine starless []
  obtain ⟨start, opening, closing, widest, same⟩ := found (by rw [tags]; exact List.cons_ne_nil _ _)
  rw [tags, List.cons.injEq, ParamTag.mk.injEq] at same
  exact ⟨oneLine, starless, start, opening, closing, widest, same.1.1.symm, same.1.2.symm⟩

end DocAudit.DocBlock
