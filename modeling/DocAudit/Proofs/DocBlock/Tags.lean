import DocAudit.Proofs.DocBlock.Segments
import DocAudit.Proofs.Pattern.Leads

/-!
# Parameter tags in plain terms

When the usual pattern finds a parameter tag in a segment, and with which type, without ways and
searches: the first tag that is opened counts, and its type reaches to the last brace that can close
it. Where a later brace closes some tag, it closes the first one that is opened as well, so nothing
has to be tried twice. What makes a segment without a tag a line of description is told in the same
terms.
-/

namespace DocAudit.DocBlock

open Pattern Text

variable {front segment typeName inside after : Text}

/-- What has to follow the closing brace of a tag: a blank and a description. -/
def Follows (rest : Text) : Prop :=
  ∃ space summary, isBlank space ∧ summary ≠ [] ∧ rest = space :: summary

/-- Somewhere in a text a tag is opened, and some text stands behind the opening brace. -/
def Opened (text inside : Text) : Prop :=
  ∃ front gap, allBlank gap ∧ text = front ++ "@param".toList ++ (gap ++ '\x7b' :: inside)

/-- Somewhere in a text stands a brace that can close a tag. -/
def Closed (text : Text) : Prop :=
  ∃ inside rest, Follows rest ∧ text = inside ++ '\x7d' :: rest

/-- The tag of a segment: the first one that is opened, with the last brace that can close it. -/
def IsTag (segment typeName : Text) : Prop :=
  ∃ front gap rest,
    segment = front ++ "@param".toList ++ (gap ++ '\x7b' :: (typeName ++ '\x7d' :: rest)) ∧
      allBlank gap ∧ typeName ≠ [] ∧ Follows rest ∧ (∀ inside, ¬ Opened front inside) ∧
      ¬ Closed rest

/-- Of the opened tags of a segment one comes first. -/
theorem exists_first_opened (opened : Opened segment inside) : ∃ front gap more,
    allBlank gap ∧ segment = front ++ "@param".toList ++ (gap ++ '\x7b' :: (more ++ inside)) ∧
      ∀ inside, ¬ Opened front inside := by
  obtain ⟨front, gap, blank, rfl⟩ := opened
  generalize size : front.length = n
  induction n using Nat.strongRecOn generalizing front gap inside with
  | ind n ih =>
      by_cases earlier : ∃ inside, Opened front inside
      · obtain ⟨behind, first, space, spaces, rfl⟩ := earlier
        have shorter : first.length < n := by
          rw [← size]
          simp only [List.length_append, List.length_cons]
          have : "@param".toList.length = 6 := rfl
          omega
        obtain ⟨start, next, more, nextBlank, whole, none⟩ := ih first.length shorter first space
          spaces rfl
        refine ⟨start, next, more ++ (behind ++ "@param".toList ++ (gap ++ ['\x7b'])), nextBlank, ?_,
          none⟩
        simpa only [List.append_assoc, List.cons_append, List.nil_append] using whole
      · exact ⟨front, gap, [], blank, by simp, fun inside opened => earlier ⟨inside, opened⟩⟩

/-- Of the braces that can close a tag one comes last. -/
theorem exists_last_closed (follows : Follows after) : ∃ more rest,
    '\x7d' :: after = more ++ '\x7d' :: rest ∧ Follows rest ∧ ¬ Closed rest := by
  generalize size : after.length = n
  induction n using Nat.strongRecOn generalizing after with
  | ind n ih =>
      by_cases later : Closed after
      · obtain ⟨between, last, behind, rfl⟩ := later
        have shorter : last.length < n := by
          rw [← size, List.length_append, List.length_cons]
          omega
        obtain ⟨more, rest, whole, result⟩ := ih last.length shorter behind rfl
        exact ⟨'\x7d' :: between ++ more, rest, by simp [whole], result⟩
      · exact ⟨[], after, rfl, follows, later⟩

/-- A tag is there as soon as one is opened and a later brace can close it. -/
theorem exists_isTag (opened : Opened segment (inside ++ '\x7d' :: after)) (filled : inside ≠ [])
    (follows : Follows after) : ∃ typeName, IsTag segment typeName := by
  obtain ⟨front, gap, more, blank, whole, first⟩ := exists_first_opened opened
  obtain ⟨longer, rest, same, follows, last⟩ := exists_last_closed follows
  rw [same] at whole
  refine ⟨more ++ inside ++ longer, front, gap, rest, by simpa using whole, blank, ?_, follows,
    first, last⟩
  simp [filled]

/-! ## The usual pattern -/

theorem accepts_brace {c brace : Char} (accepted : (CharTest.char brace).accepts c) : c = brace := by
  simpa [CharTest.accepts] using accepted

/-- Nothing can be closed where no brace has a blank and a description behind it. -/
theorem ways_closing_eq_nil (unclosed : ¬ Closed after) {rest : Text} (suffix : rest <:+ after) :
    (Node.sequence [.one (.char '\x7d'), .one Signature.blank,
      .capture 2 Signature.something]).ways rest = [] := by
  apply Classical.byContradiction
  intro found
  obtain ⟨brace, behind, rfl, isBrace, spaced⟩ := exists_cons_of_ways_one found
  obtain ⟨space, summary, rfl, isSpace, described⟩ := exists_cons_of_ways_one spaced
  obtain rfl := accepts_brace isBrace
  obtain ⟨front, rfl⟩ := suffix
  refine unclosed ⟨front, _, ⟨space, summary, ?_, ?_, rfl⟩, rfl⟩
  · rwa [Signature.accepts_blank] at isSpace
  · rintro rfl
    apply described
    rw [Signature.something, ways_capture_sequence, runRests, List.flatMap_nil]

/-- What a way of the pattern for tags begins with. -/
theorem exists_opened_of_ways {text : Text}
    (found : Settings.defaultParamPattern.root.ways text ≠ []) : ∃ gap inside,
      allBlank gap ∧ text = "@param".toList ++ (gap ++ '\x7b' :: inside) ∧
        (Node.sequence [.capture 1 Signature.something, .one (.char '\x7d'), .one Signature.blank,
          .capture 2 Signature.something]).ways inside ≠ [] := by
  obtain ⟨behind, rfl, spaced⟩ := exists_append_of_ways_literal found
  have runs := ways_many_sequence Signature.blank 0 [.one (.char '\x7b'),
    .capture 1 Signature.something, .one (.char '\x7d'), .one Signature.blank,
    .capture 2 Signature.something] behind
  rw [← Signature.blanks] at runs
  rw [runs, Ne, List.flatMap_eq_nil_iff] at spaced
  simp only [Classical.not_forall, exists_prop, mem_runRests_iff] at spaced
  obtain ⟨behind, ⟨gap, rfl, blank, -⟩, braced⟩ := spaced
  obtain ⟨brace, inside, rfl, isBrace, reached⟩ := exists_cons_of_ways_one braced
  obtain rfl := accepts_brace isBrace
  refine ⟨gap, inside, List.all_eq_true.mpr ?_, rfl, reached⟩
  intro c mem
  rw [← Signature.accepts_blank]
  exact blank c mem

/-- What stands behind the opening brace of a tag that the pattern finds. -/
theorem exists_closed_of_ways (found : (Node.sequence [.capture 1 Signature.something,
    .one (.char '\x7d'), .one Signature.blank, .capture 2 Signature.something]).ways inside ≠ []) :
    ∃ typeName rest, typeName ≠ [] ∧ Follows rest ∧ inside = typeName ++ '\x7d' :: rest := by
  rw [Signature.something, ways_capture_sequence, Ne, List.flatMap_eq_nil_iff] at found
  simp only [List.map_eq_nil_iff, Classical.not_forall, exists_prop, mem_runRests_iff] at found
  obtain ⟨behind, ⟨typeName, rfl, -, filled⟩, found⟩ := found
  have closes : Closed behind := by
    apply Classical.byContradiction
    intro unclosed
    exact found (ways_closing_eq_nil unclosed (List.suffix_refl behind))
  obtain ⟨more, rest, follows, rfl⟩ := closes
  refine ⟨typeName ++ more, rest, ?_, follows, by simp⟩
  exact List.append_ne_nil_of_left_ne_nil (List.length_pos_iff.mp filled) more

/-- Where the pattern for tags finds something there is a tag. -/
theorem exists_isTag_of_search? (found : (Settings.defaultParamPattern.search? segment).isSome) :
    ∃ typeName, IsTag segment typeName := by
  rw [search?_eq isPlain_defaultParamPattern, Option.isSome_map] at found
  obtain ⟨⟨start, way⟩, first⟩ := Option.isSome_iff_exists.mp found
  obtain ⟨⟨front, rfl⟩, mem⟩ := Node.mem_of_firstWay? first
  obtain ⟨gap, inside, blank, rfl, behind⟩ := exists_opened_of_ways (List.ne_nil_of_mem mem)
  obtain ⟨typeName, rest, filled, follows, rfl⟩ := exists_closed_of_ways behind
  exact exists_isTag ⟨front, gap, blank, by simp⟩ filled follows

/-- No tag begins in a front in which none is opened, if `@param` follows it. -/
theorem ways_front_eq_nil (unopened : ∀ inside, ¬ Opened front inside) {late : Text}
    (filled : late ≠ []) (suffix : late <:+ front) (rest : Text) :
    Settings.defaultParamPattern.root.ways (late ++ ("@param".toList ++ rest)) = [] := by
  apply Classical.byContradiction
  intro found
  obtain ⟨gap, inside, blank, whole, -⟩ := exists_opened_of_ways found
  obtain ⟨early, rfl⟩ := suffix
  obtain ⟨c, late, rfl⟩ := List.exists_cons_of_ne_nil filled
  -- The second at sign stands behind the brace that the first tag opens.
  have absent : '@' ∉ "param".toList ++ gap ++ ['\x7b'] := by
    have visible : '@' ∉ gap := by
      intro mem
      exact absurd (List.all_eq_true.mp blank _ mem) (by decide)
    simp [visible]
  have split : c :: late ++ '@' :: ("param".toList ++ rest) =
      '@' :: (("param".toList ++ gap ++ ['\x7b']) ++ inside) := by
    simpa using whole
  obtain ⟨rfl, behind⟩ := List.cons.inj split
  rcases List.append_eq_append_iff.mp behind with ⟨more, same, next⟩ | ⟨more, rfl, -⟩
  · cases more with
    | nil =>
        rw [List.append_nil] at same
        exact unopened [] ⟨early, gap, blank, by simp [← same]⟩
    | cons d more =>
        obtain ⟨rfl, -⟩ := List.cons.inj next
        rw [same] at absent
        exact absent (List.mem_append_right late List.mem_cons_self)
  · exact unopened more ⟨early, gap, blank, by simp⟩

/-- A tag that is the first one to be opened, and that no later brace can close, is found with its type
and all that stands behind the blank. -/
theorem classify_of_parts {gap summary : Text} {space : Char}
    (oneLine : '\n' ∉ front ++ "@param".toList ++ (gap ++ '\x7b' ::
      (typeName ++ '\x7d' :: space :: summary)))
    (blank : allBlank gap) (filled : typeName ≠ []) (isSpace : isBlank space) (long : summary ≠ [])
    (unopened : ∀ inside, ¬ Opened front inside) (unclosed : ¬ Closed (space :: summary)) :
    classify Settings.defaultParamPattern (front ++ "@param".toList ++ (gap ++ '\x7b' ::
      (typeName ++ '\x7d' :: space :: summary))) = .tag ⟨typeName, summary⟩ := by
  simp only [List.mem_append, List.mem_cons, not_or] at oneLine
  obtain ⟨-, -, -, typeLine, -, -, summaryLine⟩ := oneLine
  have last : FirstWay [.capture 2 Signature.something] summary ⟨[summary, []], []⟩ := by
    have run : FirstWay [.capture 2 Signature.something] (summary ++ [])
        ⟨[summary ++ [], []], []⟩ :=
      firstWay_capture_run (fun c mem => Signature.accepts_notNewline summaryLine mem)
        (List.length_pos_iff.mpr long) rfl (firstWay_nil [])
    rwa [List.append_nil] at run
  have isBlank : Signature.blank.accepts space := by rwa [Signature.accepts_blank]
  have closes : FirstWay [.capture 1 Signature.something, .one (.char '\x7d'),
      .one Signature.blank, .capture 2 Signature.something]
      (typeName ++ '\x7d' :: space :: summary)
      ⟨[typeName ++ '\x7d' :: space :: summary, '\x7d' :: space :: summary, summary, []], []⟩ :=
    firstWay_capture_back (fun c mem => Signature.accepts_notNewline typeLine mem)
      (List.length_pos_iff.mpr filled) (fun other suffix => ways_closing_eq_nil unclosed suffix)
      (firstWay_one (by decide) (firstWay_one isBlank last))
  have opens : FirstWay [.literal "@param".toList, Signature.blanks, .one (.char '\x7b'),
      .capture 1 Signature.something, .one (.char '\x7d'), .one Signature.blank,
      .capture 2 Signature.something] ("@param".toList ++ (gap ++ '\x7b' ::
        (typeName ++ '\x7d' :: space :: summary)))
      ⟨[typeName ++ '\x7d' :: space :: summary, '\x7d' :: space :: summary, summary, []], []⟩ := by
    refine firstWay_literal (firstWay_run ?_ (Nat.zero_le _) rfl (firstWay_one (by decide) closes))
    intro c mem
    rw [Signature.accepts_blank]
    exact List.all_eq_true.mp blank c mem
  have found := Node.firstWay?_of_head? opens
  have passed := Node.firstWay?_append_of_nil fun late filled suffix =>
    ways_front_eq_nil unopened filled suffix
      (gap ++ '\x7b' :: (typeName ++ '\x7d' :: space :: summary))
  have groups := groups_search? isPlain_defaultParamPattern (front ++ ("@param".toList ++
    (gap ++ '\x7b' :: (typeName ++ '\x7d' :: space :: summary))))
  have pair : (Way.mk [typeName ++ '\x7d' :: space :: summary, '\x7d' :: space :: summary,
      summary ++ [], []] []).groups = [typeName, summary] := Way.groups_pair typeName summary
  rw [List.append_nil] at pair
  rw [passed, show Settings.defaultParamPattern.root.firstWay? _ = _ from found, Option.map_some,
    pair] at groups
  rw [List.append_assoc]
  exact classify_of_groups groups

/-- A tag is found with its type. -/
theorem exists_classify_of_isTag (oneLine : '\n' ∉ segment) (tag : IsTag segment typeName) :
    ∃ summary, classify Settings.defaultParamPattern segment = .tag ⟨typeName, summary⟩ := by
  obtain ⟨front, gap, rest, rfl, blank, filled, ⟨space, summary, isSpace, long, rfl⟩, unopened,
    unclosed⟩ := tag
  exact ⟨summary, classify_of_parts oneLine blank filled isSpace long unopened unclosed⟩

/-! ## Segments without a tag -/

/-- A segment without a tag. -/
theorem classify_of_no_tag (untagged : ∀ typeName, ¬ IsTag segment typeName) :
    classify Settings.defaultParamPattern segment =
      if isDescription segment then .description (Text.trim segment) else .nothing := by
  have unfound : Settings.defaultParamPattern.search? segment = none := by
    cases searched : Settings.defaultParamPattern.search? segment with
    | none => rfl
    | some found =>
        obtain ⟨typeName, tag⟩ := exists_isTag_of_search? (Option.isSome_of_eq_some searched)
        exact absurd tag (untagged typeName)
  rw [classify, unfound]

/-- An annotation in plain terms: an at sign and a word character behind it. -/
def Annotated (segment : Text) : Prop :=
  ∃ before c after, isWord c ∧ segment = before ++ ['@', c] ++ after

theorem isSome_search?_annotationPattern_iff :
    (annotationPattern.search? segment).isSome ↔ Annotated segment := by
  rw [search?_eq isPlain_annotationPattern, Option.isSome_map, Node.isSome_firstWay?_iff]
  have blanks (text : Text) := ways_many_sequence Signature.blank 0
    [.one (.char '@'), .many .greedy 1 none Signature.wordChar] text
  have word (text : Text) := ways_many_sequence Signature.wordChar 1 [] text
  constructor
  · rintro ⟨start, ⟨front, rfl⟩, found⟩
    rw [show annotationPattern.root.ways start = _ from blanks start, Ne,
      List.flatMap_eq_nil_iff] at found
    simp only [Classical.not_forall, exists_prop, mem_runRests_iff] at found
    obtain ⟨behind, ⟨gap, rfl, -, -⟩, signed⟩ := found
    obtain ⟨sign, rest, rfl, isSign, named⟩ := exists_cons_of_ways_one signed
    obtain rfl : sign = '@' := by simpa [CharTest.accepts] using isSign
    rw [word, Ne, List.flatMap_eq_nil_iff] at named
    simp only [Classical.not_forall, exists_prop, mem_runRests_iff] at named
    obtain ⟨after, ⟨name, rfl, isName, filled⟩, -⟩ := named
    obtain ⟨c, more, rfl⟩ := List.exists_cons_of_ne_nil (List.length_pos_iff.mp filled)
    have first := isName c List.mem_cons_self
    rw [Signature.accepts_wordChar] at first
    exact ⟨front ++ gap, c, more ++ after, first, by simp⟩
  · rintro ⟨before, c, after, isWord, rfl⟩
    refine ⟨['@', c] ++ after, ⟨before, by simp⟩, ?_⟩
    have named : (Node.sequence [.many .greedy 1 none Signature.wordChar]).ways (c :: after) ≠
        [] := by
      have stops : after ∈ runRests Signature.wordChar 1 (c :: after) :=
        mem_runRests_iff.mpr ⟨[c], rfl, by simpa [Signature.accepts_wordChar] using isWord, by simp⟩
      rw [word, Ne, List.flatMap_eq_nil_iff]
      intro none
      exact List.cons_ne_nil _ _ (none after stops)
    intro none
    rw [show annotationPattern.root.ways _ = _ from blanks _, List.flatMap_eq_nil_iff] at none
    have signed := none _ (mem_runRests_zero _)
    rw [Node.ways_sequence_cons, andThen_eq_nil_iff] at signed
    exact named (signed ⟨[], c :: after⟩ List.mem_cons_self)

end DocAudit.DocBlock
