import DocAudit.Check
import DocAudit.Proofs.Signature.Documented

/-!
# Segments of well-formed blocks

A well-formed doc block has a line of description, a parameter tag or nothing behind the asterisk
of every inner line. Cut at its asterisks, such a block gives one segment for each inner line, with
the indent of the next line at its end, and a few segments that contribute nothing.
-/

namespace DocAudit

/-- The text of a description: not blank, and without the characters that end a line or mean
something else in a block. -/
structure Prose where
  text : Text
  visible : Text.allBlank text = false
  plain : ∀ c ∈ ['*', '/', '@', '\n', '\r'], c ∉ text

/-- The type or the description of a parameter tag. -/
structure TagText where
  text : Text
  nonempty : text ≠ []
  plain : ∀ c ∈ ['*', '\x7d', '\n', '\r'], c ∉ text

/-- What stands behind the asterisk of an inner line. -/
inductive BlockContent where
  | description (prose : Prose)
  | tag (typeName summary : TagText)
  | bare

/-- An inner line of a doc block. -/
structure BlockLine where
  indent : Indent
  content : BlockContent

namespace BlockContent

/-- The text behind the asterisk. -/
def text : BlockContent → Text
  | description prose => " " ++ prose.text
  | tag typeName summary => " @param \x7b" ++ typeName.text ++ "\x7d " ++ summary.text
  | bare => []

theorem text_description (prose : Prose) :
    (description prose).text = " ".toList ++ prose.text := rfl

theorem text_tag (typeName summary : TagText) : (tag typeName summary).text =
    " @param \x7b".toList ++ typeName.text ++ "\x7d ".toList ++ summary.text := rfl

theorem text_bare : bare.text = [] := rfl

/-- Whether a line is a line of description. -/
def isDescription : BlockContent → Bool
  | description _ => true
  | _ => false

/-- The type that a line documents, if it is a tag. -/
def typeName? : BlockContent → Option Text
  | tag typeName _ => some typeName.text
  | _ => none

end BlockContent

/-- The text of an inner line. -/
def BlockLine.text (line : BlockLine) : Text :=
  line.indent.text ++ '*' :: line.content.text

/-- Nothing behind an asterisk ends the line or the segment. -/
theorem BlockContent.not_mem_text (content : BlockContent) {c : Char}
    (excluded : c = '*' ∨ c = '\n' ∨ c = '\r') : c ∉ content.text := by
  have otherwise : c ∉ " @param \x7b\x7d".toList := by
    rcases excluded with rfl | rfl | rfl <;> decide
  cases content with
  | description prose =>
      have absent : c ∉ prose.text := prose.plain c (by grind)
      rw [text_description, List.mem_append, not_or]
      exact ⟨fun mem => otherwise (by simp_all), absent⟩
  | tag typeName summary =>
      have absentType : c ∉ typeName.text := typeName.plain c (by grind)
      have absentSummary : c ∉ summary.text := summary.plain c (by grind)
      simp only [text_tag, List.mem_append, not_or]
      exact ⟨⟨⟨fun mem => otherwise (by simp_all), absentType⟩, fun mem => otherwise (by simp_all)⟩,
        absentSummary⟩
  | bare => simp [text_bare]

namespace DocBlock

open Pattern

theorem isPlain_defaultParamPattern : Settings.defaultParamPattern.IsPlain :=
  ⟨by decide, rfl, rfl⟩

theorem isPlain_annotationPattern : annotationPattern.IsPlain :=
  ⟨by decide, rfl, rfl⟩

/-- A plain pattern has no groups that end before they begin. -/
theorem isTangled_of_isPlain {pattern : Pattern} (plain : pattern.IsPlain) (block : Text) :
    isTangled pattern block = false := by
  rw [isTangled, List.any_eq_false]
  intro segment _
  cases searched : pattern.search? segment with
  | none => simp
  | some found => simp [isOrdered_of_search? plain searched]

theorem isTangled_defaultParamPattern (block : Text) :
    isTangled Settings.defaultParamPattern block = false :=
  isTangled_of_isPlain isPlain_defaultParamPattern block

/-- Neither a parameter tag nor an annotation is found without an at sign. -/
theorem classify_of_not_mem {segment : Text} (absent : '@' ∉ segment) :
    classify Settings.defaultParamPattern segment =
      if !segment.contains '/' && !Text.allBlank segment then .description (Text.trim segment)
      else .nothing := by
  have noTag := search?_eq_none_of_needs isPlain_defaultParamPattern (.char '@') (by decide)
    fun c mem => Signature.accepts_char_eq_false absent mem
  have noAnnotation := search?_eq_none_of_needs isPlain_annotationPattern (.char '@') (by decide)
    fun c mem => Signature.accepts_char_eq_false absent mem
  simp [classify, noTag, isDescription, noAnnotation]

/-- A segment with a match is the tag that the groups of the match make. -/
theorem classify_of_groups {pattern : Pattern} {segment : Text} {groups : List (Option Text)}
    (searched : (pattern.search? segment).map (Match.groups segment) = some groups) :
    classify pattern segment = tagOf groups := by
  obtain ⟨found, first, rfl⟩ := Option.map_eq_some_iff.mp searched
  rw [classify, first]

section

variable (typeName : TagText) {rest : Text} (nonempty : rest ≠ []) (oneLine : '\n' ∉ rest)
  (closed : '\x7d' ∉ rest)

include nonempty oneLine closed

/-- The type of a tag reaches to the only closing brace, and its description to the end. -/
theorem firstWay_braced :
    FirstWay [.capture 1 Signature.something, .one (.char '\x7d'), .one Signature.blank,
      .capture 2 Signature.something] (typeName.text ++ '\x7d' :: ' ' :: rest)
      ⟨[typeName.text ++ '\x7d' :: ' ' :: rest, '\x7d' :: ' ' :: rest, rest ++ [], []], []⟩ := by
  have last : FirstWay [.capture 2 Signature.something] (rest ++ []) ⟨[rest ++ [], []], []⟩ :=
    firstWay_capture_run (fun c mem => Signature.accepts_notNewline oneLine mem)
      (List.length_pos_iff.mpr nonempty) rfl (firstWay_nil [])
  rw [List.append_nil] at last ⊢
  have unclosed : '\x7d' ∉ ' ' :: rest := by simp [closed]
  refine firstWay_capture_back (fun c mem => ?_) (List.length_pos_iff.mpr typeName.nonempty)
    (fun other suffix => ?_) (firstWay_one (by decide) (firstWay_one (by decide) last))
  · exact Signature.accepts_notNewline (typeName.plain '\n' (by simp)) mem
  · exact Node.ways_eq_nil_of_needs (.char '\x7d') (by decide) fun c mem =>
      Signature.accepts_char_eq_false unclosed (suffix.subset mem)

/-- The first way of the pattern for tags from the at sign on. -/
theorem firstWay_param :
    (Settings.defaultParamPattern.root.ways ("@param".toList ++ (" ".toList ++
      '\x7b' :: (typeName.text ++ '\x7d' :: ' ' :: rest)))).head? =
      some ⟨[typeName.text ++ '\x7d' :: ' ' :: rest, '\x7d' :: ' ' :: rest, rest ++ [], []],
        []⟩ := by
  refine firstWay_literal (firstWay_run (fun c mem => ?_) (Nat.zero_le _) rfl
    (firstWay_one (by decide) (firstWay_braced typeName nonempty oneLine closed)))
  obtain rfl : c = ' ' := by simpa using mem
  rfl

/-- A parameter tag is found, with its type and with all that follows the closing brace. -/
theorem classify_tag :
    classify Settings.defaultParamPattern
      (" @param \x7b".toList ++ typeName.text ++ "\x7d ".toList ++ rest) =
      .tag ⟨typeName.text, rest⟩ := by
  have shape : " @param \x7b".toList ++ typeName.text ++ "\x7d ".toList ++ rest = ' ' ::
      ("@param".toList ++ (" ".toList ++ '\x7b' :: (typeName.text ++ '\x7d' :: ' ' :: rest))) := by
    simp
  have spaced : Settings.defaultParamPattern.root.ways (' ' :: ("@param".toList ++
      (" ".toList ++ '\x7b' :: (typeName.text ++ '\x7d' :: ' ' :: rest)))) = [] :=
    Node.ways_sequence_literal_eq_nil (by decide) "param".toList _ _
  have found := Node.firstWay?_of_head? (firstWay_param typeName nonempty oneLine closed)
  have groups := groups_search? isPlain_defaultParamPattern
    (" @param \x7b".toList ++ typeName.text ++ "\x7d ".toList ++ rest)
  rw [shape, Node.firstWay?_cons_of_nil spaced, found, Option.map_some, Way.groups_pair,
    ← shape] at groups
  exact classify_of_groups groups

end

/-- What a segment contributes that begins behind an asterisk and ends with the next indent. -/
def contribution (content : BlockContent) (after : Indent) : Segment :=
  match content with
  | .description _ => .description (Text.trim (content.text ++ after.text))
  | .tag typeName summary => .tag ⟨typeName.text, summary.text ++ after.text⟩
  | .bare => .nothing

theorem classify_indent (indent : Indent) :
    classify Settings.defaultParamPattern indent.text = .nothing := by
  rw [classify_of_not_mem (indent.not_mem (by decide)), indent.allBlank]
  simp

/-- The segment of an inner line contributes what the line says. -/
theorem classify_content (content : BlockContent) (after : Indent) :
    classify Settings.defaultParamPattern (content.text ++ after.text) =
      contribution content after := by
  cases content with
  | description prose =>
      have absent (c : Char) (excluded : c = '/' ∨ c = '@') :
          c ∉ " ".toList ++ prose.text ++ after.text := by
        have elsewhere : c ∉ " ".toList ∧ ¬ (c = ' ' ∨ c = '\t') := by
          rcases excluded with rfl | rfl <;> decide
        simp only [List.mem_append, not_or]
        exact ⟨⟨elsewhere.1, prose.plain c (by grind)⟩, after.not_mem elsewhere.2⟩
      have noSlash : (" ".toList ++ prose.text ++ after.text).contains '/' = false := by
        rw [List.contains_eq_mem, decide_eq_false (absent '/' (by simp))]
      rw [contribution, BlockContent.text_description, classify_of_not_mem (absent '@' (by simp)),
        noSlash, Text.allBlank_append, Text.allBlank_append, prose.visible, Bool.and_false,
        Bool.false_and]
      rfl
  | tag typeName summary =>
      rw [BlockContent.text_tag, List.append_assoc]
      refine classify_tag typeName (by simp [summary.nonempty]) ?_ ?_
      · rw [List.mem_append, not_or]
        exact ⟨summary.plain '\n' (by simp), after.not_mem (by decide)⟩
      · rw [List.mem_append, not_or]
        exact ⟨summary.plain '\x7d' (by simp), after.not_mem (by decide)⟩
  | bare => exact classify_indent after

/-- The indent in front of the next asterisk. -/
def nextIndent (closer : Indent) : List BlockLine → Indent
  | [] => closer
  | line :: _ => line.indent

/-- The inner lines of a block and its closing line. -/
def bodyText (closer : Indent) (body : List BlockLine) : Text :=
  body.flatMap BlockLine.text ++ closer.text ++ "*/"

/-- What follows the asterisks of the inner lines and of the closing line. -/
def pieces (closer : Indent) : List BlockLine → List Text
  | [] => ["/"]
  | line :: body => (line.content.text ++ (nextIndent closer body).text) :: pieces closer body

/-- The cuts of a body: each line gives its remainder to the segment of the line before. -/
theorem splitOn_bodyText (closer : Indent) (body : List BlockLine) {lead : Text}
    (absent : '*' ∉ lead) :
    Text.splitOn '*' (lead ++ bodyText closer body) =
      (lead ++ (nextIndent closer body).text) :: pieces closer body := by
  induction body generalizing lead with
  | nil =>
      have shape : lead ++ bodyText closer [] = (lead ++ closer.text) ++ '*' :: "/".toList := by
        unfold bodyText
        simp
      have starless : '*' ∉ lead ++ closer.text := by
        simp [absent, closer.not_mem]
      rw [shape, Text.splitOn_append_cons starless]
      rfl
  | cons line body ih =>
      have shape : lead ++ bodyText closer (line :: body) =
          (lead ++ line.indent.text) ++ '*' :: (line.content.text ++ bodyText closer body) := by
        unfold bodyText
        simp [BlockLine.text]
      have starless : '*' ∉ lead ++ line.indent.text := by
        simp [absent, line.indent.not_mem]
      rw [shape, Text.splitOn_append_cons starless, ih (line.content.not_mem_text (.inl rfl))]
      rfl

/-- The text of a whole block. -/
def blockText (opener : Indent) (body : List BlockLine) (closer : Indent) : Text :=
  opener.text ++ "/**" ++ bodyText closer body

/-- What the segments of an opening or closing mark contribute. -/
theorem classify_slash (indent : Indent) :
    classify Settings.defaultParamPattern (indent.text ++ "/".toList) = .nothing := by
  have absent : '@' ∉ indent.text ++ "/".toList := by
    rw [List.mem_append, not_or]
    exact ⟨indent.not_mem (by decide), by decide⟩
  rw [classify_of_not_mem absent]
  simp

/-- The segments of a block: three that contribute nothing, and what follows the asterisks of the
other lines. -/
theorem segments_blockText (opener : Indent) (body : List BlockLine) (closer : Indent) :
    segments Settings.defaultParamPattern (blockText opener body closer) =
      [.nothing, .nothing, .nothing] ++
        (pieces closer body).map (classify Settings.defaultParamPattern) := by
  have shape : blockText opener body closer =
      (opener.text ++ "/".toList) ++ '*' :: ([] ++ '*' :: ([] ++ bodyText closer body)) := by
    unfold blockText
    simp
  have starless : '*' ∉ opener.text ++ "/".toList := by
    rw [List.mem_append, not_or]
    exact ⟨opener.not_mem (by decide), by decide⟩
  rw [segments, shape, Text.splitOn_append_cons starless, Text.splitOn_append_cons List.not_mem_nil,
    splitOn_bodyText closer body List.not_mem_nil]
  simp only [List.map_cons, classify_slash, List.nil_append, classify_indent, List.cons_append]
  rw [show classify Settings.defaultParamPattern [] = .nothing from classify_indent ⟨[], by simp⟩]

/-- What is read off the segments of a block is what its inner lines say, as long as nothing is read
off a segment that contributes nothing. -/
theorem filterMap_segments_blockText {α : Type} {read : Segment → Option α}
    (said : BlockContent → Option α) (opener : Indent) (body : List BlockLine) (closer : Indent)
    (silent : read .nothing = none)
    (same : ∀ content after, read (contribution content after) = said content) :
    (segments Settings.defaultParamPattern (blockText opener body closer)).filterMap read =
      body.filterMap fun line => said line.content := by
  have inner : ((pieces closer body).map (classify Settings.defaultParamPattern)).filterMap read =
      body.filterMap fun line => said line.content := by
    induction body with
    | nil =>
        have last : classify Settings.defaultParamPattern "/".toList = .nothing :=
          classify_slash ⟨[], by simp⟩
        rw [pieces, List.map_singleton, last, List.filterMap_cons_none silent, List.filterMap_nil,
          List.filterMap_nil]
    | cons line body ih =>
        rw [pieces, List.map_cons, classify_content, List.filterMap_cons, same, ih,
          List.filterMap_cons]
  simpa [segments_blockText, silent] using inner

/-- The tags of a block have the types of its tag lines, in order. -/
theorem map_typeName_extract (opener : Indent) (body : List BlockLine) (closer : Indent)
    (parameters : Text) :
    (extract Settings.defaultParamPattern (blockText opener body closer) parameters).tags.map
      ParamTag.typeName = body.filterMap fun line => line.content.typeName? := by
  rw [extract, List.map_filterMap]
  refine filterMap_segments_blockText BlockContent.typeName? opener body closer rfl ?_
  intro content after
  cases content <;> rfl

/-- Each line of description counts once. -/
theorem length_description_extract (opener : Indent) (body : List BlockLine) (closer : Indent)
    (parameters : Text) :
    (extract Settings.defaultParamPattern (blockText opener body closer)
      parameters).description.length = body.countP fun line => line.content.isDescription := by
  have counted : ((segments Settings.defaultParamPattern (blockText opener body closer)).filterMap
      fun segment => segment.description?.map fun _ => ()) =
      body.filterMap fun line => Option.guard (fun _ => line.content.isDescription) () := by
    refine filterMap_segments_blockText
      (fun content => Option.guard (fun _ => content.isDescription) ())
      opener body closer rfl ?_
    intro content after
    cases content <;> rfl
  have lengths := congrArg List.length counted
  rw [← List.map_filterMap, List.length_map, List.length_filterMap_eq_countP (l := body)] at lengths
  simpa [extract] using lengths

/-! ## Parameters -/

/-- Words as the parameters of a signature. -/
def parameterText (words : List Word) : Text :=
  Text.joinWith ", " (words.map Word.text)

/-- Apart from commas and spaces there are only word characters between the parentheses. -/
theorem not_mem_parameterText {c : Char} (words : List Word) (other : Text.isWord c = false)
    (distinct : c ∉ ", ".toList) : c ∉ parameterText words := by
  intro mem
  rcases Text.mem_of_mem_joinWith mem with between | ⟨piece, memPiece, inside⟩
  · exact distinct between
  · obtain ⟨word, -, rfl⟩ := List.mem_map.mp memPiece
    exact word.not_mem other inside

/-- The parameters of a signature begin with the first word, also after a space is removed. -/
theorem exists_eraseFirst_parameterText (word : Word) (words : List Word) :
    ∃ c rest, Text.isWord c ∧ Text.eraseFirst ' ' (parameterText (word :: words)) = c :: rest := by
  obtain ⟨c, tail, cons⟩ := List.exists_cons_of_ne_nil word.nonempty
  have isWord : Text.isWord c := word.wordChars c (by simp [cons])
  have shape : ∃ rest, parameterText (word :: words) = c :: rest := by
    cases words with
    | nil => exact ⟨tail, cons⟩
    | cons second others =>
        refine ⟨tail ++ ", ".toList ++ parameterText (second :: others), ?_⟩
        rw [parameterText, List.map_cons, List.map_cons, Text.joinWith, cons]
        · rfl
        · simp
  obtain ⟨rest, shape⟩ := shape
  refine ⟨c, Text.eraseFirst ' ' rest, isWord, ?_⟩
  rw [shape, Text.eraseFirst, if_neg (Text.ne_of_isWord isWord (by decide))]

/-- A signature with parameters is told from one without. -/
theorem declaresNone_splitArguments (words : List Word) :
    declaresNone (splitArguments (parameterText words)) = words.isEmpty := by
  cases words with
  | nil => rfl
  | cons word words =>
      obtain ⟨c, rest, isWord, erased⟩ := exists_eraseFirst_parameterText word words
      have distinct : c ≠ ',' := Text.ne_of_isWord isWord (by decide)
      obtain ⟨piece, pieces, cut⟩ := Text.exists_splitOn_cons distinct rest
      rw [declaresNone, splitArguments, erased, cut]
      simp

/-- There are as many parameters as words. -/
theorem length_splitArguments (word : Word) (words : List Word) :
    (splitArguments (parameterText (word :: words))).length = (word :: words).length := by
  have absent : ∀ piece ∈ (word :: words).map Word.text, ',' ∉ piece := by
    intro piece mem
    obtain ⟨other, -, rfl⟩ := List.mem_map.mp mem
    exact other.not_mem (by decide)
  rw [splitArguments, Text.length_splitOn, Text.count_eraseFirst (by decide), parameterText,
    Text.count_joinWith (by decide) absent]
  simp

end DocBlock

end DocAudit
