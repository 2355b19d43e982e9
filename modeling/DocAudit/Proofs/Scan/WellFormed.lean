import DocAudit.Proofs.DocBlock.Segments
import DocAudit.Proofs.Scan.Specification

/-!
# Scanning a well-formed documented function

A doc block that is laid out as expected, followed by the declaration of a function, gets exactly
the findings that its counts and types deserve. All of them stand on the line of the declaration.
-/

namespace DocAudit

/-- The two ways to declare a function behind a doc block. -/
inductive DeclarationForm where
  | member
  | variableAssignment

/-- A doc block and the declaration behind it, in parts that can be put together freely. -/
structure DocumentedFunction where
  opener : Margin
  body : List BlockLine
  closer : Margin
  margin : Margin
  form : DeclarationForm
  name : Word
  parameters : List Word

namespace DocumentedFunction

/-- The line of the declaration. -/
def signatureLine (function : DocumentedFunction) : Text :=
  match function.form with
  | .member =>
    function.margin.text ++ function.name.text ++ ": function(" ++
      DocBlock.parameterText function.parameters ++ ") \x7b"
  | .variableAssignment =>
    function.margin.text ++ "var " ++ function.name.text ++ " = function(" ++
      DocBlock.parameterText function.parameters ++ ") \x7b"

/-- The lines of the doc block and of the declaration. -/
def lines (function : DocumentedFunction) : List Text :=
  (function.opener.text ++ "/**") :: (function.body.map BlockLine.text ++
    [function.closer.text ++ "*/", function.signatureLine])

/-- The lines as one text, with a line feed at the end or without. -/
def text (function : DocumentedFunction) (terminated : Bool) : Text :=
  Text.joinWith ['\n'] function.lines ++ if terminated then ['\n'] else []

/-- The number of lines of description. -/
def descriptionCount (function : DocumentedFunction) : Nat :=
  function.body.countP fun line => line.content.isDescription

/-- The documented types, from the first tag to the last. -/
def tagTypes (function : DocumentedFunction) : List Text :=
  function.body.filterMap fun line => line.content.typeName?

/-- The place of the declaration among the lines. -/
def signatureIndex (function : DocumentedFunction) : Nat :=
  function.body.length + 2

/-- A finding on the declared function. -/
def report (function : DocumentedFunction) (severity : Severity) (message : Text) : Finding :=
  ⟨severity, message, function.signatureIndex, function.name.text⟩

/-- The findings that the counts and the types of a documented function deserve. -/
def deserved (function : DocumentedFunction) (settings : Settings) : List Finding :=
  let documented := function.tagTypes.length
  let actual := function.parameters.length
  let accepted : List Text :=
    ["Boolean", "Null", "Undefined", "Number", "String", "Symbol", "Object", "Array", "Function"]
  (if settings.shortDocWarnings ∧ function.descriptionCount = 1 then
    [function.report .warning "Code doc only contains one line of description"]
  else []) ++
  (if 1 ≤ actual ∧ documented ≠ actual then
    [function.report .error
      ("Documented arguments don't match method signature, " ++ Text.ofNat documented ++
        " documented, " ++ Text.ofNat actual ++ " actual")]
  else []) ++
  (if settings.strictTypes then
    (function.tagTypes.filter (· ∉ accepted)).map fun typeName =>
      function.report .warning ("Documented argument is not a valid type ( " ++ typeName ++ " )")
  else [])

end DocumentedFunction

namespace Scan

variable {settings : Settings} {index : Nat} {block : Text}

theorem opensBlock_opener (margin : Margin) : opensBlock (margin.text ++ "/**".toList) :=
  opensBlock_iff.mpr ⟨margin.text, [], margin.nonempty, margin.allBlank, rfl, by simp⟩

theorem closesBlock_closer (margin : Margin) : closesBlock (margin.text ++ "*/".toList) :=
  closesBlock_iff.mpr ⟨margin.text, [], margin.nonempty, margin.allBlank, rfl, by simp⟩

/-- Nothing is declared on a line that starts with an asterisk or with the opening mark. -/
theorem undocumented_of_isComment {line : Text} (comment : Signature.isComment line) :
    undocumented index line = [] := by
  rw [undocumented, Signature.declared?, Signature.find?, if_pos comment]

section

variable (line : BlockLine)

theorem trimStart_blockLine : Text.trimStart line.text = '*' :: line.content.text := by
  rw [BlockLine.text, Text.trimStart_append_of_allBlank line.indent.allBlank,
    Text.trimStart_cons_of_not_isBlank (by decide)]

theorem isComment_blockLine : Signature.isComment line.text := by
  rw [Signature.isComment, trimStart_blockLine]
  simp [Text.startsWith]

theorem not_opensBlock_blockLine : ¬ opensBlock line.text := by
  rw [opensBlock, isMark, trimStart_blockLine]
  simp [Text.startsWith]

/-- No slash follows the asterisk of an inner line. -/
theorem not_closesBlock_blockLine : ¬ closesBlock line.text := by
  have spaced : Text.startsWith line.content.text ['/'] = false := by
    cases line.content <;> rfl
  rw [closesBlock, isMark, trimStart_blockLine]
  simp [Text.startsWith, spaced]

end

/-- Inner lines are added to the block and give no findings. -/
theorem findingsFrom_body (settings : Settings) (block : Text) (index : Nat)
    (body : List BlockLine) (rest : List Text) :
    findingsFrom settings (some block) index (body.map BlockLine.text ++ rest) =
      findingsFrom settings (some (block ++ body.flatMap BlockLine.text)) (index + body.length)
        rest := by
  induction body generalizing block index with
  | nil => simp
  | cons line body ih =>
      have step : blockAfter (some block) line.text = some (block ++ line.text) := by
        rw [blockAfter, if_neg (not_opensBlock_blockLine line), Option.map_some]
      rw [List.map_cons, List.cons_append, findingsFrom_eq_walk,
        walk_cons_of_not_closesBlock _ _ (not_closesBlock_blockLine line),
        undocumented_of_isComment (isComment_blockLine line), step, List.nil_append,
        ← findingsFrom_eq_walk, ih, List.flatMap_cons, List.append_assoc, List.length_cons]
      congr 1
      omega

theorem findingsFrom_closing {line : Text} (marked : closesBlock line) (next : Text)
    (rest : List Text) :
    findingsFrom settings (some block) index (line :: next :: rest) =
      documented settings (block ++ line) (index + 1) next ++
        findingsFrom settings none (index + 1 + 1) rest := by
  simp [findingsFrom, marked]

section

variable (function : DocumentedFunction)

/-- The declaration is recognised, in either form. -/
theorem exists_documented?_signatureLine : ∃ kind,
    Signature.documented? function.signatureLine =
      some ⟨function.name.text, DocBlock.parameterText function.parameters, kind⟩ := by
  have absent (c : Char) (other : Text.isWord c = false) (distinct : c ∉ ", ".toList) :=
    DocBlock.not_mem_parameterText function.parameters other distinct
  cases form : function.form with
  | member =>
      have shape : function.signatureLine = function.margin.text ++ (function.name.text ++
          ':' :: Signature.functionText (DocBlock.parameterText function.parameters)) := by
        rw [DocumentedFunction.signatureLine, form, Signature.functionText_eq]
        simp
      rw [shape]
      exact ⟨_, Signature.documented?_member function.margin function.name
        (absent '\n' (by decide) (by decide))⟩
  | variableAssignment =>
      have shape : function.signatureLine = function.margin.text ++ ("var ".toList ++
          ((function.name.text ++ " ".toList) ++
            '=' :: Signature.functionText (DocBlock.parameterText function.parameters))) := by
        rw [DocumentedFunction.signatureLine, form, Signature.functionText_eq]
        simp
      rw [shape]
      exact ⟨_, Signature.documented?_var function.margin function.name
        (absent '\n' (by decide) (by decide)) (absent '=' (by decide) (by decide))
        (absent ':' (by decide) (by decide))⟩

/-- The whole block documents the declaration. -/
theorem findingsFrom_lines (rest : List Text) :
    findingsFrom settings none 0 (function.lines ++ rest) =
      documented settings (DocBlock.blockText function.opener.toIndent function.body
        function.closer.toIndent) function.signatureIndex function.signatureLine ++
        findingsFrom settings none (function.signatureIndex + 1) rest := by
  have comment : Signature.isComment (function.opener.text ++ "/**".toList) := by
    rw [Signature.isComment, Text.trimStart_append_of_allBlank function.opener.allBlank]
    rfl
  have opened : blockAfter none (function.opener.text ++ "/**".toList) =
      some (function.opener.text ++ "/**".toList) := by
    rw [blockAfter, if_pos (opensBlock_opener function.opener)]
  have whole : DocBlock.blockText function.opener.toIndent function.body function.closer.toIndent =
      function.opener.text ++ "/**".toList ++ function.body.flatMap BlockLine.text ++
        (function.closer.text ++ "*/".toList) := by
    unfold DocBlock.blockText DocBlock.bodyText
    simp
  have place : 0 + 1 + function.body.length + 1 = function.signatureIndex := by
    rw [DocumentedFunction.signatureIndex]
    omega
  rw [DocumentedFunction.lines, List.cons_append, findingsFrom, undocumented_of_isComment comment,
    opened, List.nil_append, List.append_assoc, findingsFrom_body, List.cons_append,
    List.singleton_append, findingsFrom_closing (closesBlock_closer function.closer), ← whole,
    place]

/-- No line holds a line feed or a carriage return. -/
theorem not_mem_of_mem_lines {line : Text} (mem : line ∈ function.lines) {c : Char}
    (ending : c = '\n' ∨ c = '\r') : c ∉ line := by
  have notIndent : ¬ (c = ' ' ∨ c = '\t') := by rcases ending with rfl | rfl <;> decide
  have notWord : Text.isWord c = false := by rcases ending with rfl | rfl <;> decide
  have elsewhere : c ∉ "/** var : = function(, ) \x7b".toList := by
    rcases ending with rfl | rfl <;> decide
  simp only [DocumentedFunction.lines, List.mem_cons, List.mem_append, List.mem_map,
    List.not_mem_nil, or_false] at mem
  rcases mem with rfl | ⟨inner, -, rfl⟩ | rfl | rfl
  · have := function.opener.not_mem notIndent
    simp_all
  · have := inner.indent.not_mem notIndent
    have := inner.content.not_mem_text (.inr ending)
    simp_all [BlockLine.text]
  · have := function.closer.not_mem notIndent
    simp_all
  · have := function.margin.not_mem notIndent
    have := function.name.not_mem notWord
    have := DocBlock.not_mem_parameterText function.parameters notWord (by simp_all)
    cases form : function.form <;> simp_all [DocumentedFunction.signatureLine]

/-- Scanning the text sees the lines, and behind a final line feed one more that is empty. -/
theorem sourceLines_text (terminated : Bool) : sourceLines (function.text terminated) =
    function.lines ++ if terminated then [[]] else [] := by
  have filled : function.lines ≠ [] := List.cons_ne_nil _ _
  have joined : function.text terminated =
      Text.joinWith ['\n'] (function.lines ++ if terminated then [[]] else []) := by
    cases terminated with
    | false => simp [DocumentedFunction.text]
    | true => rw [if_pos rfl, Text.joinWith_append_nil filled, DocumentedFunction.text, if_pos rfl]
  have free (line : Text) (mem : line ∈ function.lines ++ if terminated then [[]] else [])
      (c : Char) (ending : c = '\n' ∨ c = '\r') : c ∉ line := by
    rcases List.mem_append.mp mem with mem | mem
    · exact not_mem_of_mem_lines function mem ending
    · obtain ⟨-, rfl⟩ : terminated ∧ line = [] := by simpa using mem
      exact List.not_mem_nil
  have kept : ∀ line ∈ function.lines ++ (if terminated then [[]] else []),
      Text.dropEndWhile (· == '\r') line = line := by
    intro line mem
    refine Text.dropEndWhile_eq_self fun c inside => ?_
    have other : c ≠ '\r' := fun equal => free line mem '\r' (.inr rfl) (equal ▸ inside)
    simpa using other
  rw [sourceLines, joined, Text.splitOn_joinWith (by simp [filled])
    fun line mem => free line mem '\n' (.inl rfl), List.map_congr_left kept, List.map_id']

theorem undocumented_nil : undocumented index [] = [] := by
  have nothing : Signature.assignmentPattern.search? [] = none :=
    Pattern.search?_eq_none_of_needs ⟨by decide, rfl, rfl⟩ (.char '(') (by decide) (by simp)
  simp [undocumented, Signature.declared?, Signature.find?, nothing]

/-- One line of description is reported if that is asked for. -/
theorem shortDescription_eq {doc : MethodDoc} (settings : Settings)
    (descriptions : doc.description.length = function.descriptionCount) :
    (if settings.shortDocWarnings then
      Check.shortDescription doc function.signatureIndex function.name.text else []) =
      if settings.shortDocWarnings ∧ function.descriptionCount = 1 then
        [function.report .warning Check.shortDescriptionMessage]
      else [] := by
  rw [Check.shortDescription, descriptions, ite_and]
  rfl

/-- Tags are compared with the parameters, unless there are none. -/
theorem argumentCount_eq {doc : MethodDoc}
    (tags : doc.tags.map ParamTag.typeName = function.tagTypes)
    (arguments : doc.arguments =
      DocBlock.splitArguments (DocBlock.parameterText function.parameters)) :
    Check.argumentCount doc function.signatureIndex function.name.text =
      if 1 ≤ function.parameters.length ∧
          function.tagTypes.length ≠ function.parameters.length then
        [function.report .error
          (Check.countMessage function.tagTypes.length function.parameters.length)]
      else [] := by
  have documented : doc.tags.length = function.tagTypes.length := by rw [← tags, List.length_map]
  rw [Check.argumentCount, documented, arguments, DocBlock.declaresNone_splitArguments]
  cases words : function.parameters with
  | nil => simp
  | cons word words =>
      rw [DocBlock.length_splitArguments, DocumentedFunction.report]
      simp

/-- Each tag with a type that is not accepted is reported once. -/
theorem invalidTypes_eq {doc : MethodDoc}
    (tags : doc.tags.map ParamTag.typeName = function.tagTypes) :
    Check.invalidTypes doc function.signatureIndex function.name.text =
      (function.tagTypes.filter (· ∉ Check.validTypes)).map fun typeName =>
        function.report .warning (Check.invalidTypeMessage typeName) := by
  rw [Check.invalidTypes, ← tags, List.filter_map, List.map_map]
  congr 2
  funext tag
  simp

/-- The check of the whole block gives what the function deserves. -/
theorem method_extract (settings : Settings) :
    Check.method settings (DocBlock.extract Settings.defaultParamPattern
      (DocBlock.blockText function.opener.toIndent function.body function.closer.toIndent)
      (DocBlock.parameterText function.parameters)) function.signatureIndex function.name.text =
      function.deserved settings := by
  have descriptions := DocBlock.length_description_extract function.opener.toIndent function.body
    function.closer.toIndent (DocBlock.parameterText function.parameters)
  have tags := DocBlock.map_typeName_extract function.opener.toIndent function.body
    function.closer.toIndent (DocBlock.parameterText function.parameters)
  rw [Check.method, shortDescription_eq function settings descriptions,
    argumentCount_eq function tags rfl, invalidTypes_eq function tags]
  rfl

/-- A well-formed documented function gets exactly the findings that it deserves: a warning for one
line of description, an error for a number of tags other than the number of parameters, and a
warning for each type that is not accepted. -/
theorem findings_of_documentedFunction (settings : Settings) (terminated : Bool) :
    let usual := { settings with paramPattern := Settings.defaultParamPattern }
    isTangled usual (function.text terminated) = false ∧
      findings usual (function.text terminated) = function.deserved settings := by
  intro usual
  constructor
  · rw [isTangled, List.any_eq_false]
    intro block _
    rw [DocBlock.isTangled_defaultParamPattern]
    exact Bool.false_ne_true
  · obtain ⟨kind, found⟩ := exists_documented?_signatureLine function
    have silent : findingsFrom usual none (function.signatureIndex + 1)
        (if terminated then [[]] else []) = [] := by
      cases terminated <;> simp [findingsFrom, undocumented_nil]
    rw [findings, sourceLines_text, findingsFrom_lines, silent, List.append_nil, documented, found]
    exact method_extract function usual

end

/-- One line of description, two tags for three parameters, one of them with a type that is not
accepted. -/
example :
    let function : DocumentedFunction :=
      { opener := ⟨⟨" ".toList, by simp⟩, by decide⟩
        body := [⟨⟨"\t".toList, by simp⟩, .description ⟨"Adds.".toList, by decide, by simp⟩⟩,
          ⟨⟨[], by simp⟩,
            .tag ⟨"Int".toList, by decide, by simp⟩ ⟨"a".toList, by decide, by simp⟩⟩,
          ⟨⟨" ".toList, by simp⟩,
            .tag ⟨"Number".toList, by decide, by simp⟩ ⟨"b".toList, by decide, by simp⟩⟩]
        closer := ⟨⟨" ".toList, by simp⟩, by decide⟩
        margin := ⟨⟨"  ".toList, by simp⟩, by decide⟩
        form := .member
        name := ⟨"add".toList, by decide, List.all_eq_true.mp (by decide)⟩
        parameters := [⟨"a".toList, by decide, List.all_eq_true.mp (by decide)⟩,
          ⟨"b".toList, by decide, List.all_eq_true.mp (by decide)⟩,
          ⟨"c".toList, by decide, List.all_eq_true.mp (by decide)⟩] }
    function.text true =
        (" /**\n\t* Adds.\n* @param \x7bInt\x7d a\n * @param \x7bNumber\x7d b\n */\n" ++
          "  add: function(a, b, c) \x7b\n").toList ∧
      function.deserved { Settings.default with shortDocWarnings := true, strictTypes := true } =
        [⟨.warning, "Code doc only contains one line of description", 5, "add"⟩,
          ⟨.error, "Documented arguments don't match method signature, 2 documented, 3 actual", 5,
            "add"⟩,
          ⟨.warning, "Documented argument is not a valid type ( Int )", 5, "add"⟩] := by
  decide

end Scan

end DocAudit
