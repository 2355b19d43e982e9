import DocAudit.Proofs.Report.XmlReport
import DocAudit.Proofs.Scan.Provenance
import DocAudit.Proofs.Scan.Reports

/-!
# The characters of XML reports

XML allows most characters in a document, but not the control characters other than tab, line feed
and carriage return, and not the last two codes of the first plane. A report escapes markup and
nothing else. It is therefore a legal document exactly if its texts hold legal characters only, and
of a scan these texts are the names of methods and the rejected types, which are copied from the
sources as they are.
-/

namespace DocAudit

namespace Element

/-- Whether a character may stand in a document. -/
def isChar (c : Char) : Bool :=
  let code := c.toNat
  code == 0x9 || code == 0xA || code == 0xD || (0x20 ≤ code && code ≤ 0xD7FF) ||
    (0xE000 ≤ code && code ≤ 0xFFFD) || (0x10000 ≤ code && code ≤ 0x10FFFF)

/-- Printable ASCII characters may stand in a document. -/
theorem isChar_of_printable {c : Char} (lower : 32 ≤ c.toNat) (upper : c.toNat < 127) :
    isChar c := by
  simp only [isChar, Bool.or_eq_true, Bool.and_eq_true, beq_iff_eq, decide_eq_true_eq]
  omega

theorem isChar_of_isNameChar {c : Char} (plain : isNameChar c) : isChar c := by
  have classes : (c.isUpper || c.isLower || c.isDigit) = true := plain
  rw [Bool.or_eq_true, Bool.or_eq_true] at classes
  rcases classes with (upper | lower) | digit
  · have bounds : 65 ≤ c.toNat ∧ c.toNat ≤ 90 := of_decide_eq_true upper
    exact isChar_of_printable (by omega) (by omega)
  · obtain ⟨least, most⟩ := Bool.and_eq_true_iff.mp lower
    have bounds : 97 ≤ c.toNat ∧ c.toNat ≤ 122 :=
      ⟨of_decide_eq_true least, of_decide_eq_true most⟩
    exact isChar_of_printable (by omega) (by omega)
  · obtain ⟨least, most⟩ := Bool.and_eq_true_iff.mp digit
    have bounds : 48 ≤ c.toNat ∧ c.toNat ≤ 57 := ⟨of_decide_eq_true least, of_decide_eq_true most⟩
    exact isChar_of_printable (by omega) (by omega)

/-- The characters of tags. -/
theorem isChar_markup : isChar '<' ∧ isChar '>' ∧ isChar '/' ∧ isChar ' ' ∧ isChar '=' ∧
    isChar '"' := by
  decide

variable {name content : Text} {attributes : List (Text × Text)}

theorem IsName.all_isChar (named : IsName name) : name.all isChar := by
  rw [List.all_eq_true]
  intro c mem
  exact isChar_of_isNameChar (named.plain c mem)

theorem all_isChar_newLine (level : Nat) : (newLine level).all isChar := by
  rw [List.all_eq_true]
  intro c mem
  rcases List.mem_cons.mp mem with rfl | mem
  · rfl
  · rw [List.eq_of_mem_replicate mem]
    rfl

/-- Escaping neither adds nor removes characters that may not stand in a document. -/
theorem all_isChar_escaped (text : Text) : (escaped text).all isChar = text.all isChar := by
  induction text with
  | nil => rfl
  | cons c rest ih =>
      rw [escaped, List.flatMap_cons, ← escaped, List.all_append, ih, List.all_cons]
      by_cases ampersand : c = '&'
      · rw [ampersand]
        rfl
      by_cases less : c = '<'
      · rw [less]
        rfl
      by_cases greater : c = '>'
      · rw [greater]
        rfl
      rw [escapedChar, if_neg ampersand, if_neg less, if_neg greater, List.all_cons, List.all_nil,
        Bool.and_true]

theorem all_isChar_attributesText (plain : ∀ field ∈ attributes, IsAttribute field) :
    (attributesText attributes).all isChar =
      (attributes.map Prod.snd).all fun text => text.all isChar := by
  induction attributes with
  | nil => rfl
  | cons field attributes ih =>
      have named := (plain field (by simp)).named.all_isChar
      have others := ih fun other mem => plain other (by simp [mem])
      rw [← List.append_nil (attributesText (field :: attributes)), attributesText_cons_append]
      simp [named, others, isChar_markup]

mutual

/-- The texts that an element holds: the values of attributes and the texts between tags. -/
def texts : Element → List Text
  | leaf _ content => [content]
  | branch _ attributes children => attributes.map Prod.snd ++ textsOf children

/-- The texts that elements hold. -/
def textsOf : List Element → List Text
  | [] => []
  | child :: rest => texts child ++ textsOf rest

end

theorem textsOf_eq_flatMap (children : List Element) : textsOf children = children.flatMap texts := by
  induction children with
  | nil => simp [textsOf]
  | cons child rest ih => rw [textsOf, ih, List.flatMap_cons]

theorem all_isChar_renderChildren {level : Nat} {children : List Element}
    (all : ∀ child ∈ children,
      (renderAt level child).all isChar = child.texts.all fun text => text.all isChar) :
    (renderChildren level children).all isChar =
      (textsOf children).all fun text => text.all isChar := by
  induction children with
  | nil => rfl
  | cons child rest ih =>
      rw [renderChildren, textsOf, List.all_append, List.all_append, List.all_append,
        all_isChar_newLine, all child (by simp), ih fun other mem => all other (by simp [mem]),
        Bool.true_and]

/-- An element is written with legal characters exactly if its texts have no others. -/
theorem Readable.all_isChar {element : Element} (readable : element.Readable) (level : Nat) :
    (renderAt level element).all isChar = element.texts.all fun text => text.all isChar := by
  induction readable generalizing level with
  | @leaf name named content =>
      rw [← List.append_nil (renderAt level _)]
      by_cases empty : content = []
      · rw [empty, renderAt_leaf_nil]
        simp [named.all_isChar, texts, isChar_markup, attributesText]
      · rw [renderAt_leaf empty]
        simp [named.all_isChar, all_isChar_escaped, texts, isChar_markup]
  | @branch name attributes children named plain all ih =>
      rw [← List.append_nil (renderAt level _)]
      cases children with
      | nil =>
          rw [renderAt_branch_nil]
          simp [named.all_isChar, all_isChar_attributesText plain, texts, textsOf, isChar_markup]
      | cons child others =>
          have inner := all_isChar_renderChildren fun other mem => ih other mem (level + 1)
          rw [renderAt_branch_cons]
          simp [named.all_isChar, all_isChar_attributesText plain, inner, all_isChar_newLine, texts,
            isChar_markup]

end Element

/-! ## Messages -/

theorem Text.all_isChar_ofInt (n : Int) : (Text.ofInt n).all Element.isChar := by
  rw [List.all_eq_true]
  intro c mem
  rcases Text.isAsciiDigit_or_eq_of_mem_ofInt mem with digit | rfl
  · exact Text.isAsciiDigit_induction (motive := fun c => Element.isChar c) digit (by decide)
  · rfl

theorem Scan.IsStanding.all_isChar {message : Text} (standing : Scan.IsStanding message) :
    message.all Element.isChar := by
  cases standing with
  | undocumented => decide
  | shortDescription => decide
  | count documented actual =>
      have first : (Text.ofNat documented).all Element.isChar := Text.all_isChar_ofInt documented
      have second : (Text.ofNat actual).all Element.isChar := Text.all_isChar_ofInt actual
      unfold Check.countMessage
      rw [List.all_append, List.all_append, List.all_append, List.all_append, first, second]
      decide

/-- A message that quotes a type is legal exactly if the type is. -/
theorem all_isChar_invalidTypeMessage (typeName : Text) :
    (Check.invalidTypeMessage typeName).all Element.isChar = typeName.all Element.isChar := by
  have before : ("Documented argument is not a valid type ( " : Text).all Element.isChar := by
    decide
  have behind : (" )" : Text).all Element.isChar := by decide
  unfold Check.invalidTypeMessage
  rw [List.all_append, List.all_append, before, behind, Bool.true_and, Bool.and_true]

namespace Report

variable {settings : Settings} {tree : FileTree} {paths : List Path}

/-- Whether a finding can be written: its message and the name of its method are legal. -/
def isLegal (finding : Finding) : Bool :=
  finding.message.all Element.isChar && finding.method.all Element.isChar

theorem all_texts_findingElement (finding : Finding) :
    ((findingElement finding).texts.all fun text => text.all Element.isChar) =
      isLegal finding := by
  have severity : finding.severity.name.all Element.isChar := by
    cases finding.severity <;> decide
  have line := Text.all_isChar_ofInt finding.line
  simp only [findingElement, Element.texts, Element.textsOf, List.map_nil, List.nil_append,
    List.append_nil, List.cons_append, List.all_cons, List.all_nil, severity, line, isLegal,
    Bool.true_and, Bool.and_true]

theorem all_texts_fileElement (report : FileReport) :
    ((fileElement report).texts.all fun text => text.all Element.isChar) =
      (report.file.all Element.isChar && report.findings.all isLegal) := by
  have findings : (fun finding =>
      (findingElement finding).texts.all fun text => text.all Element.isChar) = isLegal := by
    funext finding
    exact all_texts_findingElement finding
  simp only [fileElement, Element.texts, Element.textsOf, Element.textsOf_eq_flatMap, List.map_nil,
    List.nil_append, List.append_nil, List.cons_append, List.all_cons, List.flatMap_map,
    List.all_flatMap, findings]

/-- A report is a legal document exactly if its names of files and its findings are legal. -/
theorem all_isChar_renderXml (reports : List FileReport) (summary : Option Summary) :
    (renderXml reports summary).all Element.isChar =
      reports.all fun report => report.file.all Element.isChar && report.findings.all isLegal := by
  have declared : Element.declaration.all Element.isChar := by decide
  have totals : ((summary.toList.flatMap totalTexts).map Prod.snd).all
      fun text => text.all Element.isChar := by
    rw [List.all_map, List.all_flatMap, List.all_eq_true]
    intro totals _
    rw [totalTexts, List.all_map, List.all_eq_true]
    intro field _
    exact Text.all_isChar_ofInt field.2
  have files : (fun report =>
      (fileElement report).texts.all fun text => text.all Element.isChar) =
        fun report => report.file.all Element.isChar && report.findings.all isLegal := by
    funext report
    exact all_texts_fileElement report
  rw [renderXml, Element.render, List.all_append, declared, Bool.true_and,
    (readable_element reports summary).all_isChar 0, element, Element.texts,
    Element.textsOf_eq_flatMap, List.all_append, List.flatMap_map, List.all_flatMap, files]
  exact (congrArg (· && _) totals).trans (Bool.true_and _)

/-- Of a finding in a text only the name of its method and a type that it quotes can be illegal. -/
theorem isLegal_iff_of_standsIn {text : Text} {finding : Finding}
    (stands : Scan.StandsIn text finding) :
    isLegal finding ↔ (∀ c ∈ finding.method, Element.isChar c) ∧
      ∀ typeName, finding.message = Check.invalidTypeMessage typeName →
        ∀ c ∈ typeName, Element.isChar c := by
  rw [isLegal, Bool.and_eq_true, and_comm, List.all_eq_true]
  refine and_congr_right fun _ => ?_
  constructor
  · intro legal typeName quoted
    rw [quoted, all_isChar_invalidTypeMessage, List.all_eq_true] at legal
    exact legal
  · intro legal
    rcases stands.message with standing | ⟨typeName, -, quoted⟩
    · exact standing.all_isChar
    · rw [quoted, all_isChar_invalidTypeMessage, List.all_eq_true]
      exact legal typeName quoted

theorem isLegal_of_standsIn {text : Text} {finding : Finding}
    (stands : Scan.StandsIn text finding) (legal : ∀ c ∈ text, Element.isChar c) :
    isLegal finding := by
  rw [isLegal, Bool.and_eq_true, List.all_eq_true.mpr fun c mem => legal c (stands.method mem)]
  refine ⟨?_, rfl⟩
  rcases stands.message with standing | ⟨typeName, inside, quoted⟩
  · exact standing.all_isChar
  · rw [quoted, all_isChar_invalidTypeMessage, List.all_eq_true]
    exact fun c mem => legal c (inside mem)

/-- The report on scanned files is a legal document exactly if all findings in them are legal. -/
theorem all_isLegal_of_scanAll (named : ∀ path ∈ paths, ∀ c ∈ path.render, Element.isChar c)
    {reports : List FileReport} (scanned : (ScanFiles.scanAll settings tree paths).2 = .ok reports)
    (summary : Option Summary) :
    (∀ c ∈ renderXml reports summary, Element.isChar c) ↔
      ∀ path ∈ paths, ∀ text, tree.isFile path = .ok true → tree.readText path = .ok text →
        ∀ finding ∈ Scan.findings settings text, isLegal finding := by
  rw [← List.all_eq_true, all_isChar_renderXml, ScanFiles.reports_of_scanAll scanned,
    List.all_eq_true]
  constructor
  · intro legal path listed text file read finding found
    have reported : ScanFiles.reportOn settings tree path =
        some ⟨path.render, Scan.findings settings text⟩ :=
      ScanFiles.reportOn_eq_some_iff.mpr ⟨text, file, read, List.ne_nil_of_mem found, rfl⟩
    have all := legal _ (List.mem_filterMap.mpr ⟨path, listed, reported⟩)
    rw [Bool.and_eq_true] at all
    exact List.all_eq_true.mp all.2 finding found
  · intro legal report mem
    obtain ⟨path, listed, reported⟩ := List.mem_filterMap.mp mem
    obtain ⟨text, file, read, -, rfl⟩ := ScanFiles.reportOn_eq_some_iff.mp reported
    rw [Bool.and_eq_true, List.all_eq_true, List.all_eq_true]
    exact ⟨named path listed, legal path listed text file read⟩

/-- The report in XML on scanned files with legal names is a legal document exactly if no finding
names a method, or quotes a type, with a character that may not stand in a document. Nothing but
the sources brings such a character in. -/
theorem isChar_renderXml_iff (named : ∀ path ∈ paths, ∀ c ∈ path.render, Element.isChar c)
    {reports : List FileReport} (scanned : (ScanFiles.scanAll settings tree paths).2 = .ok reports)
    (summary : Option Summary) :
    ((∀ c ∈ renderXml reports summary, Element.isChar c) ↔
      ∀ path ∈ paths, ∀ text, tree.isFile path = .ok true → tree.readText path = .ok text →
        ∀ finding ∈ Scan.findings settings text,
          (∀ c ∈ finding.method, Element.isChar c) ∧
          ∀ typeName, finding.message = Check.invalidTypeMessage typeName →
            ∀ c ∈ typeName, Element.isChar c) ∧
    ((∀ path ∈ paths, ∀ text, tree.readText path = .ok text → ∀ c ∈ text, Element.isChar c) →
      ∀ c ∈ renderXml reports summary, Element.isChar c) := by
  rw [all_isLegal_of_scanAll named scanned summary]
  refine ⟨⟨?_, ?_⟩, ?_⟩
  · intro legal path listed text file read finding found
    rw [← isLegal_iff_of_standsIn (Scan.standsIn_of_mem_findings found)]
    exact legal path listed text file read finding found
  · intro legal path listed text file read finding found
    rw [isLegal_iff_of_standsIn (Scan.standsIn_of_mem_findings found)]
    exact legal path listed text file read finding found
  · intro sources path listed text file read finding found
    exact isLegal_of_standsIn (Scan.standsIn_of_mem_findings found)
      (sources path listed text read)

/-- The report on one file with one undocumented function, whose source is legal. -/
theorem isChar_renderXml_of_source :
    let source : Text := " a = function()"
    let tree : FileTree := ⟨[(["a.js"], .file (Text.Utf8.encode source))], []⟩
    let path := Path.ofText "a.js"
    let reports : List FileReport := [⟨"a.js", [⟨.error, Scan.undocumentedMessage, 0, "a"⟩]⟩]
    (∀ other ∈ [path], ∀ c ∈ other.render, Element.isChar c) ∧
      (ScanFiles.scanAll Settings.default tree [path]).2 = .ok reports ∧
      (∀ other ∈ [path], ∀ text, tree.readText other = .ok text → ∀ c ∈ text, Element.isChar c) ∧
      ∀ c ∈ renderXml reports none, Element.isChar c := by
  intro source tree path reports
  have file : tree.isFile path = .ok true := rfl
  have read : tree.readText path = .ok source := by
    rw [FileTree.readText_of_readBytes (rfl : tree.readBytes path = .ok (Text.Utf8.encode source)),
      Text.normalizeNewlines_of_not_mem (by decide)]
  have found : Scan.findings Settings.default source =
      [⟨.error, Scan.undocumentedMessage, 0, "a"⟩] := rfl
  have reported := ScanFiles.reportOn_of_findings file read found (by simp)
  have scanned : (ScanFiles.scanAll Settings.default tree [path]).2 = .ok reports := by
    rw [ScanFiles.scanAll_singleton file read rfl, reported]
    rfl
  have named : ∀ other ∈ [path], ∀ c ∈ other.render, Element.isChar c :=
    List.forall_mem_singleton.mpr (List.all_eq_true.mp (by decide))
  have sources : ∀ other ∈ [path], ∀ text, tree.readText other = .ok text →
      ∀ c ∈ text, Element.isChar c := by
    intro other listed text readOther
    rw [List.mem_singleton.mp listed, read] at readOther
    rw [← Except.ok.inj readOther]
    exact List.all_eq_true.mp (by decide)
  exact ⟨named, scanned, sources, (isChar_renderXml_iff named scanned none).2 sources⟩

/-- A control character in the name of a method reaches the report. -/
theorem exists_not_isChar_renderXml :
    let source : Text := " a\x01 = function()"
    let tree : FileTree := ⟨[(["a.js"], .file (Text.Utf8.encode source))], []⟩
    let path := Path.ofText "a.js"
    (∀ c ∈ path.render, Element.isChar c) ∧
      ∃ reports, (ScanFiles.scanAll Settings.default tree [path]).2 = .ok reports ∧
        ∃ c ∈ renderXml reports (some (Summary.ofReports reports 1)), ¬ Element.isChar c := by
  intro source tree path
  have file : tree.isFile path = .ok true := rfl
  have read : tree.readText path = .ok source := by
    rw [FileTree.readText_of_readBytes (rfl : tree.readBytes path = .ok (Text.Utf8.encode source)),
      Text.normalizeNewlines_of_not_mem (by decide)]
  have found : Scan.findings Settings.default source =
      [⟨.error, Scan.undocumentedMessage, 0, "a\x01"⟩] := rfl
  have reported := ScanFiles.reportOn_of_findings file read found (by simp)
  refine ⟨List.all_eq_true.mp (by decide), _, ScanFiles.scanAll_singleton file read rfl, ?_⟩
  have illegal (summary : Option Summary) :
      (renderXml (ScanFiles.reportOn Settings.default tree path).toList summary).all
        Element.isChar = false := by
    rw [all_isChar_renderXml, reported]
    decide
  obtain ⟨c, mem, other⟩ := List.all_eq_false.mp (illegal _)
  exact ⟨c, mem, other⟩

end Report

end DocAudit
