import DocAudit.Proofs.Report.JsonReport
import DocAudit.Proofs.Xml.RoundTrip

/-!
# XML reports can be read back

One reader gives the entries of every report in XML back: those of the report in JSON, with the
decimal text of each integer in its place, and the totals as they stand in the attributes. It does
so for arbitrary file names, messages and names of methods, also for empty and blank ones. Two
different reports are therefore never written alike.
-/

namespace DocAudit

namespace Text

theorem isAsciiDigit_or_eq_of_mem_ofInt {n : Int} {c : Char} (mem : c ∈ ofInt n) :
    isAsciiDigit c ∨ c = '-' := by
  cases n with
  | ofNat n => exact .inl (isAsciiDigit_of_mem_toDigits mem)
  | negSucc n =>
      rcases List.mem_cons.mp mem with sign | mem
      · exact .inr sign
      · exact .inl (isAsciiDigit_of_mem_toDigits mem)

theorem ofNat_inj {m n : Nat} (same : ofNat m = ofNat n) : m = n := by
  rw [← digitsValue_toDigits m, ← digitsValue_toDigits n]
  exact congrArg digitsValue same

/-- The numeral of a natural number has no sign. -/
theorem ofNat_ne_sign (n : Nat) (rest : Text) : ofNat n ≠ '-' :: rest := by
  intro same
  have digit : isAsciiDigit '-' := isAsciiDigit_of_mem_toDigits (n := n) (by
    rw [← ofNat, same]
    exact List.mem_cons_self)
  exact absurd digit (by decide)

/-- Different integers have different numerals. -/
theorem ofInt_inj {m n : Int} (same : ofInt m = ofInt n) : m = n := by
  cases m with
  | ofNat m =>
      cases n with
      | ofNat n => rw [ofNat_inj same]
      | negSucc n => exact absurd same (ofNat_ne_sign m _)
  | negSucc m =>
      cases n with
      | ofNat n => exact absurd same.symm (ofNat_ne_sign n _)
      | negSucc n => rw [Nat.succ.inj (ofNat_inj (List.cons.inj same).2)]

end Text

namespace Json

mutual

/-- A value with the decimal text of every integer in its place. -/
def withNumerals : Json → Json
  | int n => .str (Text.ofInt n)
  | arr items => .arr (allWithNumerals items)
  | obj fields => .obj (fieldsWithNumerals fields)
  | other => other

/-- The items of a list with the decimal text of every integer in its place. -/
def allWithNumerals : List Json → List Json
  | [] => []
  | item :: rest => withNumerals item :: allWithNumerals rest

/-- The fields of an object with the decimal text of every integer in its place. -/
def fieldsWithNumerals : List (Text × Json) → List (Text × Json)
  | [] => []
  | (name, value) :: rest => (name, withNumerals value) :: fieldsWithNumerals rest

end

theorem allWithNumerals_eq_map (items : List Json) :
    allWithNumerals items = items.map withNumerals := by
  induction items with
  | nil => simp [allWithNumerals]
  | cons item items ih => rw [allWithNumerals, ih, List.map_cons]

/-- Put a field in front of the first one with a later name. -/
def insertField (field : Text × Json) : List (Text × Json) → List (Text × Json)
  | [] => [field]
  | other :: rest =>
    if Text.le field.1 other.1 then field :: other :: rest else other :: insertField field rest

/-- Fields in the order of their names. -/
def inOrder (fields : List (Text × Json)) : List (Text × Json) :=
  fields.foldr insertField []

end Json

namespace Report

variable {reports : List FileReport} {summary : Option Summary}

/-! ## Reading entries -/

mutual

/-- The entry that an element of a report stands for. Errors are a list. Any other element is the
object of its children, or a text if it has none. -/
def entryOf : Element → Json
  | .leaf _ content => .str content
  | .branch name _ children =>
    if name = "errors" then .arr (entriesOf children)
    else if children.isEmpty then .str []
    else .obj (Json.inOrder (fieldsOf children))

/-- The entries that elements stand for. -/
def entriesOf : List Element → List Json
  | [] => []
  | child :: rest => entryOf child :: entriesOf rest

/-- The fields that the children of an element stand for, under their names. -/
def fieldsOf : List Element → List (Text × Json)
  | [] => []
  | child :: rest => (child.label, entryOf child) :: fieldsOf rest

end

/-- What a report in XML tells. -/
structure XmlReading where
  files : List Json
  totals : List (Text × Text)

/-- Read a report in XML: the entries of the files, and the attributes of the outermost element. -/
def readXml (text : Text) : Option XmlReading :=
  match Element.read text with
  | some (.branch name totals files) =>
    if name = "files" then some ⟨entriesOf files, totals⟩ else none
  | _ => none

/-! ## Elements keep everything -/

theorem entriesOf_eq_map (children : List Element) :
    entriesOf children = children.map entryOf := by
  induction children with
  | nil => simp [entriesOf]
  | cons child rest ih => rw [entriesOf, ih, List.map_cons]

theorem fieldsOf_eq_map (children : List Element) :
    fieldsOf children = children.map fun child => (child.label, entryOf child) := by
  induction children with
  | nil => simp [fieldsOf]
  | cons child rest ih => rw [fieldsOf, ih, List.map_cons]

/-- An element that holds text is read as this text, also if the text is empty. -/
theorem entryOf_asRead_leaf (name : Text) (other : name ≠ "errors") (content : Text) :
    entryOf (Element.asRead (.leaf name content)) = .str content := by
  cases content with
  | nil => simp only [Element.asRead, entryOf, if_neg other, List.isEmpty_nil, if_true]
  | cons c rest => simp only [Element.asRead, entryOf]

theorem entryOf_asRead_errors (attributes : List (Text × Text)) (children : List Element) :
    entryOf (Element.asRead (.branch "errors" attributes children)) =
      .arr (children.map fun child => entryOf (Element.asRead child)) := by
  rw [Element.asRead_branch, entryOf, if_pos rfl, entriesOf_eq_map, List.map_map]
  rfl

/-- Any other element that holds elements is read as an object. -/
theorem entryOf_asRead_branch {name : Text} {children : List Element} (other : name ≠ "errors")
    (nonempty : children ≠ []) (attributes : List (Text × Text)) :
    entryOf (Element.asRead (.branch name attributes children)) =
      .obj (Json.inOrder (children.map fun child =>
        (child.label, entryOf (Element.asRead child)))) := by
  have filled : ¬ (children.map Element.asRead).isEmpty := by simpa using nonempty
  rw [Element.asRead_branch, entryOf, if_neg other, if_neg filled, fieldsOf_eq_map, List.map_map]
  simp only [Function.comp_def, Element.label_asRead]

theorem entryOf_findingElement (finding : Finding) :
    entryOf (Element.asRead (findingElement finding)) = (findingEntry finding).withNumerals := by
  have message := entryOf_asRead_leaf "msg" (by decide) finding.message
  have severity := entryOf_asRead_leaf "type" (by decide) finding.severity.name
  have line := entryOf_asRead_leaf "lineNumber" (by decide) (Text.ofInt finding.line)
  have method := entryOf_asRead_leaf "methodName" (by decide) finding.method
  rw [findingElement, entryOf_asRead_branch (by decide) (by simp)]
  simp only [List.map_cons, List.map_nil, Element.label, message, severity, line, method,
    findingEntry, Json.withNumerals, Json.fieldsWithNumerals]
  rfl

theorem entryOf_fileElement (report : FileReport) :
    entryOf (Element.asRead (fileElement report)) = (fileEntry report).withNumerals := by
  have file := entryOf_asRead_leaf "fileName" (by decide) report.file
  have errors := entryOf_asRead_errors [] (report.findings.map findingElement)
  have findings : (fun finding => entryOf (Element.asRead (findingElement finding))) =
      fun finding => (findingEntry finding).withNumerals := by
    funext finding
    exact entryOf_findingElement finding
  rw [fileElement, entryOf_asRead_branch (by decide) (by simp)]
  simp only [List.map_cons, List.map_nil, Element.label, file, errors, List.map_map,
    Function.comp_def, findings, fileEntry, Json.withNumerals, Json.fieldsWithNumerals,
    Json.allWithNumerals_eq_map]
  rfl

/-! ## Reports can be read back -/

theorem readable_findingElement (finding : Finding) : (findingElement finding).Readable := by
  refine .branch (by decide) (by simp) ?_
  intro child mem
  simp only [List.mem_cons, List.not_mem_nil, or_false] at mem
  rcases mem with rfl | rfl | rfl | rfl
  · exact .leaf (by decide) finding.message
  · exact .leaf (by decide) finding.severity.name
  · exact .leaf (by decide) (Text.ofInt finding.line)
  · exact .leaf (by decide) finding.method

theorem readable_fileElement (report : FileReport) : (fileElement report).Readable := by
  refine .branch (by decide) (by simp) ?_
  intro child mem
  simp only [List.mem_cons, List.not_mem_nil, or_false] at mem
  rcases mem with rfl | rfl
  · exact .leaf (by decide) report.file
  · refine .branch (by decide) (by simp) (List.forall_mem_map.mpr ?_)
    exact fun finding _ => readable_findingElement finding

/-- The totals as attributes. -/
def totalTexts (summary : Summary) : List (Text × Text) :=
  summary.fields.map fun (name, total) => (name, Text.ofInt total)

/-- Numerals need no quotation marks and no references. -/
theorem isAttribute_of_mem_totalTexts {summary : Summary} {field : Text × Text}
    (mem : field ∈ totalTexts summary) : Element.IsAttribute field := by
  obtain ⟨⟨name, total⟩, listed, rfl⟩ := List.mem_map.mp mem
  have named : Element.IsName name := by
    simp only [Summary.fields, List.mem_cons, List.not_mem_nil, or_false, Prod.mk.injEq] at listed
    rcases listed with ⟨rfl, -⟩ | ⟨rfl, -⟩ | ⟨rfl, -⟩ | ⟨rfl, -⟩ | ⟨rfl, -⟩
    all_goals decide
  have absent (c : Char) (other : ¬ (Text.isAsciiDigit c ∨ c = '-')) : c ∉ Text.ofInt total :=
    fun mem => other (Text.isAsciiDigit_or_eq_of_mem_ofInt mem)
  exact ⟨named, absent '"' (by decide), absent '&' (by decide)⟩

theorem readable_element (reports : List FileReport) (summary : Option Summary) :
    (element reports summary).Readable := by
  refine .branch (by decide) ?_ (List.forall_mem_map.mpr ?_)
  · intro field mem
    obtain ⟨totals, -, mem⟩ := List.mem_flatMap.mp mem
    exact isAttribute_of_mem_totalTexts mem
  · exact fun report _ => readable_fileElement report

theorem readXml_of_read {text : Text} {totals : List (Text × Text)} {files : List Element}
    (whole : Element.read text = some (.branch "files" totals files)) :
    readXml text = some ⟨files.map entryOf, totals⟩ := by
  rw [readXml, whole, ← entriesOf_eq_map]
  exact if_pos rfl

/-- What is read from a written report. -/
theorem readXml_render (reports : List FileReport) (summary : Option Summary) :
    readXml (renderXml reports summary) =
      some ⟨reports.map fun report => (fileEntry report).withNumerals,
        summary.toList.flatMap totalTexts⟩ := by
  have whole := (readable_element reports summary).read_render
  rw [element, Element.asRead_branch] at whole
  rw [renderXml, element, readXml_of_read whole, List.map_map, List.map_map]
  congr 2
  exact List.map_congr_left fun report _ => entryOf_fileElement report

theorem eq_of_withNumerals_findingEntry (finding other : Finding)
    (same : (findingEntry finding).withNumerals = (findingEntry other).withNumerals) :
    finding = other := by
  cases finding
  cases other
  simp only [findingEntry, Json.withNumerals, Json.fieldsWithNumerals, Json.obj.injEq,
    List.cons.injEq, Prod.mk.injEq, Json.str.injEq, true_and, and_true] at same
  obtain ⟨sameLine, rfl, rfl, sameName⟩ := same
  rw [Text.ofInt_inj sameLine, severity_of_name_eq sameName]

theorem eq_of_withNumerals_fileEntry (report other : FileReport)
    (same : (fileEntry report).withNumerals = (fileEntry other).withNumerals) :
    report = other := by
  cases report
  cases other
  simp only [fileEntry, Json.withNumerals, Json.fieldsWithNumerals, Json.allWithNumerals_eq_map,
    List.map_map, Json.obj.injEq, List.cons.injEq, Prod.mk.injEq, Json.arr.injEq, Json.str.injEq,
    true_and, and_true] at same
  obtain ⟨sameErrors, rfl⟩ := same
  rw [(List.map_inj_right eq_of_withNumerals_findingEntry).mp sameErrors]

theorem eq_of_totalTexts (summary other : Summary) (same : totalTexts summary = totalTexts other) :
    summary = other := by
  cases summary
  cases other
  simp only [totalTexts, Summary.fields, List.map_cons, List.map_nil, List.cons.injEq,
    Prod.mk.injEq, true_and, and_true] at same
  obtain ⟨files, findings, withFindings, errors, warnings⟩ := same
  rw [Text.ofInt_inj files, Text.ofInt_inj findings, Text.ofInt_inj withFindings,
    Text.ofInt_inj errors, Text.ofInt_inj warnings]

/-- Reports in XML lose nothing. One reader gives back the entries of all files, in their order and
with numerals for integers, and the attributes of the totals if there are any; and no other report
is written alike. -/
theorem readXml_renderXml (reports : List FileReport) (summary : Option Summary) :
    readXml (renderXml reports summary) =
      some ⟨reports.map fun report => (fileEntry report).withNumerals,
        match summary with
        | none => []
        | some totals => totals.fields.map fun (name, total) => (name, Text.ofInt total)⟩ ∧
    ∀ (others : List FileReport) (other : Option Summary),
      renderXml others other = renderXml reports summary → others = reports ∧ other = summary := by
  constructor
  · rw [readXml_render]
    cases summary with
    | none => rfl
    | some totals => simp only [Option.toList_some, List.flatMap_singleton, totalTexts]
  · intro others other same
    have read := readXml_render others other
    rw [same, readXml_render, Option.some.injEq, XmlReading.mk.injEq] at read
    obtain ⟨sameFiles, sameTotals⟩ := read
    refine ⟨(List.map_inj_right eq_of_withNumerals_fileEntry).mp sameFiles.symm, ?_⟩
    cases summary with
    | none =>
        cases other with
        | none => rfl
        | some otherTotals => cases sameTotals
    | some totals =>
        cases other with
        | none => cases sameTotals
        | some otherTotals =>
            rw [Option.toList_some, Option.toList_some, List.flatMap_singleton,
              List.flatMap_singleton] at sameTotals
            rw [eq_of_totalTexts _ _ sameTotals]

end Report

end DocAudit
