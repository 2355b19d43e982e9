import DocAudit.Proofs.Files.Content
import DocAudit.Proofs.Json.RoundTrip
import DocAudit.Report.Entries
import DocAudit.Settings.OptionsFile

/-!
# JSON reports can be read back

A file that holds a report in JSON is read as the structured value from which the report was
written. Nothing is lost on the way, so two different reports are never written alike. The only
condition is that no integer has more digits than the reader converts.
-/

namespace DocAudit

namespace Report

variable {reports : List FileReport} {summary : Option Summary}

/-- The numbers among run totals. -/
def totalsOf (summary : Summary) : List Int :=
  [summary.filesScanned, summary.findingCount, summary.filesWithFindings, summary.errorCount,
    summary.warningCount]

/-- Whether no integer of a report has more digits than are read. -/
structure ShortNumbers (reports : List FileReport) (summary : Option Summary) : Prop where
  lines : ∀ report ∈ reports, ∀ finding ∈ report.findings, Json.IsShort finding.line
  totals : ∀ total ∈ summary.toList.flatMap totalsOf, Json.IsShort total

/-! ## Entries can be read back -/

theorem readable_findingEntry {finding : Finding} (short : Json.IsShort finding.line) :
    (findingEntry finding).Readable := by
  have ascending : Json.Ascending ["lineNumber", "methodName", "msg", "type"] := by decide
  refine .obj ascending ?_
  intro field mem
  simp only [List.mem_cons, List.not_mem_nil, or_false] at mem
  rcases mem with rfl | rfl | rfl | rfl
  · exact .int short
  · exact .str finding.method
  · exact .str finding.message
  · exact .str finding.severity.name

theorem readable_fileEntry {report : FileReport}
    (short : ∀ finding ∈ report.findings, Json.IsShort finding.line) :
    (fileEntry report).Readable := by
  have ascending : Json.Ascending ["errors", "fileName"] := by decide
  refine .obj ascending ?_
  intro field mem
  simp only [List.mem_cons, List.not_mem_nil, or_false] at mem
  rcases mem with rfl | rfl
  · refine .arr (List.forall_mem_map.mpr ?_)
    exact fun finding mem => readable_findingEntry (short finding mem)
  · exact .str report.file

theorem readable_summaryEntry {summary : Summary}
    (short : ∀ total ∈ totalsOf summary, Json.IsShort total) : (summaryEntry summary).Readable := by
  have ascending : Json.Ascending
      ["errorCount", "filesScanned", "filesWithFindings", "findingCount", "warningCount"] := by
    decide
  refine .obj ascending ?_
  intro field mem
  simp only [List.mem_cons, List.not_mem_nil, or_false] at mem
  rcases mem with rfl | rfl | rfl | rfl | rfl <;> exact .int (short _ (by simp [totalsOf]))

theorem readable_document (short : ShortNumbers reports summary) :
    (document reports summary).Readable := by
  have files : (Json.arr (reports.map fileEntry)).Readable := by
    refine .arr (List.forall_mem_map.mpr ?_)
    exact fun report mem => readable_fileEntry (short.lines report mem)
  cases summary with
  | none =>
      have ascending : Json.Ascending ["files"] := by decide
      refine .obj ascending ?_
      intro field mem
      obtain rfl := List.mem_singleton.mp mem
      exact files
  | some totals =>
      have ascending : Json.Ascending ["files", "summary"] := by decide
      refine .obj ascending ?_
      intro field mem
      rcases List.mem_cons.mp mem with rfl | mem
      · exact files
      · obtain rfl := List.mem_singleton.mp mem
        refine readable_summaryEntry fun total memTotal => short.totals total ?_
        simpa using memTotal

/-! ## Entries keep everything -/

theorem severity_of_name_eq {severity other : Severity} (same : severity.name = other.name) :
    severity = other := by
  cases severity <;> cases other <;> first | rfl | exact absurd same (by decide)

theorem eq_of_findingEntry_eq (finding other : Finding)
    (same : findingEntry finding = findingEntry other) : finding = other := by
  cases finding
  cases other
  simp only [findingEntry, Json.obj.injEq, List.cons.injEq, Prod.mk.injEq, Json.int.injEq,
    Json.str.injEq, true_and, and_true] at same
  obtain ⟨rfl, rfl, rfl, sameName⟩ := same
  rw [severity_of_name_eq sameName]

theorem eq_of_fileEntry_eq (report other : FileReport) (same : fileEntry report = fileEntry other) :
    report = other := by
  cases report
  cases other
  simp only [fileEntry, Json.obj.injEq, List.cons.injEq, Prod.mk.injEq, Json.arr.injEq,
    Json.str.injEq, true_and, and_true] at same
  obtain ⟨sameErrors, rfl⟩ := same
  rw [(List.map_inj_right eq_of_findingEntry_eq).mp sameErrors]

theorem eq_of_summaryEntry_eq (summary other : Summary)
    (same : summaryEntry summary = summaryEntry other) : summary = other := by
  cases summary
  cases other
  simp only [summaryEntry, Json.obj.injEq, List.cons.injEq, Prod.mk.injEq, Json.int.injEq,
    true_and, and_true] at same
  obtain ⟨rfl, rfl, rfl, rfl, rfl⟩ := same
  rfl

theorem eq_of_document_eq {others : List FileReport} {other : Option Summary}
    (same : document reports summary = document others other) :
    reports = others ∧ summary = other := by
  simp only [document, Json.obj.injEq, List.cons.injEq, Prod.mk.injEq, Json.arr.injEq,
    true_and] at same
  obtain ⟨sameFiles, sameSummary⟩ := same
  refine ⟨(List.map_inj_right eq_of_fileEntry_eq).mp sameFiles, ?_⟩
  cases summary with
  | none =>
      cases other with
      | none => rfl
      | some otherTotals => cases sameSummary
  | some totals =>
      cases other with
      | none => cases sameSummary
      | some otherTotals =>
          simp only [Option.toList_some, List.map_cons, List.map_nil, List.cons.injEq,
            Prod.mk.injEq, true_and, and_true] at sameSummary
          rw [eq_of_summaryEntry_eq totals otherTotals sameSummary]

/-! ## Reports in files -/

theorem isWritten_of_mem_renderJson (short : ShortNumbers reports summary) :
    ∀ c ∈ renderJson reports summary, Json.isWritten c :=
  Json.isWritten_of_mem_renderAt (readable_document short) 0

/-- A file that holds a report is read as the value from which the report was written. -/
theorem loadOptions_of_readBytes (short : ShortNumbers reports summary) {tree : FileTree}
    {path : Path}
    (held : tree.readBytes path = .ok (Text.Utf8.encode (renderJson reports summary))) :
    Settings.loadOptions tree path =
      .ok (("files", .arr (reports.map fileEntry)) ::
        summary.toList.map fun summary => ("summary", summaryEntry summary)) := by
  have absent : '\r' ∉ renderJson reports summary := by
    intro mem
    exact absurd (isWritten_of_mem_renderJson short '\r' mem) (by decide)
  have content : tree.readText path = .ok (renderJson reports summary) := by
    rw [FileTree.readText_of_readBytes held, Text.normalizeNewlines_of_not_mem absent]
  have whole : Json.read (renderJson reports summary) = .ok (document reports summary) :=
    Json.read_render (readable_document short)
  rw [Settings.loadOptions, content]
  simp only [Settings.parseOptions, whole, document]

/-- Reports in JSON decode back exactly. If no integer has too many digits, a report consists of
line feeds and printable ASCII characters; a file that holds it is read as an object whose fields
are the entries of all files, in their order, and the totals if there are any; and no other report
is written alike. -/
theorem loadOptions_renderJson (short : ShortNumbers reports summary) :
    (∀ c ∈ renderJson reports summary, c = '\n' ∨ 32 ≤ c.toNat ∧ c.toNat < 127) ∧
    (∀ (tree : FileTree) (path : Path),
      tree.readBytes path = .ok (Text.Utf8.encode (renderJson reports summary)) →
        ∃ options, Settings.loadOptions tree path = .ok options ∧
          options.map Prod.fst =
            (if summary.isSome then ["files", "summary"] else ["files"] : List Text) ∧
          Json.field? "files" options = some (.arr (reports.map fileEntry)) ∧
          Json.field? "summary" options = summary.map summaryEntry) ∧
    ∀ (others : List FileReport) (other : Option Summary), ShortNumbers others other →
      renderJson others other = renderJson reports summary →
        others = reports ∧ other = summary := by
  refine ⟨?_, ?_, ?_⟩
  · intro c mem
    have written := isWritten_of_mem_renderJson short c mem
    simpa [Json.isWritten] using written
  · intro tree path held
    refine ⟨_, loadOptions_of_readBytes short held, ?_, ?_, ?_⟩
    · cases summary <;> rfl
    · rfl
    · cases summary <;> rfl
  · intro others other shortOthers same
    have read := Json.read_render (readable_document short)
    have readOthers := Json.read_render (readable_document shortOthers)
    rw [← renderJson] at read readOthers
    rw [same, read] at readOthers
    exact eq_of_document_eq (Except.ok.inj readOthers).symm

/-- A report with quotation marks, a backslash, a line feed, a character of two units and a negative
line number, as it is read from the file that holds it. -/
theorem loadOptions_renderJson_escapes :
    let reports : List FileReport :=
      [⟨"src/\"𝄞\".js", [⟨.error, "a\\b\nc", -12, "é"⟩, ⟨.warning, "", 0, ""⟩]⟩, ⟨"", []⟩]
    let summary : Option Summary := some ⟨2, 2, 1, 1, 1⟩
    let path := Path.ofText "r.json"
    let tree : FileTree :=
      ⟨[(["r.json"], .file (Text.Utf8.encode (renderJson reports summary)))], []⟩
    ShortNumbers reports summary ∧
      tree.readBytes path = .ok (Text.Utf8.encode (renderJson reports summary)) ∧
      ∃ options, Settings.loadOptions tree path = .ok options ∧
        Json.field? "files" options = some (.arr (reports.map fileEntry)) ∧
        Json.field? "summary" options = summary.map summaryEntry := by
  intro reports summary path tree
  have short : ShortNumbers reports summary := ⟨by decide, by decide⟩
  have held : tree.readBytes path = .ok (Text.Utf8.encode (renderJson reports summary)) := rfl
  obtain ⟨options, loaded, -, files, totals⟩ := (loadOptions_renderJson short).2.1 tree path held
  exact ⟨short, held, options, loaded, files, totals⟩

end Report

end DocAudit
