import DocAudit.Proofs.Discovery.Found
import DocAudit.Proofs.Run.Effects

/-!
# The report that a run writes

A report agrees with itself and with the run that wrote it. Its files are the paths that were found
and have findings, in the order of the search and none of them twice; its totals count these files
and their findings; and the last line of the totals and the exit code say the same as the report on
whether there is any finding.
-/

namespace DocAudit

variable {tree : FileTree} {settings : Settings} {path : Path} {paths : List Path}
  {reports : List FileReport} {scanned : Int}

/-! ## Reported files -/

namespace ScanFiles

/-- A path denotes a file that can be read and has a finding. -/
def HasFindings (settings : Settings) (tree : FileTree) (path : Path) : Prop :=
  ∃ finding, Finds settings tree path finding

theorem isSome_reportOn_iff :
    (reportOn settings tree path).isSome ↔ HasFindings settings tree path := by
  rw [Option.isSome_iff_exists]
  constructor
  · rintro ⟨report, reported⟩
    obtain ⟨text, file, read, filled, -⟩ := reportOn_eq_some_iff.mp reported
    obtain ⟨finding, mem⟩ := List.exists_mem_of_ne_nil _ filled
    exact ⟨finding, text, file, read, mem⟩
  · rintro ⟨finding, found⟩
    obtain ⟨report, reported, -⟩ := finds_iff.mp found
    exact ⟨report, reported⟩

instance (settings : Settings) (tree : FileTree) (path : Path) :
    Decidable (HasFindings settings tree path) :=
  decidable_of_iff _ isSome_reportOn_iff

theorem file_reportOn : (reportOn settings tree path).map FileReport.file =
    if HasFindings settings tree path then some path.render else none := by
  cases reported : reportOn settings tree path with
  | none =>
      have without : ¬ HasFindings settings tree path := by
        rw [← isSome_reportOn_iff, reported]
        exact Bool.false_ne_true
      rw [if_neg without]
      rfl
  | some report =>
      have filled : HasFindings settings tree path := by
        rw [← isSome_reportOn_iff, reported]
        rfl
      obtain ⟨text, -, -, -, rfl⟩ := reportOn_eq_some_iff.mp reported
      rw [if_pos filled]
      rfl

/-- The files in the reports are the paths with findings, in their order. -/
theorem files_reportOn (settings : Settings) (tree : FileTree) (paths : List Path) :
    (paths.filterMap (reportOn settings tree)).map FileReport.file =
      (paths.filter (HasFindings settings tree ·)).map Path.render := by
  rw [List.map_filterMap, ← List.filterMap_eq_map, List.filterMap_filter]
  simp only [file_reportOn, decide_eq_true_eq, Function.comp_apply]

theorem findings_ne_nil_of_mem {report : FileReport}
    (mem : report ∈ paths.filterMap (reportOn settings tree)) : report.findings ≠ [] := by
  obtain ⟨path, -, reported⟩ := List.mem_filterMap.mp mem
  obtain ⟨text, -, -, filled, rfl⟩ := reportOn_eq_some_iff.mp reported
  exact filled

end ScanFiles

/-! ## Totals -/

namespace Summary

theorem length_findings (reports : List FileReport) :
    (reports.flatMap FileReport.findings).length =
      (reports.map (·.findings.length)).foldr (· + ·) 0 := by
  induction reports with
  | nil => rfl
  | cons report rest ih =>
      rw [List.flatMap_cons, List.length_append, ih]
      rfl

theorem findingCount_eq_add (reports : List FileReport) (scanned : Int) :
    (ofReports reports scanned).findingCount =
      (ofReports reports scanned).errorCount + (ofReports reports scanned).warningCount := by
  simp only [ofReports]
  omega

/-- Where every report has findings, there are at least as many findings as reports. -/
theorem length_le_findings (filled : ∀ report ∈ reports, report.findings ≠ []) :
    reports.length ≤ (reports.flatMap FileReport.findings).length := by
  induction reports with
  | nil => exact Nat.le_refl 0
  | cons report rest ih =>
      obtain ⟨first, others⟩ := List.forall_mem_cons.mp filled
      have one := List.length_pos_iff.mpr first
      have more := ih others
      rw [List.flatMap_cons, List.length_append, List.length_cons]
      omega

theorem filesWithFindings_le_findingCount (filled : ∀ report ∈ reports, report.findings ≠ []) :
    (ofReports reports scanned).filesWithFindings ≤ (ofReports reports scanned).findingCount :=
  Int.ofNat_le.mpr (length_le_findings filled)

/-- Where every report has findings, there are findings exactly if there are reports. -/
theorem filesWithFindings_eq_zero_iff (filled : ∀ report ∈ reports, report.findings ≠ []) :
    (ofReports reports scanned).filesWithFindings = 0 ↔
      (ofReports reports scanned).findingCount = 0 := by
  have atMost := length_le_findings filled
  constructor
  · intro none
    obtain rfl := List.length_eq_zero_iff.mp (Int.natCast_eq_zero.mp none)
    rfl
  · intro none
    have without : (reports.flatMap FileReport.findings).length = 0 := Int.natCast_eq_zero.mp none
    exact Int.natCast_eq_zero.mpr (by omega)

theorem lines_clean_iff {summary : Summary} :
    summary.lines[2]? = some ("No errors were detected." : Text) ↔
      summary.filesWithFindings = 0 := by
  rw [lines]
  by_cases clean : summary.filesWithFindings = 0
  · simp [clean]
  · simp [clean]

theorem exitCode_warning_eq_zero_iff {summary : Summary} :
    summary.exitCode .warning = 0 ↔ summary.findingCount = 0 := by
  simp [exitCode]

end Summary

/-! ## Whole runs -/

namespace Run

/-- A report on the findings of a list of paths agrees with them and with itself. -/
structure Consistent (settings : Settings) (tree : FileTree) (paths : List Path)
    (reports : List FileReport) (summary : Summary) : Prop where
  /-- The files are the paths with findings, in their order. -/
  files : reports.map FileReport.file =
    (paths.filter (ScanFiles.HasFindings settings tree ·)).map Path.render
  distinct : (reports.map FileReport.file).Nodup
  filled : ∀ report ∈ reports, report.findings ≠ []
  filesScanned : summary.filesScanned = paths.length
  filesWithFindings : summary.filesWithFindings = reports.length
  findingCount : summary.findingCount =
    ((reports.map (·.findings.length)).foldr (· + ·) 0 : Nat)
  severities : summary.findingCount = summary.errorCount + summary.warningCount
  errorCount : summary.errorCount =
    (reports.flatMap FileReport.findings).countP (·.severity = .error)
  filesLeScanned : summary.filesWithFindings ≤ summary.filesScanned
  filesLeFindings : summary.filesWithFindings ≤ summary.findingCount
  lastLine : summary.lines[2]? = some ("No errors were detected." : Text) ↔
    summary.findingCount = 0
  passes : summary.findingCount = 0 ↔ summary.exitCode .warning = 0

variable {words : List Text} {code : Nat}

namespace Checked

variable (checked : Checked words tree)

/-- Paths that were found are not rendered alike. -/
theorem nodup_files (named : tree.IsNamed) : (checked.reports.map FileReport.file).Nodup := by
  obtain ⟨distinct, proper⟩ := Discovery.nodup_of_run checked.found
  have parted := proper named (Path.proper_ofText checked.root)
  rw [reports, ScanFiles.files_reportOn]
  refine List.pairwise_map.mpr ((distinct.filter _).imp_of_mem ?_)
  -- Paths with the same text would be the same path, and the search lists none twice.
  intro path other mem otherMem apart same
  have inside := parted path (List.mem_filter.mp mem).1
  have otherInside := parted other (List.mem_filter.mp otherMem).1
  exact apart (Path.eq_of_render_eq inside otherInside same)

theorem consistent (named : tree.IsNamed) :
    Consistent checked.settings tree checked.paths checked.reports checked.summary := by
  have filled : ∀ report ∈ checked.reports, report.findings ≠ [] :=
    fun _ => ScanFiles.findings_ne_nil_of_mem
  exact {
    files := ScanFiles.files_reportOn checked.settings tree checked.paths
    distinct := checked.nodup_files named
    filled := filled
    filesScanned := rfl
    filesWithFindings := rfl
    findingCount := congrArg Int.ofNat (Summary.length_findings checked.reports)
    severities := Summary.findingCount_eq_add checked.reports checked.paths.length
    errorCount := rfl
    filesLeScanned := Int.ofNat_le.mpr (List.length_filterMap_le _ _)
    filesLeFindings := Summary.filesWithFindings_le_findingCount filled
    lastLine := Summary.lines_clean_iff.trans (Summary.filesWithFindings_eq_zero_iff filled)
    passes := Summary.exitCode_warning_eq_zero_iff.symm }

end Checked

/-- Unless the exit code is 2, the file of the report holds it. -/
theorem readBytes_of_run (ended : (run words tree).outcome = .ok code) (below : code < 2)
    (checked : Checked words tree) :
    (run words tree).tree.readBytes checked.settings.output =
      .ok (Text.Utf8.encode checked.text) := by
  rcases stages_of_run ended with ⟨stops, -⟩ | ⟨other, records, same⟩
  · exact absurd stops checked.not_stops
  · obtain rfl := checked.unique other
    rw [same] at ended ⊢
    rw [tree_conclude]
    rcases cases_of_conclude ended with ⟨fault, refused, rfl, -⟩ | ⟨text, written, -⟩
    · exact absurd below (Nat.lt_irrefl 2)
    · exact Report.readBytes_of_deliver written

/-- A run that writes a report in JSON leaves an object in the file of the report. Its member `files`
has an object for each reported file, with the name and the findings of the file, and its member
`summary` has the totals. These agree with each other and with the paths that were found. Paths are
told apart in the report if the names in the file tree are proper. -/
theorem written_report_consistent (named : tree.IsNamed)
    (ended : (run words tree).outcome = .ok code) (below : code < 2)
    (checked : Checked words tree) (json : checked.settings.reporter = .json) :
    (run words tree).tree.readBytes checked.settings.output = .ok (Text.Utf8.encode (Json.render
      (.obj [
        ("files", .arr (checked.reports.map fun report => .obj [
          ("errors", .arr (report.findings.map fun finding => .obj [
            ("lineNumber", .int finding.line),
            ("methodName", .str finding.method),
            ("msg", .str finding.message),
            ("type", .str (match finding.severity with
              | .warning => "warning"
              | .error => "error"))])),
          ("fileName", .str report.file)])),
        ("summary", .obj [
          ("errorCount", .int checked.summary.errorCount),
          ("filesScanned", .int checked.summary.filesScanned),
          ("filesWithFindings", .int checked.summary.filesWithFindings),
          ("findingCount", .int checked.summary.findingCount),
          ("warningCount", .int checked.summary.warningCount)])]))) ∧
    Consistent checked.settings tree checked.paths checked.reports checked.summary := by
  have held := readBytes_of_run ended below checked
  rw [Checked.text, json] at held
  exact ⟨held, checked.consistent named⟩

/-- One file with a finding and one that is missing: both are counted, the first one is listed. -/
theorem written_report_of_missing_file :
    let words : List Text := ["--reporter", "json", "--quiet", "a.js", "b.js"]
    let tree : FileTree := ⟨[(["a.js"], .file (Text.Utf8.encode " a = function()"))], []⟩
    tree.IsNamed ∧ (run words tree).outcome = .ok 0 ∧
      (run words tree).tree.readBytes (Path.ofText "tmp/output.xml") =
        .ok (Text.Utf8.encode (Json.render (.obj [
          ("files", .arr [.obj [
            ("errors", .arr [.obj [
              ("lineNumber", .int 0),
              ("methodName", .str "a"),
              ("msg", .str "Method is not documented, or doc block is malformed"),
              ("type", .str "error")]]),
            ("fileName", .str "a.js")]]),
          ("summary", .obj [
            ("errorCount", .int 1),
            ("filesScanned", .int 2),
            ("filesWithFindings", .int 1),
            ("findingCount", .int 1),
            ("warningCount", .int 0)])]))) ∧
      ∃ checked : Checked words tree,
        checked.settings.reporter = .json ∧ checked.paths.length = 2 ∧
          checked.reports.map FileReport.file = (["a.js"] : List Text) ∧
          Consistent checked.settings tree checked.paths checked.reports checked.summary := by
  intro words tree
  have named : tree.IsNamed := by decide
  have ended : (run words tree).outcome = .ok 0 := eq_ok_of_toOption (by decide +kernel)
  let arguments : CommandLine.Arguments := { CommandLine.Arguments.initial with
    targets := ["a.js", "b.js"], reporter := .value .json, quiet := true }
  let settings : Settings := { Settings.default with reporter := .json, verbose := false }
  let checked : Checked words tree :=
    ⟨arguments, ".", settings, [Path.ofText "a.js", Path.ofText "b.js"], rfl, rfl, rfl, rfl⟩
  have listed : checked.reports = [⟨"a.js",
      [⟨.error, "Method is not documented, or doc block is malformed", 0, "a"⟩]⟩] := by
    decide +kernel
  obtain ⟨held, agrees⟩ := written_report_consistent named ended (by decide) checked rfl
  rw [Checked.summary, listed] at held
  exact ⟨named, ended, held, checked, rfl, rfl, congrArg (List.map FileReport.file) listed, agrees⟩

end Run

end DocAudit
