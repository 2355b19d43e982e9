import DocAudit.Proofs.Report.Delivery
import DocAudit.Proofs.Run.ExitCode
import DocAudit.Proofs.Run.Stages

/-!
# What a run leaves behind

A run that stops has printed and changed nothing. Any other run prints its totals before it writes
the report. If the report cannot be written, directories may have been made, but no file differs; if
it can, the file holds the report as it was rendered, and the exit code tells whether some scanned
file has a finding that is grave enough.
-/

namespace DocAudit

variable {tree : FileTree} {settings : Settings} {reports : List FileReport}

/-! ## Findings of scanned files -/

namespace ScanFiles

/-- A path denotes a file that can be read, and the scan of its text gives a finding. -/
def Finds (settings : Settings) (tree : FileTree) (path : Path) (finding : Finding) : Prop :=
  ∃ text, tree.isFile path = .ok true ∧ tree.readText path = .ok text ∧
    finding ∈ Scan.findings settings text

theorem finds_iff {path : Path} {finding : Finding} : Finds settings tree path finding ↔
    ∃ report, reportOn settings tree path = some report ∧ finding ∈ report.findings := by
  constructor
  · rintro ⟨text, file, read, mem⟩
    exact ⟨_, reportOn_of_findings file read rfl (List.ne_nil_of_mem mem), mem⟩
  · rintro ⟨report, reported, mem⟩
    obtain ⟨text, file, read, -, rfl⟩ := reportOn_eq_some_iff.mp reported
    exact ⟨text, file, read, mem⟩

end ScanFiles

namespace Run.Checked

variable {words : List Text}

/-- A scanned file has a finding. -/
def Finds (checked : Checked words tree) (finding : Finding) : Prop :=
  ∃ path ∈ checked.paths, ScanFiles.Finds checked.settings tree path finding

/-- The findings in the reports are those of the scanned files. -/
theorem mem_findings_iff (checked : Checked words tree) {finding : Finding} :
    finding ∈ checked.reports.flatMap FileReport.findings ↔ checked.Finds finding := by
  simp only [reports, Finds, List.mem_flatMap, List.mem_filterMap, ScanFiles.finds_iff]
  constructor
  · rintro ⟨report, ⟨path, mem, reported⟩, found⟩
    exact ⟨path, mem, report, reported, found⟩
  · rintro ⟨path, mem, report, reported, found⟩
    exact ⟨report, ⟨path, mem, reported⟩, found⟩

end Run.Checked

namespace Summary

theorem errorCount_ne_zero_iff (reports : List FileReport) (scanned : Int) :
    (ofReports reports scanned).errorCount ≠ 0 ↔
      ∃ finding ∈ reports.flatMap FileReport.findings, finding.severity = .error := by
  rw [ofReports, Ne, Int.natCast_eq_zero, ← Ne, ← Nat.pos_iff_ne_zero, List.countP_pos_iff]
  simp only [decide_eq_true_eq]

theorem findingCount_ne_zero_iff (reports : List FileReport) (scanned : Int) :
    (ofReports reports scanned).findingCount ≠ 0 ↔
      ∃ finding, finding ∈ reports.flatMap FileReport.findings := by
  rw [ofReports, Ne, Int.natCast_eq_zero, ← Ne, ← Nat.pos_iff_ne_zero, List.length_pos_iff_exists_mem]

/-- The exit code is 1 exactly if there is a finding as grave as the threshold. -/
theorem exitCode_eq_one_iff (reports : List FileReport) (scanned : Int) (failOn : FailOn) :
    (ofReports reports scanned).exitCode failOn = 1 ↔
      (failOn = .error ∧
        ∃ finding ∈ reports.flatMap FileReport.findings, finding.severity = .error) ∨
      (failOn = .warning ∧ ∃ finding, finding ∈ reports.flatMap FileReport.findings) := by
  rw [← errorCount_ne_zero_iff reports scanned, ← findingCount_ne_zero_iff reports scanned]
  cases failOn <;> simp [exitCode]

/-- The totals of reports, line by line. -/
theorem lines_ofReports (reports : List FileReport) (scanned : Nat) :
    (ofReports reports scanned).lines =
      (["Code documentation check completed.",
        "Scanned a total of " ++ Text.ofNat scanned ++ " files.",
        if reports = [] then "No errors were detected."
        else "Found " ++ Text.ofNat (reports.flatMap FileReport.findings).length ++
          " errors across " ++ Text.ofNat reports.length ++ " files."] : List Text) := by
  cases reports with
  | nil => rfl
  | cons report rest => rfl

theorem exitCode_eq_zero_of_ne_one {summary : Summary} {failOn : FailOn}
    (other : summary.exitCode failOn ≠ 1) : summary.exitCode failOn = 0 := by
  have least := Run.exitCode_le_one summary failOn
  omega

end Summary

/-! ## Whole runs -/

namespace Run

/-- What a run with an exit code has printed and changed. If it stops, its exit code is 2, and there
is nothing of either. Otherwise three lines come first, with the numbers of files scanned, of findings
and of files that have any. If the report is refused by the operating system then, the exit code is
2, the message names the file of the report, and no file differs. If it is not, the file holds the
report as text, as JSON or as XML, and the exit code is 1 for a finding as grave as the command line
asks for, and 0 without one. -/
theorem effects_of_run {words : List Text} {code : Nat}
    (ended : (run words tree).outcome = .ok code) :
    (Stops words tree →
      code = 2 ∧ (run words tree).stdout = [] ∧ (run words tree).tree = tree) ∧
    (¬ Stops words tree → ∃ checked : Checked words tree,
      (["Code documentation check completed.",
        "Scanned a total of " ++ Text.ofNat checked.paths.length ++ " files.",
        if checked.reports = [] then "No errors were detected."
        else "Found " ++ Text.ofNat (checked.reports.flatMap FileReport.findings).length ++
          " errors across " ++ Text.ofNat checked.reports.length ++ " files."] :
        List Text).flatMap (· ++ ['\n']) <+: (run words tree).stdout ∧
      (∀ fault, checked.delivery.result = .error (.refused fault) →
        code = 2 ∧
        (run words tree).stderr =
          "Failed to write report: " ++ checked.settings.output.render ++ "\n" ∧
        FileTree.KeepsFiles tree (run words tree).tree) ∧
      ((∀ fault, checked.delivery.result ≠ .error (.refused fault)) →
        (run words tree).tree.readBytes checked.settings.output =
          .ok (Text.Utf8.encode (match checked.settings.reporter with
            | .text => Report.renderText checked.reports
            | .json => Report.renderJson checked.reports (some checked.summary)
            | .xml => Report.renderXml checked.reports (some checked.summary))) ∧
        (code = 1 ↔
          (checked.arguments.failOn = .error ∧
            ∃ finding, checked.Finds finding ∧ finding.severity = .error) ∨
          (checked.arguments.failOn = .warning ∧ ∃ finding, checked.Finds finding)) ∧
        (code ≠ 1 → code = 0))) := by
  rcases stages_of_run ended with ⟨stops, outcome, quiet, same⟩ | ⟨checked, records, same⟩
  · refine ⟨fun _ => ⟨?_, quiet, same⟩, fun goesOn => absurd stops goesOn⟩
    exact (Except.ok.inj (outcome.symm.trans ended)).symm
  · refine ⟨fun stops => absurd stops checked.not_stops, fun _ => ⟨checked, ?_⟩⟩
    -- From here on the run is its last stage, and only the delivery can still be refused.
    rw [same] at ended ⊢
    rw [stdout_conclude, tree_conclude, Summary.lines_ofReports]
    rcases cases_of_conclude ended with ⟨fault, refused, failed, message⟩ | ⟨text, written, rfl⟩
    · refine ⟨List.prefix_append _ _, fun _ _ => ?_, fun accepted => absurd refused (accepted fault)⟩
      exact ⟨failed, message, Report.keepsFiles_of_deliver refused⟩
    · refine ⟨List.prefix_append _ _, fun fault refused => ?_, fun _ => ?_⟩
      · cases written.symm.trans refused
      · refine ⟨Report.readBytes_of_deliver written, ?_, Summary.exitCode_eq_zero_of_ne_one⟩
        rw [Summary.exitCode_eq_one_iff]
        simp only [checked.mem_findings_iff]

/-- A function without documentation makes a run fail that asks for errors. Its report is written
nevertheless. -/
theorem effects_of_undocumented_function :
    let words : List Text := ["--fail-on", "error", "--quiet", "a.js"]
    let tree : FileTree := ⟨[(["a.js"], .file (Text.Utf8.encode " a = function()"))], []⟩
    let reports : List FileReport :=
      [⟨"a.js", [⟨.error, "Method is not documented, or doc block is malformed", 0, "a"⟩]⟩]
    (run words tree).outcome = .ok 1 ∧
      (run words tree).stdout =
        "Code documentation check completed.\nScanned a total of 1 files.\n" ++
          "Found 1 errors across 1 files.\n" ∧
      (run words tree).tree.readBytes (Path.ofText "tmp/output.xml") =
        .ok (Text.Utf8.encode (Report.renderText reports)) ∧
      ∃ checked : Checked words tree, checked.reports = reports ∧
        ∃ finding, checked.Finds finding := by
  intro words tree reports
  have ended : (run words tree).outcome = .ok 1 := eq_ok_of_toOption (by decide +kernel)
  have printed : (run words tree).stdout =
      "Code documentation check completed.\nScanned a total of 1 files.\n" ++
        "Found 1 errors across 1 files.\n" := by decide +kernel
  let arguments : CommandLine.Arguments := { CommandLine.Arguments.initial with
    targets := ["a.js"], failOn := .error, quiet := true }
  let checked : Checked words tree := ⟨arguments, ".", { Settings.default with verbose := false },
    [Path.ofText "a.js"], rfl, rfl, rfl, rfl⟩
  have listed : checked.reports = reports := by decide +kernel
  obtain ⟨other, -, refused, written⟩ := (effects_of_run ended).2 checked.not_stops
  obtain rfl : other = checked := other.unique checked
  have accepted : ∀ fault, checked.delivery.result ≠ .error (.refused fault) := by
    intro fault failure
    have failed := (refused fault failure).1
    omega
  obtain ⟨held, grave, -⟩ := written accepted
  rw [listed] at held
  refine ⟨ended, printed, held, checked, listed, ?_⟩
  rcases grave.mp rfl with ⟨-, finding, found, -⟩ | ⟨-, finding, found⟩
  · exact ⟨finding, found⟩
  · exact ⟨finding, found⟩

end Run

end DocAudit
