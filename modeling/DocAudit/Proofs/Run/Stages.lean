import DocAudit.Proofs.Results
import DocAudit.Proofs.Scan.Reports
import DocAudit.Run

/-!
# The stages of a run

A run with an exit code takes one of two ways. Either it stops before any file is scanned, because
the command line is not understood or some step refuses its input, and then it has printed and
changed nothing; or it gets through to the scan, and its result is that of the last stage, which
delivers the report on the scanned files.
-/

namespace DocAudit.Run

/-- A run stops before any file is scanned. -/
inductive Stops (words : List Text) (tree : FileTree) : Prop where
  | help (asked : CommandLine.read words = .help)
  | usage {error : CommandLine.UsageError} (refused : CommandLine.read words = .refuse error)
  | settings {arguments : CommandLine.Arguments} {error : SettingsError}
      (understood : CommandLine.read words = .check arguments)
      (refused : (settingsFor tree arguments).2 = .error (.refused error))
  | discovery {arguments : CommandLine.Arguments} {root : Text} {settings : Settings}
      {error : DiscoveryError} (understood : CommandLine.read words = .check arguments)
      (rooted : arguments.root = some root)
      (settled : (settingsFor tree arguments).2 = .ok settings)
      (refused : (Discovery.run tree (queryOf arguments root)).2 = .error (.refused error))

/-- A run that gets as far as the scan: what the command line, the settings and the search for files
have given. -/
structure Checked (words : List Text) (tree : FileTree) where
  arguments : CommandLine.Arguments
  root : Text
  settings : Settings
  paths : List Path
  understood : CommandLine.read words = .check arguments
  rooted : arguments.root = some root
  settled : (settingsFor tree arguments).2 = .ok settings
  found : (Discovery.run tree (queryOf arguments root)).2 = .ok paths

namespace Checked

variable {words : List Text} {tree : FileTree}

/-- The reports on the files that were found. -/
def reports (checked : Checked words tree) : List FileReport :=
  checked.paths.filterMap (ScanFiles.reportOn checked.settings tree)

/-- The totals of the run. -/
def summary (checked : Checked words tree) : Summary :=
  Summary.ofReports checked.reports checked.paths.length

/-- The report in the format that the settings ask for. -/
def text (checked : Checked words tree) : Text :=
  Report.renderAs checked.settings.reporter checked.reports checked.summary

/-- The delivery of the report. -/
def delivery (checked : Checked words tree) : Report.Delivery :=
  Report.deliver checked.settings consoleWidth checked.reports checked.summary tree

/-- What the stages of a run give is determined by the command line and the file tree. -/
theorem unique (first second : Checked words tree) : first = second := by
  obtain ⟨arguments, root, settings, paths, understood, rooted, settled, found⟩ := first
  obtain ⟨_, _, _, _, otherUnderstood, otherRooted, otherSettled, otherFound⟩ := second
  cases understood.symm.trans otherUnderstood
  cases rooted.symm.trans otherRooted
  cases settled.symm.trans otherSettled
  cases found.symm.trans otherFound
  rfl

/-- No run both stops and gets as far as the scan. -/
theorem not_stops (checked : Checked words tree) : ¬ Stops words tree := by
  intro stops
  cases stops with
  | help asked => cases asked.symm.trans checked.understood
  | usage refused => cases refused.symm.trans checked.understood
  | settings understood refused =>
      cases understood.symm.trans checked.understood
      cases refused.symm.trans checked.settled
  | discovery understood rooted settled refused =>
      cases understood.symm.trans checked.understood
      cases rooted.symm.trans checked.rooted
      cases refused.symm.trans checked.found

end Checked

variable {words : List Text} {tree : FileTree} {arguments : CommandLine.Arguments} {root : Text}
  {settings : Settings} {records : List Record} {code : Nat}

/-! ## The last stage -/

theorem tree_conclude (tree : FileTree) (arguments : CommandLine.Arguments) (settings : Settings)
    (records : List Record) (scanned : Nat) (reports : List FileReport) :
    (conclude tree arguments settings records scanned reports).tree =
      (Report.deliver settings consoleWidth reports (Summary.ofReports reports scanned) tree).tree := by
  rw [conclude]
  split <;> rfl

/-- The totals are printed before the report is delivered. -/
theorem stdout_conclude (tree : FileTree) (arguments : CommandLine.Arguments)
    (settings : Settings) (records : List Record) (scanned : Nat) (reports : List FileReport) :
    (conclude tree arguments settings records scanned reports).stdout =
      (Summary.ofReports reports scanned).lines.flatMap (· ++ ['\n']) ++
        (Report.deliver settings consoleWidth reports
          (Summary.ofReports reports scanned) tree).echo := by
  rw [conclude]
  split <;> rfl

/-- If the last stage gives an exit code, the report was refused by the operating system, or it was
written and the exit code is that of the totals. -/
theorem cases_of_conclude {scanned : Nat} {reports : List FileReport}
    (ended : (conclude tree arguments settings records scanned reports).outcome = .ok code) :
    (∃ fault, (Report.deliver settings consoleWidth reports
        (Summary.ofReports reports scanned) tree).result = .error (.refused fault) ∧
      code = refusedCode ∧
      (conclude tree arguments settings records scanned reports).stderr =
        "Failed to write report: " ++ settings.output.render ++ "\n") ∨
    ∃ text, (Report.deliver settings consoleWidth reports
        (Summary.ofReports reports scanned) tree).result = .ok text ∧
      code = (Summary.ofReports reports scanned).exitCode arguments.failOn := by
  rw [conclude] at ended ⊢
  cases delivered : (Report.deliver settings consoleWidth reports
      (Summary.ofReports reports scanned) tree).result with
  | ok text =>
      simp only [delivered] at ended
      exact .inr ⟨text, rfl, (Except.ok.inj ended).symm⟩
  | error error =>
      cases error with
      | refused fault =>
          simp only [delivered] at ended
          exact .inl ⟨fault, rfl, (Except.ok.inj ended).symm, rfl⟩
      | nullCharacter =>
          simp only [delivered] at ended
          cases ended

/-! ## Both ways -/

/-- A run with settings that has an exit code was refused its root or its ignore file, or it is the
delivery of the report on the files that were found. -/
theorem cases_of_checkFiles
    (ended : (checkFiles tree arguments root settings records).outcome = .ok code) :
    (∃ error more message, (Discovery.run tree (queryOf arguments root)).2 =
        .error (.refused error) ∧
      checkFiles tree arguments root settings records =
        stopped tree more (.ok refusedCode) message) ∨
    ∃ paths more, (Discovery.run tree (queryOf arguments root)).2 = .ok paths ∧
      checkFiles tree arguments root settings records =
        conclude tree arguments settings more paths.length
          (paths.filterMap (ScanFiles.reportOn settings tree)) := by
  rw [checkFiles] at ended ⊢
  rcases searched : Discovery.run tree (queryOf arguments root) with ⟨more, failure | paths⟩
  · rw [searched] at ended
    cases failure with
    | refused error => exact .inl ⟨error, _, _, rfl, rfl⟩
    | badRule error => cases ended
    | access error => cases ended
  · rw [searched] at ended
    rcases scanned : ScanFiles.scanAll settings tree paths with ⟨scanRecords, failure | reports⟩
    · simp only [scanned] at ended
      cases ended
    · have reported : reports = paths.filterMap (ScanFiles.reportOn settings tree) :=
        ScanFiles.reports_of_scanAll (by rw [scanned])
      subst reported
      refine .inr ⟨paths, records ++ more ++ scanRecords, rfl, ?_⟩
      simp only [scanned]

/-- The two ways of a run with an exit code. -/
theorem stages_of_run (ended : (run words tree).outcome = .ok code) :
    (Stops words tree ∧ (run words tree).outcome = .ok refusedCode ∧
      (run words tree).stdout = [] ∧ (run words tree).tree = tree) ∨
    ∃ (checked : Checked words tree) (records : List Record),
      run words tree = conclude tree checked.arguments checked.settings records
        checked.paths.length checked.reports := by
  rw [run] at ended ⊢
  cases request : CommandLine.read words with
  | help => exact .inl ⟨.help request, rfl, rfl, rfl⟩
  | refuse error => exact .inl ⟨.usage request, rfl, rfl, rfl⟩
  | check arguments =>
      simp only [request, check] at ended ⊢
      rcases settled : settingsFor tree arguments with ⟨records, failure | settings⟩
      · rw [settled] at ended
        cases failure with
        | failed failure => cases ended
        | refused error =>
            have stops : Stops words tree := .settings request (by rw [settled])
            exact .inl ⟨stops, rfl, rfl, rfl⟩
      · rw [settled] at ended
        cases given : arguments.root with
        | none =>
            simp only [given] at ended
            cases ended
        | some root =>
            simp only [given] at ended ⊢
            rcases cases_of_checkFiles ended with
              ⟨error, more, message, refused, same⟩ | ⟨paths, more, found, same⟩
            · have stops : Stops words tree := .discovery request given (by rw [settled]) refused
              rw [same]
              exact .inl ⟨stops, rfl, rfl, rfl⟩
            · let checked : Checked words tree :=
                ⟨arguments, root, settings, paths, request, given, by rw [settled], found⟩
              exact .inr ⟨checked, more, same⟩

end DocAudit.Run
