import DocAudit.Finding

/-!
# Run totals

The totals of a run, the lines that report them, and the exit code they lead to.
-/

namespace DocAudit

/-- The totals of a run. -/
structure Summary where
  filesScanned : Int
  findingCount : Int
  filesWithFindings : Int
  errorCount : Int
  warningCount : Int
  deriving DecidableEq, Repr

/-- From which severity on findings make a run fail. -/
inductive FailOn where
  | never
  | error
  | warning
  deriving DecidableEq, Repr

namespace FailOn

/-- The name of a threshold on the command line. -/
def name : FailOn → Text
  | never => "never"
  | error => "error"
  | warning => "warning"

/-- All thresholds, in the order in which messages list them. -/
def all : List FailOn :=
  [never, error, warning]

/-- The threshold with a name. -/
def named? (label : Text) : Option FailOn :=
  all.find? (·.name = label)

end FailOn

namespace Summary

/-- The totals of reports on files that had findings, out of a number of files scanned. -/
def ofReports (reports : List FileReport) (filesScanned : Int) : Summary :=
  let findings := reports.flatMap FileReport.findings
  let errors := findings.countP (·.severity = .error)
  { filesScanned := filesScanned
    findingCount := findings.length
    filesWithFindings := reports.length
    errorCount := errors
    warningCount := (findings.length : Int) - errors }

/-- The totals for people to read. -/
def lines (summary : Summary) : List Text :=
  ["Code documentation check completed.",
    "Scanned a total of " ++ Text.ofInt summary.filesScanned ++ " files.",
    if summary.filesWithFindings ≠ 0 then
      "Found " ++ Text.ofInt summary.findingCount ++ " errors across " ++
        Text.ofInt summary.filesWithFindings ++ " files."
    else "No errors were detected."]

/-- The exit code of a run that came to its end. -/
def exitCode (summary : Summary) : FailOn → Nat
  | .never => 0
  | .error => if summary.errorCount ≠ 0 then 1 else 0
  | .warning => if summary.findingCount ≠ 0 then 1 else 0

/-- The totals with their names in reports. -/
def fields (summary : Summary) : List (Text × Int) :=
  [("filesScanned", summary.filesScanned), ("findingCount", summary.findingCount),
    ("filesWithFindings", summary.filesWithFindings), ("errorCount", summary.errorCount),
    ("warningCount", summary.warningCount)]

end Summary

end DocAudit
