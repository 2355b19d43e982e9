import DocAudit.Json.Printer
import DocAudit.Report.Summary

/-!
# JSON reports

Reports as structured values. The fields of every object stand in the order of their names, which
is the order in which they are written.
-/

namespace DocAudit.Report

/-- A finding as a structured value. -/
def findingEntry (finding : Finding) : Json :=
  .obj [("lineNumber", .int finding.line), ("methodName", .str finding.method),
    ("msg", .str finding.message), ("type", .str finding.severity.name)]

/-- The report of a file as a structured value. -/
def fileEntry (report : FileReport) : Json :=
  .obj [("errors", .arr (report.findings.map findingEntry)), ("fileName", .str report.file)]

/-- Totals as a structured value. -/
def summaryEntry (summary : Summary) : Json :=
  .obj [("errorCount", .int summary.errorCount), ("filesScanned", .int summary.filesScanned),
    ("filesWithFindings", .int summary.filesWithFindings),
    ("findingCount", .int summary.findingCount), ("warningCount", .int summary.warningCount)]

/-- A whole report as a structured value. -/
def document (reports : List FileReport) (summary : Option Summary) : Json :=
  .obj (("files", .arr (reports.map fileEntry)) ::
    summary.toList.map fun summary => ("summary", summaryEntry summary))

/-- A report in JSON. -/
def renderJson (reports : List FileReport) (summary : Option Summary) : Text :=
  Json.render (document reports summary)

end DocAudit.Report
