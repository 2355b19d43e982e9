import DocAudit.Console.Echo
import DocAudit.Files.Tree
import DocAudit.Log
import DocAudit.Report.Entries
import DocAudit.Report.Table
import DocAudit.Report.Xml
import DocAudit.Settings

/-!
# Delivering a report

A report is echoed to the console if the settings ask for it and then written to its file, whose
directory is made if need be. A failure to write comes after the echo, and directories made before
it stay.
-/

namespace DocAudit.Report

/-- The report in a format, as it is written to a file. -/
def renderAs (reporter : Reporter) (reports : List FileReport) (summary : Summary) : Text :=
  match reporter with
  | .text => renderText reports
  | .json => renderJson reports (some summary)
  | .xml => renderXml reports (some summary)

/-- What a console of a given width shows of a report. Only text reports are laid out in the width
and have colours, but no report is shown on a console without cells. -/
def echoAs (reporter : Reporter) (width : Nat) (reports : List FileReport) (summary : Summary) :
    Text :=
  match reporter with
  | .text => printText width true reports
  | reporter => if width = 0 then [] else Console.echo (renderAs reporter reports summary)

/-- What is logged about a report that was written. -/
def writtenRecord (settings : Settings) (files : Nat) : Record :=
  ⟨.info, .report, "Report written (reporter=" ++ settings.reporter.name ++ " output_path=" ++
    settings.output.render ++ " files=" ++ Text.ofNat files ++ ")"⟩

/-- Write a text to a file, after making the directories that are missing. -/
def store (tree : FileTree) (path : Path) (text : Text) :
    FileTree × Except Files.AccessError Unit :=
  match tree.makeDirectories path.parent with
  | (prepared, .error error) => (prepared, .error error)
  | (prepared, .ok ()) =>
    match prepared.writeBytes path (Text.Utf8.encode text) with
    | .error error => (prepared, .error error)
    | .ok written => (written, .ok ())

/-- What delivering a report leads to: the console text, the new file tree, and the report that
was written or why it was not. -/
structure Delivery where
  echo : Text
  tree : FileTree
  result : Except Files.AccessError Text
  records : List Record

/-- Deliver a report. -/
def deliver (settings : Settings) (width : Nat) (reports : List FileReport) (summary : Summary)
    (tree : FileTree) : Delivery :=
  let text := renderAs settings.reporter reports summary
  let echo := if settings.verbose then echoAs settings.reporter width reports summary else []
  match store tree settings.output text with
  | (after, .error error) => ⟨echo, after, .error error, []⟩
  | (after, .ok ()) => ⟨echo, after, .ok text, [writtenRecord settings reports.length]⟩

end DocAudit.Report
