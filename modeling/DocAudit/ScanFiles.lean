import DocAudit.Files.Content
import DocAudit.Log
import DocAudit.Scan

/-!
# Scanning files

Files are scanned one after the other, and nothing of one file reaches another. A path that
denotes no file and a file that cannot be read are logged and skipped.
-/

namespace DocAudit.ScanFiles

/-- The message of a failed reading. -/
def readFailure : ReadTextError → Text
  | .access error => error.message
  | .decoding fault => fault.message

/-- What scanning one path gives: a record, and a report if there are findings. -/
structure Outcome where
  record : Record
  report : Option FileReport

/-- Why scanning stops. -/
inductive Failure where
  | access (fault : Files.Fault)
  /-- The pattern for parameter tags found a group that ends before it begins. -/
  | tangledGroups

/-- The wording of a failure. -/
def Failure.message : Failure → Text
  | access fault => fault.message
  | tangledGroups =>
    "The span of capturing group is wrong, please report a bug for the re module."

/-- Scan one path. Refused are a name that is too long, and a text in which the pattern for
parameter tags finds a group that ends before it begins. -/
def scanPath (settings : Settings) (tree : FileTree) (path : Path) : Except Failure Outcome := do
  let shown := path.render
  if !(← (tree.isFile path).mapError Failure.access) then
    return ⟨⟨.warning, .scanner, "Source file not found (path=" ++ shown ++ ")"⟩, none⟩
  else
    match tree.readText path with
    | .error error =>
      return ⟨⟨.warning, .scanner, "Skipping file due to read failure (path=" ++ shown ++
        " error=" ++ readFailure error ++ ")"⟩, none⟩
    | .ok text =>
      if Scan.isTangled settings text then throw .tangledGroups
      let findings := Scan.findings settings text
      let record : Record := ⟨.debug, .scanner, "File scanned (path=" ++ shown ++ " findings=" ++
        Text.ofNat findings.length ++ ")"⟩
      return ⟨record, if findings.isEmpty then none else some ⟨shown, findings⟩⟩

/-- Scan paths in order, with what is logged on the way. -/
def scanAll (settings : Settings) (tree : FileTree) :
    List Path → List Record × Except Failure (List FileReport)
  | [] => ([], .ok [])
  | path :: rest =>
    match scanPath settings tree path with
    | .error failure => ([], .error failure)
    | .ok outcome =>
      let (records, reports) := scanAll settings tree rest
      (outcome.record :: records, (outcome.report.toList ++ ·) <$> reports)

end DocAudit.ScanFiles
