import DocAudit.Text.Basic

/-!
# Findings

A documentation issue of one function, and the issues of one file. Lines are counted from zero.
-/

namespace DocAudit

/-- How grave a finding is. -/
inductive Severity where
  | warning
  | error
  deriving DecidableEq, Repr

/-- The name of a severity in reports. -/
def Severity.name : Severity → Text
  | warning => "warning"
  | error => "error"

/-- One documentation issue. -/
structure Finding where
  severity : Severity
  message : Text
  line : Int
  method : Text
  deriving DecidableEq, Repr

/-- All findings of one file. -/
structure FileReport where
  file : Text
  findings : List Finding
  deriving DecidableEq, Repr

end DocAudit
