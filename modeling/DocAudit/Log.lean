import DocAudit.Text.Basic

/-!
# Log records

What the program reports about its progress: a level, the part of the program that reports, and a
message.
-/

namespace DocAudit

/-- How important a record is. -/
inductive Level where
  | debug
  | info
  | warning
  deriving DecidableEq, Repr

/-- The part of the program that a record comes from. -/
inductive Topic where
  | settings
  | discovery
  | scanner
  | report
  | commandLine
  deriving DecidableEq, Repr

/-- A log record. -/
structure Record where
  level : Level
  topic : Topic
  message : Text
  deriving DecidableEq, Repr

/-- The name of a level in a rendered record. -/
def Level.name : Level → Text
  | debug => "DEBUG"
  | info => "INFO"
  | warning => "WARNING"

/-- The name of a part in a rendered record. -/
def Topic.name : Topic → Text
  | settings => "ccd.config"
  | discovery => "ccd.discovery"
  | scanner => "ccd.scanner"
  | report => "ccd.report"
  | commandLine => "cli.checkcodedoc"

/-- A record on one line. -/
def Record.render (record : Record) : Text :=
  record.level.name ++ " " ++ record.topic.name ++ ": " ++ record.message

end DocAudit
