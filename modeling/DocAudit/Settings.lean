import DocAudit.Files.Path
import DocAudit.Json.Value
import DocAudit.Pattern.Error
import DocAudit.Signature

/-!
# Settings

What a run checks and where its report goes, and the causes for which settings are refused.
-/

namespace DocAudit

/-- Report formats. -/
inductive Reporter where
  | text
  | json
  | xml
  deriving DecidableEq, Repr

namespace Reporter

/-- The name of a format in options. -/
def name : Reporter → Text
  | text => "text"
  | json => "json"
  | xml => "xml"

/-- All formats, in the order in which messages list them. -/
def all : List Reporter :=
  [text, json, xml]

/-- The format with a name. -/
def named? (label : Text) : Option Reporter :=
  all.find? (·.name = label)

end Reporter

/-- The settings of a run: the pattern of parameter tags with its groups for type and
description, which checks apply, the format and the file of the report, and whether the report is
echoed. -/
structure Settings where
  paramPattern : Pattern
  shortDocWarnings : Bool
  strictTypes : Bool
  reporter : Reporter
  output : Path
  verbose : Bool

namespace Settings

open Pattern in
/-- A parameter tag with its type in braces and a description. -/
def defaultParamPattern : Pattern where
  source := "@param\\s*\\\x7b(.+)\\\x7d\\s(.+)"
  root := .sequence [.literal "@param", Signature.blanks, .one (.char '\x7b'),
    .capture 1 Signature.something, .one (.char '\x7d'), .one Signature.blank,
    .capture 2 Signature.something]
  groups := 2

/-- The settings of a run without options. -/
def default : Settings where
  paramPattern := defaultParamPattern
  shortDocWarnings := true
  strictTypes := true
  reporter := .text
  output := Path.ofText "tmp/output.xml"
  verbose := true

end Settings

/-- The settings that options can change. -/
inductive Field where
  | paramPattern
  | shortDocWarnings
  | strictTypes
  | reporter
  | output
  | verbose
  deriving DecidableEq, Repr

/-- The name of a field in messages. -/
def Field.name : Field → Text
  | paramPattern => "param_doc_pattern"
  | shortDocWarnings => "short_doc_warnings"
  | strictTypes => "enforce_strict_types"
  | reporter => "reporter"
  | output => "reporter_output"
  | verbose => "verbose"

/-- Why settings are refused. -/
inductive SettingsError where
  | unknownOption (key : Text)
  | notString (field : Field) (value : Json)
  | notBoolean (field : Field) (value : Json)
  | unsupportedReporter (value : Json)
  | emptyPath (value : Json)
  | invalidPattern (source : Text) (error : Pattern.Error)
  | tooFewGroups (source : Text)
  | unreadableFile (path reason : Text)
  | invalidJson (path reason : Text)
  | notObject (path : Text)

/-- The wording of a refusal. -/
def SettingsError.message : SettingsError → Text
  | unknownOption key => "Unknown option: " ++ key
  | notString field value => field.name ++ " must be a string, got " ++ value.kindName
  | notBoolean field value => field.name ++ " must be a boolean, got " ++ value.display
  | unsupportedReporter value =>
    "Unsupported reporter: " ++ value.plain ++ " (expected one of " ++
      Text.joinWith ", " (Reporter.all.map Reporter.name) ++ ")"
  | emptyPath value => Field.output.name ++ " must be a non-empty path, got " ++ value.display
  | invalidPattern source error =>
    "Invalid parameter doc pattern " ++ Text.quoted source ++ ": " ++ error.message source
  | tooFewGroups source =>
    "Parameter doc pattern needs two capture groups (type, description): " ++ Text.quoted source
  | unreadableFile path reason => "Cannot read options file " ++ path ++ ": " ++ reason
  | invalidJson path reason => "Invalid JSON in options file " ++ path ++ ": " ++ reason
  | notObject path => "Options file must contain a JSON object: " ++ path

end DocAudit
