import DocAudit.Log
import DocAudit.Pattern.Reader
import DocAudit.Settings

/-!
# Options

Options are named values. Merging them over settings goes through them in order: a null value is
skipped, whatever its name; the first option with an unknown name or an unusable value ends the
merge. Every field can be set under two spellings.
-/

namespace DocAudit

/-- Why options could not be merged. Some defects of a pattern are not counted as bad settings and
end the run. -/
inductive OptionFailure where
  | refused (error : SettingsError)
  | fatalPattern (cause : Pattern.Cause)

/-- Options in order, no name twice. -/
abbrev Options := List (Text × Json)

namespace Settings

/-- The field of an option name. -/
def fieldOf? (key : Text) : Option Field :=
  let aliases : List (Text × Field) :=
    [("paramDocPattern", .paramPattern), ("shortDocWarnings", .shortDocWarnings),
      ("enforceStrictTypes", .strictTypes), ("reporter", .reporter), ("reporterOutput", .output),
      ("verbose", .verbose), ("param_doc_pattern", .paramPattern),
      ("short_doc_warnings", .shortDocWarnings), ("enforce_strict_types", .strictTypes),
      ("reporter_output", .output)]
  (aliases.find? (·.1 = key)).map (·.2)

/-- A pattern for parameter tags must have groups for the type and the description. -/
def checkGroups (pattern : Pattern) : Except OptionFailure Pattern :=
  if pattern.groups < 2 then .error (.refused (.tooFewGroups pattern.source)) else .ok pattern

/-- A pattern for parameter tags from its text. -/
def readParamPattern (source : Text) : Except OptionFailure Pattern :=
  match Pattern.read source with
  | .ok pattern => checkGroups pattern
  | .error error =>
    if error.cause.isFatal then .error (.fatalPattern error.cause)
    else .error (.refused (.invalidPattern source error))

/-- A value for a field. -/
inductive Change where
  | paramPattern (pattern : Pattern)
  | shortDocWarnings (on : Bool)
  | strictTypes (on : Bool)
  | reporter (reporter : Reporter)
  | output (path : Path)
  | verbose (on : Bool)

/-- The field that a change sets. -/
def Change.field : Change → Field
  | paramPattern _ => .paramPattern
  | shortDocWarnings _ => .shortDocWarnings
  | strictTypes _ => .strictTypes
  | reporter _ => .reporter
  | output _ => .output
  | verbose _ => .verbose

/-- The settings after a change. -/
def Change.apply (settings : Settings) : Change → Settings
  | paramPattern pattern => { settings with paramPattern := pattern }
  | shortDocWarnings on => { settings with shortDocWarnings := on }
  | strictTypes on => { settings with strictTypes := on }
  | reporter format => { settings with reporter := format }
  | output path => { settings with output := path }
  | verbose on => { settings with verbose := on }

/-- A switch from its value. -/
def coerceSwitch (field : Field) (change : Bool → Change) : Json → Except OptionFailure Change
  | .bool on => .ok (change on)
  | value => .error (.refused (.notBoolean field value))

/-- The change that a value makes to a field. -/
def coerce (field : Field) (value : Json) : Except OptionFailure Change :=
  match field with
  | .paramPattern =>
    match value with
    | .str source => .paramPattern <$> readParamPattern source
    | _ => .error (.refused (.notString field value))
  | .shortDocWarnings => coerceSwitch field .shortDocWarnings value
  | .strictTypes => coerceSwitch field .strictTypes value
  | .verbose => coerceSwitch field .verbose value
  | .reporter =>
    match value with
    | .str label =>
      match Reporter.named? label with
      | some format => .ok (.reporter format)
      | none => .error (.refused (.unsupportedReporter value))
    | _ => .error (.refused (.unsupportedReporter value))
  | .output =>
    match value with
    | .str [] => .error (.refused (.emptyPath value))
    | .str text => .ok (.output (Path.ofText text))
    | _ => .error (.refused (.emptyPath value))

/-- The change that an option makes; none if its value is null. -/
def changeOf (option : Text × Json) : Except OptionFailure (Option Change) :=
  match option.2 with
  | .null => .ok none
  | value =>
    match fieldOf? option.1 with
    | none => .error (.refused (.unknownOption option.1))
    | some field => some <$> coerce field value

/-- The changes that options make, in order. -/
def changes : Options → Except OptionFailure (List Change)
  | [] => .ok []
  | option :: rest => do
    let change ← changeOf option
    let others ← changes rest
    return change.toList ++ others

/-- The settings after some changes, the last one of a field counting. -/
def applyAll (settings : Settings) (made : List Change) : Settings :=
  made.foldl Change.apply settings

/-- The names of the changed fields in ascending order, each once. -/
def changedNames (made : List Change) : List Text :=
  ((made.map fun change => change.field.name).eraseDups).mergeSort Text.le

/-- What is logged about changes. -/
def mergeRecords (made : List Change) : List Record :=
  if made.isEmpty then []
  else
    [⟨.debug, .settings,
      "Configuration options merged (fields=" ++ Text.quotedList (changedNames made) ++ ")"⟩]

/-- Merge options over settings. -/
def merge (settings : Settings) (options : Options) :
    Except OptionFailure (Settings × List Record) := do
  let made ← changes options
  return (settings.applyAll made, mergeRecords made)

end Settings

end DocAudit
