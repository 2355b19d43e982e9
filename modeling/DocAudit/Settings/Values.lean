import DocAudit.Settings.Options

/-!
# Values of options in memory

Options that are handed over in memory hold more than an options file can: besides structured
values also patterns that were read before, paths, and values that no field takes. A pattern or a
path stands where a text for it could stand, and has to pass the same check. Merges are tried one
after the other; one that fails leaves the settings as they were.
-/

namespace DocAudit

/-- What messages show of a value: the name of its kind, the value with its kind visible, and the
value by itself. -/
structure Appearance where
  kindName : Text
  display : Text
  plain : Text

/-- A value of an option. A pattern, which is one of text, comes with its display, because that also
tells its flags; a path is the one that a text names; a value of any other kind equals no text. -/
inductive OptionValue where
  | data (value : Json)
  | pattern (pattern : Pattern) (display : Text)
  | path (text : Text)
  | other (shown : Appearance)

namespace OptionValue

/-- What messages show of a value. -/
def appearance : OptionValue → Appearance
  | data value => ⟨value.kindName, value.display, value.plain⟩
  | pattern _ display => ⟨"Pattern", display, display⟩
  | path text =>
    let plain := (Path.ofText text).render
    ⟨"PosixPath", "PosixPath(" ++ Text.quoted plain ++ ")", plain⟩
  | other shown => shown

/-- The text of a text or of a path. -/
def text? : OptionValue → Option Text
  | data (.str text) => some text
  | path text => some (Path.ofText text).render
  | _ => none

end OptionValue

/-- Options in order, with values of any kind. -/
abbrev ValueOptions := List (Text × OptionValue)

/-- Why options with such values could not be merged: for a reason that structured values have as
well, or because the field does not take the value. -/
inductive ValueFailure where
  | option (failure : OptionFailure)
  | unsuitable (field : Field) (value : OptionValue)

/-- The wording for a value that a field does not take. -/
def unsuitableMessage (field : Field) (value : OptionValue) : Text :=
  let shown := value.appearance
  match field with
  | .paramPattern => field.name ++ " must be a string, got " ++ shown.kindName
  | .shortDocWarnings | .strictTypes | .verbose =>
    field.name ++ " must be a boolean, got " ++ shown.display
  | .reporter =>
    "Unsupported reporter: " ++ shown.plain ++ " (expected one of " ++
      Text.joinWith ", " (Reporter.all.map Reporter.name) ++ ")"
  | .output => field.name ++ " must be a non-empty path, got " ++ shown.display

/-- The wording of a failure. -/
def ValueFailure.message : ValueFailure → Text
  | option (.refused error) => error.message
  | option (.fatalPattern cause) => cause.message
  | unsuitable field value => unsuitableMessage field value

namespace Settings

/-- The change that a value makes to a field. -/
def coerceValue (field : Field) (value : OptionValue) : Except ValueFailure Change :=
  match field, value with
  | field, .data value => (coerce field value).mapError .option
  | .paramPattern, .pattern pattern _ =>
    (Change.paramPattern <$> checkGroups pattern).mapError .option
  | .output, .path text =>
    let path := Path.ofText text
    if path.render = [] then .error (.unsuitable .output (.path text)) else .ok (.output path)
  | field, value => .error (.unsuitable field value)

/-- The change that an option makes; none if its value is null. -/
def changeOfValue (option : Text × OptionValue) : Except ValueFailure (Option Change) :=
  match option.2 with
  | .data .null => .ok none
  | value =>
    match fieldOf? option.1 with
    | none => .error (.option (.refused (.unknownOption option.1)))
    | some field => some <$> coerceValue field value

/-- The changes that options make, in order. -/
def changesOfValues : ValueOptions → Except ValueFailure (List Change)
  | [] => .ok []
  | option :: rest => do
    let change ← changeOfValue option
    let others ← changesOfValues rest
    return change.toList ++ others

/-- Merge options over settings. -/
def mergeValues (settings : Settings) (options : ValueOptions) :
    Except ValueFailure (Settings × List Record) := do
  let made ← changesOfValues options
  return (settings.applyAll made, mergeRecords made)

/-- The settings after an attempt to merge options over them. -/
def attempt (settings : Settings) (options : ValueOptions) : Settings :=
  match settings.mergeValues options with
  | .ok (merged, _) => merged
  | .error _ => settings

/-- The settings after attempts to merge options over the default ones, in order. -/
def after (steps : List ValueOptions) : Settings :=
  steps.foldl attempt default

end Settings

end DocAudit
