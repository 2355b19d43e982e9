import DocAudit.Files.Content
import DocAudit.Json.Reader
import DocAudit.Settings.Options

/-!
# Options files

Options can be kept in a file that holds one JSON object.
-/

namespace DocAudit

/-- Why an options file gives no options. A null character in its path and an integer with too
many digits are not counted as bad settings and end the run. -/
inductive OptionsFileFailure where
  | refused (error : SettingsError)
  | nullCharacter
  | tooManyDigits (cause : Json.ReadCause)

namespace Settings

/-- The options that the text of a file holds. -/
def parseOptions (path : Path) (text : Text) : Except OptionsFileFailure Options :=
  match Json.read text with
  | .ok (.obj fields) => .ok fields
  | .ok _ => .error (.refused (.notObject path.render))
  | .error error =>
    match error.cause with
    | .tooManyDigits _ => .error (.tooManyDigits error.cause)
    | _ => .error (.refused (.invalidJson path.render (error.message text)))

/-- The options in a file. -/
def loadOptions (tree : FileTree) (path : Path) : Except OptionsFileFailure Options :=
  match tree.readText path with
  | .ok text => parseOptions path text
  | .error (.access .nullCharacter) => .error .nullCharacter
  | .error (.access (.refused fault)) =>
    .error (.refused (.unreadableFile path.render fault.message))
  | .error (.decoding fault) => .error (.refused (.unreadableFile path.render fault.message))

end Settings

end DocAudit
