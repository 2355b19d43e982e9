import DocAudit.Files.Tree
import DocAudit.Text.Lines

/-!
# File contents as text

Text files hold UTF-8. Whatever the line endings of a file are, its text has line feeds.
-/

namespace DocAudit

/-- Why the text of a file could not be read. -/
inductive ReadTextError where
  | access (error : Files.AccessError)
  | decoding (fault : Text.Utf8.Fault)

/-- The text of a file, with every line ending turned into a line feed. -/
def FileTree.readText (tree : FileTree) (path : Path) : Except ReadTextError Text :=
  match tree.readBytes path with
  | .error error => .error (.access error)
  | .ok bytes =>
    match Text.Utf8.decode bytes with
    | .error fault => .error (.decoding fault)
    | .ok text => .ok (Text.normalizeNewlines text)

end DocAudit
