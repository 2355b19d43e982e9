import DocAudit.Console.Style
import DocAudit.Text.Cells

/-!
# Lines of a width

A line of styled pieces is as wide as its pieces together, each measured by itself. A line that is
too wide loses what stands beyond its width, and the piece that reaches the width is cut there.
-/

namespace DocAudit.Console

/-- The number of cells of a line. -/
def lineCells (line : Line) : Nat :=
  (line.map fun piece => Text.cells piece.text).foldr (· + ·) 0

/-- The pieces of a line up to the one that reaches the width, which is cut or padded to end
there. -/
def upTo : Nat → Line → Line
  | _, [] => []
  | room, piece :: rest =>
    let used := Text.cells piece.text
    if used < room then piece :: upTo (room - used) rest
    else [⟨piece.style, Text.fit room piece.text⟩]

/-- A line without what stands beyond a width. -/
def crop (width : Nat) (line : Line) : Line :=
  if width < lineCells line then upTo width line else line

/-- A line that is cropped to a width or filled up to it with spaces in a style. -/
def shape (style : Style) (width : Nat) (line : Line) : Line :=
  if lineCells line < width then line ++ [⟨style, Text.spaces (width - lineCells line)⟩]
  else crop width line

end DocAudit.Console
