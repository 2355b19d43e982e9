import DocAudit.Console.Measure
import DocAudit.Finding
import DocAudit.Text.Wrap

/-!
# Text reports

Each file gets a line with its name and a table with its findings, both as wide as the page. The
columns of the table share the page in fixed ratios, and long texts are wrapped inside their
column. On a page that is too narrow for the table, columns give up their cells, down to none, and
what still stands beyond the page is cut off.
-/

namespace DocAudit.Report

open Console Text

/-- A number of dashes. -/
def dashes (n : Nat) : Text :=
  List.replicate n '-'

/-- The title between dashes on a line of the given width. A title that leaves no room for two
cells on each side is cut. The line is fitted as a whole before it gets its styles, because what
the title ends in can change the width of what follows it. -/
def ruleLine (width : Nat) (title : Text) : Line :=
  let cleaned := expandTabs ((showable title).map fun c => if c = '\n' then ' ' else c)
  if cleaned = [] ∨ width ≤ 4 then [⟨.cyan, dashes width⟩]
  else
    let shown := if width - 4 < cells cleaned then fit (width - 5) cleaned ++ "…" else cleaned
    let side := (width - cells shown) / 2
    let left := dashes (side - 1) ++ " "
    let right := fit width (left ++ shown ++ " " ++ dashes (side + 1))
    [⟨.cyan, left⟩, ⟨.plain, shown⟩, ⟨.cyan, right.drop (left.length + shown.length)⟩]

/-- A column of the table. -/
structure Column where
  title : Text
  ratio : Nat
  alignment : Text.Alignment

/-- The columns from left to right. -/
def columns : List Column :=
  [⟨"Type", 1, .left⟩, ⟨"Line No.", 1, .right⟩, ⟨"Method Name", 2, .left⟩, ⟨"Details", 5, .left⟩]

/-- The least width of a column: one cell of text between two of padding. -/
def leastWidth : Nat := 3

/-- Share cells by ratios from left to right, each share rounded up. -/
def share : Nat → List Nat → List Nat
  | _, [] => []
  | available, ratio :: rest =>
    let total := ratio + rest.foldr (· + ·) 0
    let width := max leastWidth ((ratio * available + total - 1) / total)
    width :: share (available - width) rest

/-- A quotient rounded to the nearest number; a half goes to the even neighbour. -/
def roundedQuotient (n d : Nat) : Nat :=
  let twice := 2 * (n % d)
  if twice < d ∨ (twice = d ∧ n / d % 2 = 0) then n / d else n / d + 1

/-- Widths without a number of cells, which the columns give up in equal parts from left to
right. -/
def shrink : Nat → List Nat → List Nat
  | _, [] => []
  | excess, width :: rest =>
    let given := min width (roundedQuotient excess (rest.length + 1))
    (width - given) :: shrink (excess - given) rest

/-- The widths of the columns on a page: what five borders leave. -/
def widths (page : Nat) : List Nat :=
  let shares := share (page - 5) (columns.map Column.ratio)
  shrink (shares.foldr (· + ·) 0 - (page - 5)) shares

/-- The characters of a horizontal border. -/
structure Border where
  left : Char
  fill : Char
  cross : Char
  right : Char

/-- The border above the titles. -/
def topBorder : Border := ⟨'┏', '━', '┳', '┓'⟩

/-- The border between the titles and the rows. -/
def headBorder : Border := ⟨'┡', '━', '╇', '┩'⟩

/-- The border between two rows. -/
def rowBorder : Border := ⟨'├', '─', '┼', '┤'⟩

/-- The border below the last row. -/
def bottomBorder : Border := ⟨'└', '─', '┴', '┘'⟩

/-- A horizontal border over columns. -/
def Border.line (border : Border) (widths : List Nat) : Line :=
  [⟨.plain, border.left :: joinWith [border.cross] (widths.map (List.replicate · border.fill)) ++
    [border.right]⟩]

/-- Cells side by side between vertical borders. -/
def besides (side : Char) : List Line → Line
  | [] => [⟨.plain, [side]⟩]
  | cell :: rest => ⟨.plain, [side]⟩ :: cell ++ besides side rest

/-- Columns of lines side by side. -/
def rowLines (side : Char) (height : Nat) (blocks : List (List Line)) : List Line :=
  (List.range height).map fun index => besides side (blocks.map fun block => block.getD index [])

/-- The greatest number of lines. -/
def heightOf (blocks : List (List Line)) : Nat :=
  (blocks.map List.length).foldl max 0

/-- An empty line of a cell. -/
def blankLine (style : Style) (width : Nat) : Line :=
  [⟨style, spaces width⟩]

/-- The lines of a text in a column, between two spaces. The style of the text is that of the
piece; what is around it has a style of its own. A column without a cell between the spaces has no
lines. -/
def cellLines (column : Column) (width : Nat) (around : Style) (piece : Piece) : List Line :=
  if width < leastWidth then []
  else
    (wrap column.alignment (width - 2) piece.text).map fun text =>
      let line := shape around (width - 2) [⟨piece.style, text⟩]
      shape around width (⟨around, " "⟩ :: line ++ [⟨around, " "⟩])

/-- A row without any text: one empty line. -/
def emptyRow (side : Char) (widths : List Nat) : List Line :=
  [besides side (widths.map (blankLine .plain))]

/-- The lines of the titles, in bold and moved to the bottom. -/
def headLines (widths : List Nat) : List Line :=
  let blocks := List.zipWith
    (fun column width => cellLines column width .bold ⟨.bold, column.title⟩) columns widths
  let height := heightOf blocks
  if height = 0 then emptyRow '┃' widths
  else
    rowLines '┃' height (List.zipWith
      (fun block width => List.replicate (height - block.length) (blankLine .bold width) ++ block)
      blocks widths)

/-- The name of a severity in the table. -/
def severityLabel : Severity → Text
  | .warning => "Warning"
  | .error => "Error"

/-- The colour of a severity in the table. -/
def severityStyle : Severity → Style
  | .warning => .yellow
  | .error => .red

/-- The texts of a row with their styles. -/
def rowTexts (finding : Finding) : List Piece :=
  [⟨severityStyle finding.severity, severityLabel finding.severity⟩,
    ⟨.blue, ofInt finding.line⟩, ⟨.plain, finding.method⟩, ⟨.plain, finding.message⟩]

/-- The lines of a row, with the texts at the top. -/
def findingLines (widths : List Nat) (finding : Finding) : List Line :=
  let blocks := List.zipWith (fun column cell => cellLines column cell.1 .plain cell.2) columns
    (widths.zip (rowTexts finding))
  let height := heightOf blocks
  if height = 0 then emptyRow '│' widths
  else
    rowLines '│' height (List.zipWith
      (fun block width =>
        block ++ List.replicate (height - block.length) (blankLine .plain width))
      blocks widths)

/-- Rows with a border between neighbours. -/
def bodyLines (widths : List Nat) : List Finding → List Line
  | [] => []
  | [finding] => findingLines widths finding
  | finding :: rest => findingLines widths finding ++ rowBorder.line widths :: bodyLines widths rest

/-- The table of findings. -/
def tableLines (page : Nat) (findings : List Finding) : List Line :=
  let shares := widths page
  topBorder.line shares :: headLines shares ++ headBorder.line shares ::
    bodyLines shares findings ++ [bottomBorder.line shares]

/-- The lines of a whole report. -/
def textLines (page : Nat) (reports : List FileReport) : List Line :=
  (reports.flatMap fun report =>
    ruleLine page report.file :: tableLines page report.findings).map (crop page)

/-- A text report on a console. A console without cells shows nothing. -/
def printText (page : Nat) (color : Bool) (reports : List FileReport) : Text :=
  if page = 0 then [] else Console.render color (textLines page reports)

/-- The width of a report in a file. -/
def fileWidth : Nat := 160

/-- A text report in a file. -/
def renderText (reports : List FileReport) : Text :=
  printText fileWidth false reports

end DocAudit.Report
