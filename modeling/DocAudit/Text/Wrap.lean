import DocAudit.Text.Cells

/-!
# Wrapping

A text is laid out in a column of a given number of cells. Lines break between words; a word that
is wider than the column is cut into pieces. The blanks after a word stay with it.
-/

namespace DocAudit.Text

/-- Cut a text in front of every non-blank character that follows a blank one. -/
def runs : Text → List Text
  | [] => []
  | c :: rest =>
    match runs rest with
    | [] => [[c]]
    | run :: others =>
      if isBlank c && !(run.head?.any isBlank) then [c] :: run :: others
      else (c :: run) :: others

/-- The words of a text, each with the blanks behind it, the first one also with those before it.
A text of blanks has none. -/
def words (text : Text) : List Text :=
  match runs text with
  | [] => []
  | [run] => if allBlank run then [] else [run]
  | first :: second :: others =>
    if allBlank first then (first ++ second) :: others else first :: second :: others

/-- Put clusters on pieces of at most `width` cells, behind what stands on the current piece. A
cluster that is wider than a piece gets one of its own. -/
def chopFrom (width : Nat) (piece : Text) (used : Nat) : List Cluster → List Text
  | [] => if used = 0 then [] else [piece]
  | cluster :: rest =>
    if used + cluster.cells ≤ width then
      chopFrom width (piece ++ cluster.text) (used + cluster.cells) rest
    else piece :: chopFrom width cluster.text cluster.cells rest

/-- Cut a word into pieces of at most `width` cells. A word without cells has none. -/
def chop (width : Nat) (word : Text) : List Text :=
  chopFrom width [] 0 (clusters word)

/-- Fill lines with words, behind a line that uses some cells already. -/
def fill (width : Nat) : Text → Nat → List Text → List Text
  | line, _, [] => [line]
  | line, used, word :: rest =>
    let needed := cells (trimEnd word)
    if used + needed ≤ width then fill width (line ++ word) (used + cells word) rest
    else if needed ≤ width then line :: fill width word (cells word) rest
    else
      let pieces := chop width word
      let shown := if line = [] then pieces.dropWhile (·.isEmpty) else line :: pieces
      match pieces.getLast? with
      | some last => shown.dropLast ++ fill width last (cells last) rest
      | none => fill width (line ++ word) used rest

/-- Drop trailing blanks from a line with more characters than `width`, but no more of them than
there are characters too many. -/
def dropExcessBlanks (width : Nat) (line : Text) : Text :=
  let blanks := line.length - (trimEnd line).length
  line.take (line.length - min blanks (line.length - width))

/-- To which side the lines of a column are moved. -/
inductive Alignment where
  | left
  | right
  deriving DecidableEq, Repr

/-- A line that is cut or padded to `width` cells. -/
def align (alignment : Alignment) (width : Nat) (line : Text) : Text :=
  match alignment with
  | .left => fit width line
  | .right =>
    let content := trimEnd line
    let shown := if width < cells content then fit width content else content
    spaces (width - cells shown) ++ shown

/-- The lines of a text without line feeds in a column. -/
def wrapLine (alignment : Alignment) (width : Nat) (line : Text) : List Text :=
  let expanded := expandTabs line
  let lines :=
    match words expanded with
    | [] => [expanded]
    | found => fill width [] 0 found
  lines.map fun line => align alignment width (dropExcessBlanks width line)

/-- The lines of a text in a column. -/
def wrap (alignment : Alignment) (width : Nat) (text : Text) : List Text :=
  (splitOn '\n' (showable text)).flatMap (wrapLine alignment width)

end DocAudit.Text
