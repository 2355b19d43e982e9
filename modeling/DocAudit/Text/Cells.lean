import DocAudit.Text.Basic
import DocAudit.Text.Width

/-!
# Display cells

How many terminal cells a text takes. The sum over its characters is right but for two of them: a
joiner draws the character behind it to the one before, and a picture mark turns a narrow character
into a picture of two cells. Text is cut between clusters, which are what such characters hold
together. Cutting and padding of text to a number of cells rest on this measure.
-/

namespace DocAudit.Text

/-- The character U+200D, which joins its neighbours to one picture. -/
def joiner : Char := Char.ofNat 0x200D

/-- The character U+FE0F, which asks for the picture that the character before it stands for. -/
def pictureMark : Char := Char.ofNat 0xFE0F

/-- A character that is measured, or a joiner with the character that it takes along, if there is
one. -/
inductive Glyph where
  | single (c : Char)
  | joined (text : Text)
  deriving DecidableEq, Repr

/-- The glyphs of a text. -/
def glyphs : Text → List Glyph
  | [] => []
  | [c] => [if c = joiner then .joined [c] else .single c]
  | c :: next :: rest =>
    if c = joiner then .joined [c, next] :: glyphs rest else .single c :: glyphs (next :: rest)

/-- The cells that a character adds to a text, and whether a picture mark behind it would add one
more. The flag says whether it would do so in front of the character. -/
def measure (widens : Bool) (c : Char) : Nat × Bool :=
  if c = pictureMark then (if widens then 1 else 0, false)
  else if charCells c = 0 then (0, widens)
  else (charCells c, isPictureBase c)

/-- The number of cells of glyphs. The flag says whether a picture mark in front of them would add
a cell. -/
def glyphCells : Bool → List Glyph → Nat
  | _, [] => 0
  | widens, .joined _ :: rest => glyphCells widens rest
  | widens, .single c :: rest =>
    let (added, after) := measure widens c
    added + glyphCells after rest

/-- The number of cells of a text. -/
def cells (text : Text) : Nat :=
  glyphCells false (glyphs text)

/-- Characters that are not separated, and the number of their cells. -/
structure Cluster where
  text : Text
  cells : Nat
  deriving DecidableEq, Repr

/-- A cluster with more characters at its end. -/
def Cluster.extend (cluster : Cluster) (text : Text) (added : Nat) : Cluster :=
  ⟨cluster.text ++ text, cluster.cells + added⟩

/-- A cluster and those that follow it. Joined characters, marks and characters without a cell go
to the cluster before them; every other character begins a cluster. -/
def clustersFrom (cluster : Cluster) (widens : Bool) : List Glyph → List Cluster
  | [] => [cluster]
  | .joined text :: rest => clustersFrom (cluster.extend text 0) widens rest
  | .single c :: rest =>
    let (added, after) := measure widens c
    if c = pictureMark ∨ added = 0 then clustersFrom (cluster.extend [c] added) after rest
    else cluster :: clustersFrom ⟨[c], added⟩ after rest

/-- The clusters of a text. Its first character begins a cluster in any case, so a joiner there has
nothing to join. -/
def clusters : Text → List Cluster
  | [] => []
  | c :: rest =>
    let (added, after) := measure false c
    clustersFrom ⟨[c], added⟩ after (glyphs rest)

/-- A number of spaces. -/
def spaces (n : Nat) : Text :=
  List.replicate n ' '

/-- As many clusters as there is room for. A space takes the place of a cluster that has only a
part of its room. -/
def cut : Nat → List Cluster → Text
  | _, [] => []
  | 0, _ :: _ => []
  | room, cluster :: rest =>
    if cluster.cells ≤ room then cluster.text ++ cut (room - cluster.cells) rest else [' ']

/-- Bring a text to a number of cells: a longer text is cut between clusters, and a shorter one is
padded with spaces. -/
def fit (width : Nat) (text : Text) : Text :=
  let used := cells text
  if used ≤ width then text ++ spaces (width - used) else cut width (clusters text)

/-- The text between tabs, with spaces for each tab up to the next column that is a multiple of
eight. A tab is at least one space wide; that space is measured with the text in front of it. The
first argument is the column at which the text begins. -/
def expandFrom : Nat → List Text → Text
  | _, [] => []
  | _, [last] => last
  | column, part :: rest =>
    let shown := part ++ [' ']
    let reached := column + cells shown
    let stop := (reached + 7) / 8 * 8
    shown ++ spaces (stop - reached) ++ expandFrom stop rest

/-- Replace every tab of a line by spaces. -/
def expandTabs (line : Text) : Text :=
  expandFrom 0 (splitOn '\t' line)

/-- Whether a terminal would act on a character instead of showing it: the bell, the backspace,
the vertical tab, the form feed and the carriage return. -/
def isTerminalControl (c : Char) : Bool :=
  let code := c.toNat
  code == 7 || code == 8 || code == 11 || code == 12 || code == 13

/-- A text without the characters that a terminal would act on. -/
def showable (text : Text) : Text :=
  text.filter fun c => !isTerminalControl c

end DocAudit.Text
