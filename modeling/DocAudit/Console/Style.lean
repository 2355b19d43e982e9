import DocAudit.Text.Basic

/-!
# Styled lines

What goes to a console is a list of lines, and a line is a list of pieces of text with a style
each. Layout works on the text of the pieces alone. A style becomes visible only in the last step,
as a control sequence in front of its piece and one behind it.
-/

namespace DocAudit.Console

/-- How a piece of text looks. -/
inductive Style where
  | plain
  | bold
  | red
  | yellow
  | blue
  | cyan
  deriving DecidableEq, Repr

/-- The number that selects a style; a plain piece needs none. -/
def Style.code? : Style → Option Nat
  | plain => none
  | bold => some 1
  | red => some 31
  | yellow => some 33
  | blue => some 34
  | cyan => some 36

/-- A piece of text in one style. -/
structure Piece where
  style : Style
  text : Text
  deriving DecidableEq, Repr

/-- The pieces of a line from left to right. -/
abbrev Line := List Piece

/-- The control sequence that selects a style by its number. -/
def sequence (code : Nat) : Text :=
  Char.ofNat 27 :: '[' :: Text.ofNat code ++ ['m']

/-- A piece as it is sent to a console, with control sequences if `color` is set. -/
def Piece.render (color : Bool) (piece : Piece) : Text :=
  match piece.style.code? with
  | some code =>
    if color && !piece.text.isEmpty then sequence code ++ piece.text ++ sequence 0 else piece.text
  | none => piece.text

/-- A line as it is sent to a console. -/
def renderLine (color : Bool) (line : Line) : Text :=
  line.flatMap (Piece.render color) ++ ['\n']

/-- Lines as they are sent to a console. -/
def render (color : Bool) (lines : List Line) : Text :=
  lines.flatMap (renderLine color)

end DocAudit.Console
