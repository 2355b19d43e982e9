import DocAudit.Text.Classes

/-!
# Quoted text

The form in which a text is shown inside a message: between quotation marks, with escapes for
the characters that would not be visible.
-/

namespace DocAudit.Text

/-- The mark that surrounds a quoted text: a single quote, unless the text has one and has no
double quote. -/
def quoteMark (text : Text) : Char :=
  if text.contains '\'' && !text.contains '"' then '"' else '\''

/-- One character between the given quotation marks. The backslash, the mark itself and the
three common control characters have short escapes; other characters that are not printable are
written by their code point in the shortest of three widths. -/
def quotedChar (mark c : Char) : Text :=
  if c = '\\' ∨ c = mark then ['\\', c]
  else if c = '\n' then "\\n"
  else if c = '\r' then "\\r"
  else if c = '\t' then "\\t"
  else if isPrintable c then [c]
  else if c.toNat < 0x100 then "\\x" ++ hex 2 c.toNat
  else if c.toNat < 0x10000 then "\\u" ++ hex 4 c.toNat
  else "\\U" ++ hex 8 c.toNat

/-- A text between quotation marks. -/
def quoted (text : Text) : Text :=
  let mark := quoteMark text
  mark :: text.flatMap (quotedChar mark) ++ [mark]

/-- A list of texts, each quoted, in brackets. -/
def quotedList (texts : List Text) : Text :=
  "[" ++ joinWith ", " (texts.map quoted) ++ "]"

end DocAudit.Text
