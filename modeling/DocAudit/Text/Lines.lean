import DocAudit.Text.Basic

/-!
# Lines

Line endings. Files are read with every line ending turned into a line feed; a list of ignore
rules is cut into lines at every character that ends a line in any convention.
-/

namespace DocAudit.Text

/-- Turn a carriage return, alone or together with a following line feed, into a line feed. -/
def normalizeNewlines : Text → Text
  | [] => []
  | '\r' :: '\n' :: rest => '\n' :: normalizeNewlines rest
  | c :: rest => (if c = '\r' then '\n' else c) :: normalizeNewlines rest

/-- Characters that end a line. -/
def endsLine (c : Char) : Bool :=
  let code := c.toNat
  (10 ≤ code && code ≤ 13) || (28 ≤ code && code ≤ 30) || code == 0x85 || code == 0x2028 ||
    code == 0x2029

/-- The lines of a text in which a carriage return before a line feed has been dropped. A line
ending at the very end begins no further line. -/
private def linesFrom : Text → List Text
  | [] => []
  | c :: rest =>
    if endsLine c then [] :: linesFrom rest
    else
      match linesFrom rest with
      | [] => [[c]]
      | line :: lines => (c :: line) :: lines

/-- The lines of a text, without their endings. -/
def lines (text : Text) : List Text :=
  linesFrom (normalizeNewlines text)

/-- The line number and the column of a position, both counted from one. -/
def lineAndColumn (text : Text) (position : Nat) : Nat × Nat :=
  let before := text.take position
  let sinceBreak := before.reverse.takeWhile (· != '\n')
  (before.count '\n' + 1, sinceBreak.length + 1)

end DocAudit.Text
