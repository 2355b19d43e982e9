import DocAudit.Text.Basic
import DocAudit.Text.Category

/-!
# Character classes

Words, digits, identifiers and printable characters, each derived from the category tables.
ASCII characters are decided before any table is consulted.
-/

namespace DocAudit.Text

open Category

/-- ASCII letters and digits and the underscore. -/
def isAsciiWord (c : Char) : Bool :=
  ('a' ≤ c && c ≤ 'z') || ('A' ≤ c && c ≤ 'Z') || isAsciiDigit c || c == '_'

/-- Word characters: letters and numbers of every script and the underscore. Combining marks
and connector punctuation other than the underscore are not word characters. -/
def isWord (c : Char) : Bool :=
  if c.toNat < 128 then isAsciiWord c
  else
    within letters c.toNat || within decimals c.toNat || within letterNumbers c.toNat ||
      within otherNumbers c.toNat

/-- Decimal digits of every script. -/
def isDecimal (c : Char) : Bool :=
  if c.toNat < 128 then isAsciiDigit c else within decimals c.toNat

/-- The value of a decimal digit of any script. -/
def decimalValue? (c : Char) : Option Nat :=
  (decimals.find? fun range => range.1 ≤ c.toNat && c.toNat ≤ range.2).map fun range =>
    (c.toNat - range.1) % 10

/-- Letters of every script. -/
def isLetter (c : Char) : Bool :=
  within letters c.toNat

/-- Characters that are shown as themselves: letters, marks, numbers, punctuation, symbols and
the plain space. -/
def isPrintable (c : Char) : Bool :=
  let code := c.toNat
  if code < 127 then 32 ≤ code
  else
    within letters code || within marks code || within decimals code ||
      within letterNumbers code || within otherNumbers code || within punctuation code ||
      within symbols code

/-- Letters whose compatibility form does not begin an identifier. -/
private def notIdentifierLetters : List Nat :=
  [0x37A, 0x2E2F, 0xFC5E, 0xFC5F, 0xFC60, 0xFC61, 0xFC62, 0xFC63, 0xFDFA, 0xFDFB, 0xFE70, 0xFE72,
   0xFE74, 0xFE76, 0xFE78, 0xFE7A, 0xFE7C, 0xFE7E]

/-- Letters that continue an identifier without being able to begin one. -/
private def onlyContinuingLetters : List Nat :=
  [0xE33, 0xEB3, 0xFF9E, 0xFF9F]

/-- Characters outside the letters that may begin an identifier. -/
private def extraIdentifierStarts : List Nat :=
  [0x5F, 0x1885, 0x1886, 0x2118, 0x212E]

/-- Characters outside the letters, marks and digits that may continue an identifier. -/
private def extraIdentifierParts : List (Nat × Nat) :=
  [(0xB7, 0xB7), (0x387, 0x387), (0x1369, 0x1371), (0x19DA, 0x19DA), (0x203F, 0x2040),
   (0x2054, 0x2054), (0xFE33, 0xFE34), (0xFE4D, 0xFE4F), (0xFF3F, 0xFF3F)]

/-- Enclosing marks, which take no part in identifiers. -/
private def enclosingMarks : List (Nat × Nat) :=
  [(0x488, 0x489), (0x1ABE, 0x1ABE), (0x20DD, 0x20E0), (0x20E2, 0x20E4), (0xA670, 0xA672)]

/-- Whether a character may begin an identifier. -/
def isIdentifierStart (c : Char) : Bool :=
  let code := c.toNat
  extraIdentifierStarts.contains code ||
    ((within letters code || within letterNumbers code) &&
      !notIdentifierLetters.contains code && !onlyContinuingLetters.contains code)

/-- Whether a character may follow the first one of an identifier. -/
def isIdentifierPart (c : Char) : Bool :=
  let code := c.toNat
  isIdentifierStart c || onlyContinuingLetters.contains code || within decimals code ||
    (within marks code && !within enclosingMarks code) || within extraIdentifierParts code

/-- Whether a text is an identifier. -/
def isIdentifier : Text → Bool
  | [] => false
  | c :: rest => isIdentifierStart c && rest.all isIdentifierPart

end DocAudit.Text
