/-!
# Text

All text in the library is a list of Unicode scalar values, so that positions and lengths count
characters and every function on text is a recursion on that list. A string literal is coerced
where a text is expected. This module holds blanks, trimming, splitting and decimal numerals.
-/

namespace DocAudit

/-- A text: its characters from first to last. -/
abbrev Text := List Char

/-- A string literal stands for its characters. -/
instance : Coe String Text := ⟨String.toList⟩

namespace Text

/-- Blank characters: the horizontal and vertical spaces of every script together with the four
information separators. Zero-width characters are not blank. -/
def isBlank (c : Char) : Bool :=
  let code := c.toNat
  (9 ≤ code && code ≤ 13) || (28 ≤ code && code ≤ 32) || code == 0x85 || code == 0xA0 ||
    code == 0x1680 || (0x2000 ≤ code && code ≤ 0x200A) || code == 0x2028 || code == 0x2029 ||
    code == 0x202F || code == 0x205F || code == 0x3000

/-- Remove leading blanks. -/
def trimStart (text : Text) : Text :=
  text.dropWhile isBlank

/-- Remove the trailing characters that satisfy a test. -/
def dropEndWhile (test : Char → Bool) (text : Text) : Text :=
  text.foldr (fun c kept => if kept.isEmpty && test c then [] else c :: kept) []

/-- Remove trailing blanks. -/
def trimEnd (text : Text) : Text :=
  dropEndWhile isBlank text

/-- Remove blanks on both sides. -/
def trim (text : Text) : Text :=
  trimEnd (trimStart text)

/-- Whether a text holds nothing but blanks. -/
def allBlank (text : Text) : Bool :=
  text.all isBlank

/-- Whether a text begins with the given one. -/
def startsWith : Text → Text → Bool
  | _, [] => true
  | [], _ :: _ => false
  | c :: text, d :: expected => c == d && startsWith text expected

/-- Whether a text ends with the given one. -/
def endsWith (text expected : Text) : Bool :=
  startsWith text.reverse expected.reverse

/-- Cut a text at every occurrence of a separator. There is always one more piece than there
are separators, so the empty text gives one empty piece. -/
def splitOn (separator : Char) : Text → List Text
  | [] => [[]]
  | c :: rest =>
    if c = separator then [] :: splitOn separator rest
    else
      match splitOn separator rest with
      | [] => [[c]]
      | piece :: pieces => (c :: piece) :: pieces

/-- Put pieces together with a separator between neighbours. -/
def joinWith (separator : Text) : List Text → Text
  | [] => []
  | [piece] => piece
  | piece :: pieces => piece ++ separator ++ joinWith separator pieces

/-- Remove the first occurrence of a character, if there is one. -/
def eraseFirst (target : Char) : Text → Text
  | [] => []
  | c :: rest => if c = target then rest else c :: eraseFirst target rest

/-- The decimal numeral of a natural number. -/
def ofNat (n : Nat) : Text :=
  Nat.toDigits 10 n

/-- The decimal numeral of an integer, with a minus sign if it is negative. -/
def ofInt : Int → Text
  | .ofNat n => ofNat n
  | .negSucc n => '-' :: ofNat (n + 1)

/-- The value of a hexadecimal digit in either case. -/
def hexValue? (c : Char) : Option Nat :=
  if '0' ≤ c ∧ c ≤ '9' then some (c.toNat - 48)
  else if 'a' ≤ c ∧ c ≤ 'f' then some (c.toNat - 87)
  else if 'A' ≤ c ∧ c ≤ 'F' then some (c.toNat - 55)
  else none

/-- The value of a run of hexadecimal digits, or nothing if another character occurs. -/
def hexNumber? (digits : Text) : Option Nat :=
  digits.foldl (fun value c => do return (← value) * 16 + (← hexValue? c)) (some 0)

/-- A number in lower-case hexadecimal, padded with zeros to at least the given width. -/
def hex (width n : Nat) : Text :=
  let digits := Nat.toDigits 16 n
  List.replicate (width - digits.length) '0' ++ digits

/-- The value of a run of ASCII decimal digits. -/
def digitsValue (digits : Text) : Nat :=
  digits.foldl (fun value c => value * 10 + (c.toNat - 48)) 0

/-- The greatest number of digits of an integer. -/
def digitLimit : Nat := 4300

/-- The message about an integer with more digits than are read. -/
def digitLimitMessage (count : Nat) : Text :=
  "Exceeds the limit (" ++ ofNat digitLimit ++
    " digits) for integer string conversion: value has " ++ ofNat count ++
    " digits; use sys.set_int_max_str_digits() to increase the limit"

/-- Whether a character is one of the ten ASCII digits. -/
def isAsciiDigit (c : Char) : Bool :=
  '0' ≤ c && c ≤ '9'

/-- Lexicographic order by code point. -/
def le : Text → Text → Bool
  | [], _ => true
  | _ :: _, [] => false
  | c :: s, d :: t => c.toNat < d.toNat || (c == d && le s t)

end Text

end DocAudit
