import DocAudit.Text.Names.Aliases
import DocAudit.Text.Names.Alphabets
import DocAudit.Text.Names.Ancient
import DocAudit.Text.Names.EastAsian
import DocAudit.Text.Names.Pictures
import DocAudit.Text.Names.Symbols
import DocAudit.Text.Basic

/-!
# Character names

The names of the Unicode character database. Most names stand in tables, in which a name leaves out
the words that it shares with the name before it; case does not matter in them. The names of Hangul
syllables and of unified ideographs follow from their code points and are written in capitals only.
-/

namespace DocAudit.Text

namespace Names

/-- The entries of a line. A small letter begins an entry; no other small letters occur. -/
def lineEntries : Text → List (Char × Text)
  | [] => []
  | c :: rest =>
    if c.isLower then (c, rest.takeWhile (!·.isLower)) :: lineEntries rest else lineEntries rest

/-- The entries of a table, which are not divided between lines. -/
def entries (table : String) : List (Char × Text) :=
  (table.splitOn "\n").flatMap fun line => lineEntries line.toList

/-- Find a name, given by its words, among entries. The entry `x` skips a number of code points;
any other entry names the next one and begins with as many words of the name before it as its
letter says, from `a` for none on. -/
def find (target : List Text) : Nat → List Text → List (Char × Text) → Option Nat
  | _, _, [] => none
  | code, words, (mark, text) :: rest =>
    if mark = 'x' then find target (code + digitsValue text) words rest
    else
      let name := words.take (mark.toNat - 'a'.toNat) ++ splitOn ' ' text
      if name = target then some code else find target (code + 1) name rest

/-- The tables, each with the code point at which it begins. -/
def tables : List (Nat × String) :=
  [(0, alphabets), (0x2000, symbols), (0x3000, eastAsian), (0x10000, ancient), (0x1D000, pictures)]

/-- The code point with a name that stands in a table. -/
def inTables? (name : Text) : Option Nat :=
  tables.findSome? fun table => find (splitOn ' ' name) table.1 [] (entries table.2)

/-- What follows a beginning of a text. -/
def after? (beginning text : Text) : Option Text :=
  if startsWith text beginning then some (text.drop beginning.length) else none

/-- The code point with an alias. The abbreviations of variation selectors are numbered. -/
def alias? (name : Text) : Option Nat :=
  match aliases.find? (·.1.toList = name) with
  | some (_, code) => some code
  | none =>
    (List.range 256).findSome? fun index =>
      if name = "VS" ++ ofNat (index + 1) then
        some (if index < 16 then 0xFE00 + index else 0xE0100 + (index - 16))
      else none

/-- Beginnings of names that go on with the code point, and the code points that have such a
name. -/
def numbered : List (Text × Nat × Nat) :=
  [("CJK COMPATIBILITY IDEOGRAPH-", 0xF900, 0xFA6D),
    ("CJK COMPATIBILITY IDEOGRAPH-", 0xFA70, 0xFAD9),
    ("CJK COMPATIBILITY IDEOGRAPH-", 0x2F800, 0x2FA1D),
    ("KHITAN SMALL SCRIPT CHARACTER-", 0x18B00, 0x18CD5), ("NUSHU CHARACTER-", 0x1B170, 0x1B2FB)]

/-- The code point with a name that ends in the code point. -/
def numbered? (name : Text) : Option Nat :=
  numbered.findSome? fun (beginning, first, last) => do
    let digits ← after? beginning name
    let code ← hexNumber? digits
    if first ≤ code ∧ code ≤ last ∧ digits.length = (Nat.toDigits 16 code).length then some code
    else none

/-- The code points of unified ideographs. -/
def ideographs : List (Nat × Nat) :=
  [(0x3400, 0x4DBF), (0x4E00, 0x9FFF), (0x20000, 0x2A6DF), (0x2A700, 0x2B738),
    (0x2B740, 0x2B81D), (0x2B820, 0x2CEA1), (0x2CEB0, 0x2EBE0), (0x30000, 0x3134A)]

/-- The unified ideograph with a number of four or five hexadecimal digits. -/
def ideograph? (digits : Text) : Option Nat := do
  if (digits.length = 4 ∨ digits.length = 5) ∧ digits.all (fun c => !c.isLower) then
    let code ← hexNumber? digits
    if ideographs.any fun range => range.1 ≤ code && code ≤ range.2 then some code else none
  else none

/-- The consonants that begin a syllable. -/
def initials : List Text :=
  ["G", "GG", "N", "D", "DD", "R", "M", "B", "BB", "S", "SS", "", "J", "JJ", "C", "K", "T", "P",
    "H"]

/-- The vowels of a syllable. -/
def vowels : List Text :=
  ["A", "AE", "YA", "YAE", "EO", "E", "YEO", "YE", "O", "WA", "WAE", "OE", "YO", "U", "WEO", "WE",
    "WI", "YU", "EU", "YI", "I"]

/-- The consonants that end a syllable. -/
def finals : List Text :=
  ["", "G", "GG", "GS", "N", "NJ", "NH", "D", "L", "LG", "LM", "LB", "LS", "LT", "LP", "LH", "M",
    "B", "BS", "S", "SS", "NG", "J", "C", "K", "T", "P", "H"]

/-- The longest of some sounds with which a text begins: its index and what follows it. -/
def longestSound? (sounds : List Text) (text : Text) : Option (Nat × Text) :=
  let fitting := sounds.zipIdx.filter fun sound => startsWith text sound.1
  (fitting.foldl (fun (best : Option (Text × Nat)) sound =>
    match best with
    | some longest => if longest.1.length < sound.1.length then some sound else best
    | none => some sound) none).map fun sound => (sound.2, text.drop sound.1.length)

/-- The Hangul syllable of a sequence of sounds. -/
def syllable? (text : Text) : Option Nat := do
  let (initial, rest) ← longestSound? initials text
  let (vowel, rest) ← longestSound? vowels rest
  let (final, rest) ← longestSound? finals rest
  if rest = [] then
    some (0xAC00 + (initial * vowels.length + vowel) * finals.length + final)
  else none

end Names

/-- The code point with a name. -/
def named? (name : Text) : Option Nat :=
  match Names.after? "HANGUL SYLLABLE " name, Names.after? "CJK UNIFIED IDEOGRAPH-" name with
  | some sounds, _ => Names.syllable? sounds
  | none, some digits => Names.ideograph? digits
  | none, none =>
    let capitals := name.map Char.toUpper
    Names.alias? capitals <|> Names.numbered? capitals <|> Names.inTables? capitals

end DocAudit.Text
