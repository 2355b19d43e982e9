import DocAudit.Json.Value
import DocAudit.Text.Lines

/-!
# Reading structured values

A reader for JSON with the names `NaN`, `Infinity` and `-Infinity` as additional numbers. Every
function takes the text that remains and returns a value with the text after it, or a cause with
the text that remained where reading stopped; positions are computed only for the message. The
depth of nesting is bounded by the length of the input, which serves as fuel.
-/

namespace DocAudit.Json

/-- Why reading stopped. -/
inductive ReadCause where
  | expectingValue
  | expectingName
  | expectingColon
  | expectingComma
  | extraData
  | unterminatedString
  | invalidControl
  | invalidEscape
  | invalidUnicodeEscape
  | byteOrderMark
  /-- An integer with more digits than are converted. -/
  | tooManyDigits (count : Nat)
  deriving DecidableEq, Repr

/-- A cause with the position at which it was found. -/
structure ReadError where
  cause : ReadCause
  position : Nat
  deriving DecidableEq, Repr

/-- The wording of a cause, without its position. -/
def ReadCause.message : ReadCause → Text
  | .expectingValue => "Expecting value"
  | .expectingName => "Expecting property name enclosed in double quotes"
  | .expectingColon => "Expecting ':' delimiter"
  | .expectingComma => "Expecting ',' delimiter"
  | .extraData => "Extra data"
  | .unterminatedString => "Unterminated string starting at"
  | .invalidControl => "Invalid control character at"
  | .invalidEscape => "Invalid \\escape"
  | .invalidUnicodeEscape => "Invalid \\uXXXX escape"
  | .byteOrderMark => "Unexpected UTF-8 BOM (decode using utf-8-sig)"
  | .tooManyDigits count => Text.digitLimitMessage count

/-- The message of an error in the given input, with line, column and position. -/
def ReadError.message (input : Text) (error : ReadError) : Text :=
  match error.cause with
  | .tooManyDigits _ => error.cause.message
  | _ =>
    let (line, column) := Text.lineAndColumn input error.position
    error.cause.message ++ ": line " ++ Text.ofNat line ++ " column " ++ Text.ofNat column ++
      " (char " ++ Text.ofNat error.position ++ ")"

/-- Where reading stopped: a cause and the text that remained. -/
abbrev Stop := ReadCause × Text

/-- Whether a character may stand between tokens. -/
def isSpace (c : Char) : Bool :=
  c == ' ' || c == '\t' || c == '\n' || c == '\r'

/-- The text behind the spaces at its beginning. -/
def skipSpaces (text : Text) : Text :=
  text.dropWhile isSpace

/-- The character of a code unit; an unpaired surrogate becomes the replacement character. -/
def unitChar (unit : Nat) : Char :=
  if 0xD800 ≤ unit ∧ unit ≤ 0xDFFF then Char.ofNat 0xFFFD else Char.ofNat unit

/-- The character of a surrogate pair. -/
def pairChar (high low : Nat) : Char :=
  Char.ofNat (0x10000 + (high - 0xD800) * 0x400 + (low - 0xDC00))

/-- Four hexadecimal digits that are not the end of the input. -/
def unit? : Text → Option (Nat × Text)
  | a :: b :: c :: d :: next :: rest => do
    return (← Text.hexNumber? [a, b, c, d], next :: rest)
  | _ => none

/-- The character of a one-letter escape. -/
def shortEscape? (c : Char) : Option Char :=
  match c with
  | '"' => some '"'
  | '\\' => some '\\'
  | '/' => some '/'
  | 'b' => some '\x08'
  | 'f' => some '\x0c'
  | 'n' => some '\n'
  | 'r' => some '\r'
  | 't' => some '\t'
  | _ => none

/-- The rest of a string whose opening mark is the first character of `opening`. Fuel is the
number of characters that may still be read. -/
def stringTail (opening : Text) : Nat → Text → Except Stop (Text × Text)
  | 0, _ => .error (.unterminatedString, opening)
  | _ + 1, [] => .error (.unterminatedString, opening)
  | fuel + 1, c :: rest =>
    if c = '"' then .ok ([], rest)
    else if c = '\\' then
      match rest with
      | [] => .error (.unterminatedString, opening)
      | 'u' :: digits =>
        match unit? digits with
        | none => .error (.invalidUnicodeEscape, rest)
        | some (high, rest) =>
          let single : Except Stop (Text × Text) := do
            let (tail, rest) ← stringTail opening fuel rest
            return (unitChar high :: tail, rest)
          if 0xD800 ≤ high ∧ high ≤ 0xDBFF then
            match rest with
            | '\\' :: 'u' :: digits =>
              match unit? digits with
              | some (low, rest) =>
                if 0xDC00 ≤ low ∧ low ≤ 0xDFFF then do
                  let (tail, rest) ← stringTail opening fuel rest
                  return (pairChar high low :: tail, rest)
                else single
              | none => single
            | _ => single
          else single
      | e :: rest' =>
        match shortEscape? e with
        | none => .error (.invalidEscape, c :: rest)
        | some shown => do
          let (tail, rest) ← stringTail opening fuel rest'
          return (shown :: tail, rest)
    else if c.toNat < 32 then .error (.invalidControl, c :: rest)
    else do
      let (tail, rest) ← stringTail opening fuel rest
      return (c :: tail, rest)

/-- A string, from its opening mark. -/
def string (text : Text) : Except Stop (Text × Text) :=
  match text with
  | '"' :: rest => stringTail text rest.length.succ rest
  | _ => .error (.expectingValue, text)

/-- The fraction of a number: a point and at least one digit. -/
def fraction? (text : Text) : Option (Text × Text) :=
  match text with
  | '.' :: rest =>
    let digits := rest.takeWhile Text.isAsciiDigit
    if digits.isEmpty then none else some (digits, rest.dropWhile Text.isAsciiDigit)
  | _ => none

/-- The exponent of a number: a mark, an optional sign and at least one digit. -/
def exponent? (text : Text) : Option (Int × Text) :=
  match text with
  | mark :: rest =>
    if mark = 'e' ∨ mark = 'E' then
      let (negative, rest) :=
        match rest with
        | '-' :: rest => (true, rest)
        | '+' :: rest => (false, rest)
        | rest => (false, rest)
      let digits := rest.takeWhile Text.isAsciiDigit
      if digits.isEmpty then none
      else
        let value := Int.ofNat (Text.digitsValue digits)
        some (if negative then -value else value, rest.dropWhile Text.isAsciiDigit)
    else none
  | [] => none

/-- The digits before the point: a single zero, or digits that begin with none. -/
def wholePart (text : Text) : Text × Text :=
  match text with
  | '0' :: rest => (['0'], rest)
  | _ => (text.takeWhile Text.isAsciiDigit, text.dropWhile Text.isAsciiDigit)

/-- The longest number at the beginning of a text. -/
def number (text : Text) : Except Stop (Json × Text) :=
  let (negative, unsigned) :=
    match text with
    | '-' :: rest => (true, rest)
    | rest => (false, rest)
  let (whole, rest) := wholePart unsigned
  if whole.isEmpty then .error (.expectingValue, text)
  else
    let fraction := fraction? rest
    let rest := (fraction.map (·.2)).getD rest
    let exponent := exponent? rest
    let rest := (exponent.map (·.2)).getD rest
    match fraction, exponent with
    | none, none =>
      if Text.digitLimit < whole.length then .error (.tooManyDigits whole.length, text)
      else
        let value := Int.ofNat (Text.digitsValue whole)
        .ok (.int (if negative then -value else value), rest)
    | _, _ =>
      let decimals := (fraction.map (·.1)).getD []
      let scale := (exponent.map (·.1)).getD 0 - Int.ofNat decimals.length
      .ok (.real (.ofDecimal negative (Text.digitsValue (whole ++ decimals)) scale), rest)

/-- The words that stand for a value. -/
def words : List (Text × Json) :=
  [("null", .null), ("true", .bool true), ("false", .bool false), ("NaN", .real .nan),
    ("Infinity", .real (.infinite false)), ("-Infinity", .real (.infinite true))]

/-- The value of the word at the beginning of a text. -/
def word? (text : Text) : Option (Json × Text) :=
  (words.find? fun entry => Text.startsWith text entry.1).map fun entry =>
    (entry.2, text.drop entry.1.length)

mutual

/-- A value at the beginning of a text. -/
def value : Nat → Text → Except Stop (Json × Text)
  | 0, text => .error (.expectingValue, text)
  | fuel + 1, text =>
    match text with
    | '"' :: _ => do
      let (content, rest) ← string text
      return (.str content, rest)
    | '\x7b' :: rest =>
      match skipSpaces rest with
      | '\x7d' :: rest => .ok (.obj [], rest)
      | rest => do
        let (fields, rest) ← members fuel [] rest
        return (.obj fields, rest)
    | '[' :: rest =>
      match skipSpaces rest with
      | ']' :: rest => .ok (.arr [], rest)
      | rest => do
        let (items, rest) ← elements fuel rest
        return (.arr items, rest)
    | _ =>
      match word? text with
      | some found => .ok found
      | none => number text

/-- The remaining items of a list, up to its closing bracket. -/
def elements : Nat → Text → Except Stop (List Json × Text)
  | 0, text => .error (.expectingValue, text)
  | fuel + 1, text => do
    let (item, rest) ← value fuel text
    match skipSpaces rest with
    | ']' :: rest => return ([item], rest)
    | ',' :: rest =>
      let (items, rest) ← elements fuel (skipSpaces rest)
      return (item :: items, rest)
    | rest => .error (.expectingComma, rest)

/-- The remaining fields of an object, up to its closing brace, added to the fields so far. -/
def members : Nat → List (Text × Json) → Text → Except Stop (List (Text × Json) × Text)
  | 0, _, text => .error (.expectingName, text)
  | fuel + 1, fields, text =>
    match text with
    | '"' :: _ => do
      let (name, rest) ← string text
      match skipSpaces rest with
      | ':' :: rest =>
        let (content, rest) ← value fuel (skipSpaces rest)
        let fields := setField name content fields
        match skipSpaces rest with
        | '\x7d' :: rest => return (fields, rest)
        | ',' :: rest => members fuel fields (skipSpaces rest)
        | rest => .error (.expectingComma, rest)
      | rest => .error (.expectingColon, rest)
    | _ => .error (.expectingName, text)

end

/-- Read a text that holds one value and nothing else but spaces. -/
def read (input : Text) : Except ReadError Json :=
  let located (failure : Stop) : ReadError :=
    ⟨failure.1, input.length - failure.2.length⟩
  if input.head? = some '\ufeff' then .error ⟨.byteOrderMark, 0⟩
  else
    match value (input.length + 1) (skipSpaces input) with
    | .error failure => .error (located failure)
    | .ok (content, rest) =>
      match skipSpaces rest with
      | [] => .ok content
      | rest => .error (located (.extraData, rest))

end DocAudit.Json
