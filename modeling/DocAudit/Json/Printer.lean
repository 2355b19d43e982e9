import DocAudit.Json.Value

/-!
# Writing structured values

The indented form with two spaces a level and fields in the order of their names. Only printable
ASCII characters and line feeds are written: every other character is escaped by its UTF-16
units.
-/

namespace DocAudit.Json

/-- The escape of one UTF-16 unit. -/
def unitEscape (unit : Nat) : Text :=
  "\\u" ++ Text.hex 4 unit

/-- One character inside a string. -/
def escapedChar (c : Char) : Text :=
  let code := c.toNat
  if c = '"' then "\\\""
  else if c = '\\' then "\\\\"
  else if c = '\n' then "\\n"
  else if c = '\r' then "\\r"
  else if c = '\t' then "\\t"
  else if code = 12 then "\\f"
  else if code = 8 then "\\b"
  else if 32 ≤ code ∧ code < 127 then [c]
  else if code < 0x10000 then unitEscape code
  else
    unitEscape (0xD800 + (code - 0x10000) / 0x400) ++
      unitEscape (0xDC00 + (code - 0x10000) % 0x400)

/-- A string in quotation marks. -/
def escaped (text : Text) : Text :=
  "\"" ++ text.flatMap escapedChar ++ "\""

/-- A line feed and the indentation of a level. -/
def newLine (level : Nat) : Text :=
  '\n' :: List.replicate (2 * level) ' '

/-- Put items that are already written between brackets, one to a line. -/
def block (opening closing : Char) (level : Nat) (items : List Text) : Text :=
  match items with
  | [] => [opening, closing]
  | _ =>
    opening :: newLine (level + 1) ++ Text.joinWith (',' :: newLine (level + 1)) items ++
      newLine level ++ [closing]

/-- Fields with the names in ascending order. -/
def sortFields (fields : List (Text × Text)) : List (Text × Text) :=
  fields.mergeSort fun a b => Text.le a.1 b.1

mutual

/-- A value at a level of indentation. -/
def renderAt (level : Nat) : Json → Text
  | null => "null"
  | bool value => if value then "true" else "false"
  | int value => Text.ofInt value
  | real value => value.render
  | str value => escaped value
  | arr items => block '[' ']' level (renderItems (level + 1) items)
  | obj fields =>
    block '\x7b' '\x7d' level
      ((sortFields (renderFields (level + 1) fields)).map fun field =>
        escaped field.1 ++ ": " ++ field.2)

/-- The items of a list, each at a level of indentation. -/
def renderItems (level : Nat) : List Json → List Text
  | [] => []
  | item :: rest => renderAt level item :: renderItems level rest

/-- The fields of an object, each with its value at a level of indentation. -/
def renderFields (level : Nat) : List (Text × Json) → List (Text × Text)
  | [] => []
  | (name, value) :: rest => (name, renderAt level value) :: renderFields level rest

end

/-- A value in its indented form. -/
def render (value : Json) : Text :=
  renderAt 0 value

end DocAudit.Json
