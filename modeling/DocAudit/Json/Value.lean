import DocAudit.Number.Shortest
import DocAudit.Text.Quoted

/-!
# Structured values

Values of an options file: scalars, lists and objects. Integers are unbounded and apart from
floating-point numbers, and an object keeps its fields in the order in which their names first
occurred.
-/

namespace DocAudit

/-- A structured value. -/
inductive Json where
  | null
  | bool (value : Bool)
  | int (value : Int)
  | real (value : Number.Binary64)
  | str (value : Text)
  | arr (items : List Json)
  | obj (fields : List (Text × Json))

namespace Json

/-- Set a field. A name that is already present keeps its place and takes the new value; a new
name goes to the end. -/
def setField (name : Text) (value : Json) : List (Text × Json) → List (Text × Json)
  | [] => [(name, value)]
  | (other, old) :: rest =>
    if other = name then (other, value) :: rest else (other, old) :: setField name value rest

/-- The value of a field. -/
def field? (name : Text) : List (Text × Json) → Option Json
  | [] => none
  | (other, value) :: rest => if other = name then some value else field? name rest

mutual

/-- How a value is shown in messages. -/
def display : Json → Text
  | null => "None"
  | bool value => if value then "True" else "False"
  | int value => Text.ofInt value
  | real value => value.render
  | str value => Text.quoted value
  | arr items => "[" ++ Text.joinWith ", " (displayItems items) ++ "]"
  | obj fields => "\x7b" ++ Text.joinWith ", " (displayFields fields) ++ "\x7d"

/-- The items of a list, each as it is shown in messages. -/
def displayItems : List Json → List Text
  | [] => []
  | item :: rest => display item :: displayItems rest

/-- The fields of an object, each as it is shown in messages. -/
def displayFields : List (Text × Json) → List Text
  | [] => []
  | (name, value) :: rest => (Text.quoted name ++ ": " ++ display value) :: displayFields rest

end

/-- A value in running text: a string stands for itself, anything else as in `display`. -/
def plain : Json → Text
  | str value => value
  | value => display value

/-- The name of the kind of a value. -/
def kindName : Json → Text
  | null => "NoneType"
  | bool _ => "bool"
  | int _ => "int"
  | real _ => "float"
  | str _ => "str"
  | arr _ => "list"
  | obj _ => "dict"

end Json

end DocAudit
