import DocAudit.Text.Basic

/-!
# Paths

A path is its components, with the slashes in front of them. Dots for the same directory and
repeated or trailing slashes carry no meaning and are dropped; double dots are kept, because what
they mean depends on links.
-/

namespace DocAudit

/-- What stands in front of the components of a path. Exactly two slashes are kept apart from
one. -/
inductive PathRoot where
  | relative
  | single
  | double
  deriving DecidableEq, Repr

/-- A path. -/
structure Path where
  root : PathRoot
  parts : List Text
  deriving DecidableEq, Repr

namespace Path

/-- The components that a text names. -/
def partsOf (text : Text) : List Text :=
  (Text.splitOn '/' text).filter fun part => part ≠ [] ∧ part ≠ ['.']

/-- The path that a text names. -/
def ofText (text : Text) : Path :=
  let root :=
    match text.takeWhile (· == '/') with
    | [] => PathRoot.relative
    | [_, _] => .double
    | _ => .single
  ⟨root, partsOf text⟩

/-- A path as text. The relative path without components is a dot. -/
def render (path : Path) : Text :=
  match path.root, path.parts with
  | .relative, [] => "."
  | .relative, parts => Text.joinWith "/" parts
  | .single, parts => '/' :: Text.joinWith "/" parts
  | .double, parts => '/' :: '/' :: Text.joinWith "/" parts

/-- Whether a path begins at the root directory. -/
def isAbsolute (path : Path) : Bool :=
  path.root ≠ .relative

/-- A path seen from another one: an absolute path stands for itself. -/
def join (base path : Path) : Path :=
  if path.isAbsolute then path else { base with parts := base.parts ++ path.parts }

/-- Extend a path by components. -/
def append (path : Path) (parts : List Text) : Path :=
  { path with parts := path.parts ++ parts }

/-- The path without its last component, if it has one. -/
def parent (path : Path) : Path :=
  { path with parts := path.parts.dropLast }

/-- The last component. -/
def name (path : Path) : Text :=
  path.parts.getLast?.getD []

/-- The ending of a file name: from its last dot, unless that is its first or last character. -/
def suffixOf (name : Text) : Text :=
  let ending := name.reverse.takeWhile (· != '.')
  if ending.length + 1 < name.length ∧ 0 < ending.length then '.' :: ending.reverse else []

/-- The ending of the last component. -/
def suffix (path : Path) : Text :=
  suffixOf path.name

/-- What remains of a list of components after those of another one. -/
def dropParts : List Text → List Text → Option (List Text)
  | rest, [] => some rest
  | [], _ :: _ => none
  | part :: rest, expected :: more => if part = expected then dropParts rest more else none

/-- The components of a path below a base, by comparison of components alone. -/
def relativeTo? (path base : Path) : Option (List Text) :=
  if path.root = base.root then dropParts path.parts base.parts else none

/-- Component-wise order by code point. -/
def partsLe : List Text → List Text → Bool
  | [], _ => true
  | _ :: _, [] => false
  | part :: rest, other :: more =>
    if part = other then partsLe rest more else Text.le part other

/-- Order of paths with one root. -/
def le (path other : Path) : Bool :=
  partsLe path.parts other.parts

end Path

end DocAudit
