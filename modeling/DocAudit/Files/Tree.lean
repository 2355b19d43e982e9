import DocAudit.Files.Fault
import DocAudit.Files.Path
import DocAudit.Text.Utf8

/-!
# File trees

A file tree is a value: the entries at their locations, and the working directory. Locations are
absolute and free of links, so an entry has exactly one. Looking a path up follows links the way
the operating system does; making directories and writing files give a new tree.
-/

namespace DocAudit

/-- What stands at a location. The target of a link is kept as it was written. -/
inductive Entry where
  | file (bytes : List UInt8)
  | directory
  | link (target : Text)
  deriving DecidableEq, Repr

/-- The names from the root directory to an entry. -/
abbrev Location := List Text

/-- A file tree. The root directory is there without an entry of its own. -/
structure FileTree where
  entries : List (Location × Entry)
  here : Location

namespace FileTree

open Files

/-- The entry at a location. -/
def get? (tree : FileTree) (location : Location) : Option Entry :=
  if location = [] then some .directory
  else (tree.entries.find? (·.1 = location)).map (·.2)

/-- Replace the entry at a location, or add one. -/
def putEntry (location : Location) (entry : Entry) :
    List (Location × Entry) → List (Location × Entry)
  | [] => [(location, entry)]
  | (other, old) :: rest =>
    if other = location then (location, entry) :: rest
    else (other, old) :: putEntry location entry rest

/-- The tree with an entry at a location. -/
def put (tree : FileTree) (location : Location) (entry : Entry) : FileTree :=
  { tree with entries := putEntry location entry tree.entries }

/-- Whether a directory stands at a location. -/
def isDirectoryAt (tree : FileTree) (location : Location) : Bool :=
  tree.get? location = some .directory

/-- The longest name that an entry may have, in bytes. -/
def nameLimit : Nat := 255

/-- The longest text of a path, in bytes. -/
def pathLimit : Nat := 4095

/-- How many links one look-up follows. -/
def linkLimit : Nat := 40

/-- A bound on the steps of a look-up: a step takes a component of the path or of a link, and
links are followed a limited number of times. -/
def stepBound (tree : FileTree) (pending : List Text) : Nat :=
  let targets := tree.entries.map fun entry =>
    match entry.2 with
    | .link target => (Text.splitOn '/' target).length + 1
    | _ => 0
  pending.length + (linkLimit + 1) * (targets.foldr (· + ·) 0 + 1)

/-- Where looking up goes on behind a link: from the root for an absolute target, else from the
directory of the link. -/
def linkStart (directory : Location) (target : Text) : Location :=
  if target.head? = some '/' then [] else directory

/-- Whether nothing but a final slash is left of a path. -/
def isFinalSlash (rest : List Text) : Bool :=
  !rest.isEmpty && rest.all (·.isEmpty)

/-- Follow components from a location. With `create` set, the last component need not exist, but
must not end in a slash. -/
def walk (tree : FileTree) (create : Bool) :
    Nat → Nat → Location → List Text → Except Reason Location
  | _, _, location, [] => .ok location
  | 0, _, _, _ :: _ => .error .tooManyLinks
  | steps + 1, links, location, name :: rest =>
    if !tree.isDirectoryAt location then .error .notDirectory
    else if name = [] ∨ name = ['.'] then walk tree create steps links location rest
    else if name = ['.', '.'] then walk tree create steps links location.dropLast rest
    else if create && isFinalSlash rest then .error .isDirectory
    else if nameLimit < (Text.Utf8.encode name).length then .error .nameTooLong
    else
      match tree.get? (location ++ [name]) with
      | none => if create ∧ rest = [] then .ok (location ++ [name]) else .error .noEntry
      | some (.link target) =>
        if links = 0 then .error .tooManyLinks
        else
          walk tree create steps (links - 1) (linkStart location target)
            (Text.splitOn '/' target ++ rest)
      | some _ => walk tree create steps links (location ++ [name]) rest

/-- Where a path begins. -/
def start (tree : FileTree) (path : Path) : Location :=
  if path.isAbsolute then [] else tree.here

/-- The location that a path denotes, behind all links. -/
def resolve (tree : FileTree) (create : Bool) (path : Path) : Except Reason Location :=
  if pathLimit < (Text.Utf8.encode path.render).length then .error .nameTooLong
  else walk tree create (tree.stepBound path.parts) linkLimit (tree.start path) path.parts

/-- Whether a path has a null character. -/
def hasNull (path : Path) : Bool :=
  path.parts.any (·.contains (Char.ofNat 0))

/-- The entry that a path denotes, behind all links. Nothing is there if the path is broken or
unusable; only a name that is too long is refused. -/
def entry? (tree : FileTree) (path : Path) : Except Fault (Option Entry) :=
  if hasNull path then .ok none
  else
    match tree.resolve false path with
    | .ok location => .ok (tree.get? location)
    | .error .nameTooLong => .error ⟨.nameTooLong, path.render⟩
    | .error _ => .ok none

/-- Whether a path denotes a regular file. -/
def isFile (tree : FileTree) (path : Path) : Except Fault Bool := do
  match ← tree.entry? path with
  | some (.file _) => return true
  | _ => return false

/-- Whether a path denotes a directory. -/
def isDirectory (tree : FileTree) (path : Path) : Except Fault Bool := do
  return (← tree.entry? path) = some .directory

/-- The bytes of the file that a path denotes. -/
def readBytes (tree : FileTree) (path : Path) : Except AccessError (List UInt8) :=
  if hasNull path then .error .nullCharacter
  else
    match tree.resolve false path with
    | .error reason => .error (.refused ⟨reason, path.render⟩)
    | .ok location =>
      match tree.get? location with
      | some (.file bytes) => .ok bytes
      | some .directory => .error (.refused ⟨.isDirectory, path.render⟩)
      | _ => .error (.refused ⟨.noEntry, path.render⟩)

/-- Follow components without asking whether they exist: links are replaced by their targets and
double dots drop the last component. -/
def canonicalFrom (tree : FileTree) : Nat → Location → List Text → Location
  | _, location, [] => location
  | 0, location, _ :: _ => location
  | steps + 1, location, name :: rest =>
    if name = [] ∨ name = ['.'] then canonicalFrom tree steps location rest
    else if name = ['.', '.'] then canonicalFrom tree steps location.dropLast rest
    else
      match tree.get? (location ++ [name]) with
      | some (.link target) =>
        canonicalFrom tree steps (linkStart location target) (Text.splitOn '/' target ++ rest)
      | _ => canonicalFrom tree steps (location ++ [name]) rest

/-- The location that identifies a path, whether or not something is there. -/
def canonical (tree : FileTree) (path : Path) : Except AccessError Location :=
  if hasNull path then .error .nullCharacter
  else .ok (tree.canonicalFrom (tree.stepBound path.parts) (tree.start path) path.parts)

/-- Make one directory, whose parent must exist. -/
def makeDirectory (tree : FileTree) (path : Path) : Except AccessError FileTree :=
  let refuse (reason : Reason) : Except AccessError FileTree :=
    .error (.refused ⟨reason, path.render⟩)
  if hasNull path then .error .nullCharacter
  else
    match path.parts.getLast? with
    | none => refuse .alreadyExists
    | some name =>
      match tree.resolve false path.parent with
      | .error reason => refuse reason
      | .ok location =>
        if !tree.isDirectoryAt location then refuse .notDirectory
        else if name = ['.', '.'] then refuse .alreadyExists
        else if nameLimit < (Text.Utf8.encode name).length then refuse .nameTooLong
        else if (tree.get? (location ++ [name])).isSome then refuse .alreadyExists
        else .ok (tree.put (location ++ [name]) .directory)

/-- Make one directory, or be content with one that is there. -/
def ensureDirectory (tree : FileTree) (path : Path) : FileTree × Except AccessError Unit :=
  match tree.makeDirectory path with
  | .ok made => (made, .ok ())
  | .error (.refused fault) =>
    match tree.isDirectory path with
    | .ok true => (tree, .ok ())
    | .ok false => (tree, .error (.refused fault))
    | .error other => (tree, .error (.refused other))
  | .error error => (tree, .error error)

/-- Make a directory and those above it that are missing. The first argument bounds the number
of components. Directories made before a failure stay. -/
def ensureAncestors : Nat → FileTree → Path → FileTree × Except AccessError Unit
  | 0, tree, path => tree.ensureDirectory path
  | depth + 1, tree, path =>
    match tree.makeDirectory path with
    | .error (.refused ⟨.noEntry, text⟩) =>
      if path.parent = path then (tree, .error (.refused ⟨.noEntry, text⟩))
      else
        match ensureAncestors depth tree path.parent with
        | (tree, .ok ()) => tree.ensureDirectory path
        | failure => failure
    | _ => tree.ensureDirectory path

/-- Make a directory and those above it that are missing. -/
def makeDirectories (tree : FileTree) (path : Path) : FileTree × Except AccessError Unit :=
  ensureAncestors (path.parts.length + 1) tree path

/-- Write a file, which is made if it is not there. -/
def writeBytes (tree : FileTree) (path : Path) (bytes : List UInt8) :
    Except AccessError FileTree :=
  let refuse (reason : Reason) : Except AccessError FileTree :=
    .error (.refused ⟨reason, path.render⟩)
  if hasNull path then .error .nullCharacter
  else
    match tree.resolve true path with
    | .error reason => refuse reason
    | .ok location =>
      if tree.isDirectoryAt location then refuse .isDirectory
      else .ok (tree.put location (.file bytes))

/-- What lies below a location, as names relative to it: every entry with its names. -/
def below (tree : FileTree) (location : Location) : List (List Text × Entry) :=
  tree.entries.filterMap fun (other, entry) =>
    match Path.dropParts other location with
    | some (name :: names) => some (name :: names, entry)
    | _ => none

/-- The files below a directory, as names relative to it, where directories behind links are
entered too. The first argument bounds the depth. -/
def filesThroughLinks (tree : FileTree) : Nat → Location → List (List Text)
  | 0, _ => []
  | depth + 1, location =>
    let children := (tree.below location).filter (·.1.length = 1)
    children.flatMap fun (names, _) =>
      let path : Path := ⟨.single, location ++ names⟩
      match tree.resolve false path with
      | .error _ => []
      | .ok target =>
        match tree.get? target with
        | some (.file _) => [names]
        | some .directory => (filesThroughLinks tree depth target).map (names ++ ·)
        | _ => []

/-- The regular files, each with its location and bytes. -/
def files (tree : FileTree) : List (Location × List UInt8) :=
  tree.entries.filterMap fun (location, entry) =>
    match entry with
    | .file bytes => some (location, bytes)
    | _ => none

end FileTree

end DocAudit
