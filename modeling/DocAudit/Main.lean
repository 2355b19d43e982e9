import DocAudit.Run

/-!
# The command

The files that a command line can reach are read into a file tree, the program runs on that tree,
and what the run changed is written back. Nothing is decided here.
-/

namespace DocAudit.Disk

/-- The location of an absolute path. -/
def locationOf (path : String) : Location :=
  Path.partsOf path.toList

/-- The path of a location. -/
def pathOf (location : Location) : String :=
  String.ofList ('/' :: Text.joinWith "/" location)

/-- A location with the directories above it. -/
def withAncestors (location : Location) (entry : Entry) : List (Location × Entry) :=
  (location, entry) :: (List.range location.length).map fun count =>
    (location.take count, .directory)

/-- What stands at a path, and the paths below it. A link in a directory is kept as a link to where
it leads. -/
def inspect (path : String) : IO (List (Location × Entry) × List String) := do
  let real ← IO.FS.realPath path
  let location := locationOf real.toString
  match (← real.metadata).type with
  | .file => return ([(location, .file (← IO.FS.readBinFile real).toList)], [])
  | .dir =>
    let items ← real.readDir
    let mut links : List (Location × Entry) := []
    for item in items do
      if (← item.path.symlinkMetadata).type matches .symlink then
        let target ← IO.FS.realPath item.path
        links := (location ++ [item.fileName.toList], .link target.toString.toList) :: links
    return ((location, .directory) :: links, items.toList.map (·.path.toString))
  | _ => return ([], [])

/-- Read what stands at the given paths and below them, each location once. What cannot be read is
left out. -/
partial def load (found : List (Location × Entry)) :
    List String → IO (List (Location × Entry))
  | [] => return found
  | path :: pending => do
    let (entries, below) ← try inspect path catch _ => pure ([], [])
    if entries.any fun entry => found.any (·.1 = entry.1) then load found pending
    else load (entries ++ found) (below ++ pending)

/-- The paths that a word of the command line may name. -/
def namedPaths (word : String) : List String :=
  match CommandLine.splitValue word.toList with
  | (_, some value) => [word, String.ofList value]
  | (_, none) => [word]

/-- The file tree that a command line sees. -/
def treeFor (words : List String) : IO FileTree := do
  let here ← IO.FS.realPath "."
  let place := locationOf here.toString
  let found ← load [] (here.toString :: words.flatMap namedPaths)
  return ⟨found ++ found.flatMap fun entry => withAncestors entry.1.dropLast .directory, place⟩

/-- Write the entries of a tree that are new or changed. -/
def save (before after : FileTree) : IO Unit := do
  for (location, entry) in after.entries do
    if before.get? location ≠ some entry then
      match entry with
      | .directory => IO.FS.createDirAll (pathOf location)
      | .file bytes => IO.FS.writeBinFile (pathOf location) ⟨bytes.toArray⟩
      | .link _ => pure ()

end DocAudit.Disk

open DocAudit in
/-- Run the program on the words of the command line. -/
def main (words : List String) : IO UInt32 := do
  let tree ← Disk.treeFor words
  let result := run (words.map String.toList) tree
  Disk.save tree result.tree
  for record in result.records do
    if record.level ≠ .debug then IO.println (String.ofList record.render)
  IO.print (String.ofList (result.usageOutput ++ result.stdout))
  IO.eprint (String.ofList (result.usageErrors ++ result.stderr))
  match result.outcome with
  | .ok code => return code.toUInt32
  | .error failure =>
    IO.eprintln (String.ofList failure.message)
    return 1
