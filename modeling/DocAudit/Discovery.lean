import DocAudit.Files.Content
import DocAudit.Ignore.RuleSet
import DocAudit.Log

/-!
# Discovery

From targets to the files that are scanned. A target with wildcards is matched against all files
below the root, in the manner of an ignore rule; a directory stands for the files below it with
one of the wanted suffixes; any other target is kept as it is. Files of the first two kinds that
the ignore file of the root ignores are left out. A file that several targets give is listed
once, where it comes first.
-/

namespace DocAudit

/-- Why discovery is refused. -/
inductive DiscoveryError where
  | rootNotDirectory (root : Path)
  | unreadableIgnoreFile (path : Path) (reason : Text)

/-- The wording of a refusal. -/
def DiscoveryError.message : DiscoveryError → Text
  | rootNotDirectory root => "Root path is not a directory: " ++ root.render
  | unreadableIgnoreFile path reason => "Failed to read " ++ path.render ++ ": " ++ reason

/-- Why discovery fails: it is refused, or a rule or a path is unusable. -/
inductive DiscoveryFailure where
  | refused (error : DiscoveryError)
  | badRule (error : Ignore.RuleError)
  | access (error : Files.AccessError)

namespace Discovery

/-- What to look for. -/
structure Query where
  targets : List Text
  root : Path
  extensions : List Text
  respectIgnore : Bool

/-- The suffixes that are wanted by default. -/
def defaultExtensions : List Text := [".js"]

/-- The name of the ignore file. -/
def ignoreFileName : Text := ".gitignore"

/-- Whether a target has wildcards. -/
def hasWildcard (target : Text) : Bool :=
  target.any fun c => c == '*' || c == '?' || c == '['

/-- The rules of the ignore file of the root; none if there is no such file. -/
def loadRules (tree : FileTree) (root : Path) :
    Except DiscoveryFailure (Option Ignore.RuleSet) := do
  let path := root.append [ignoreFileName]
  match tree.isFile path with
  | .error fault => .error (.access (.refused fault))
  | .ok false => return none
  | .ok true =>
    match tree.readText path with
    | .error (.access (.refused fault)) =>
      .error (.refused (.unreadableIgnoreFile path fault.message))
    | .error (.access .nullCharacter) => .error (.access .nullCharacter)
    | .error (.decoding fault) => .error (.refused (.unreadableIgnoreFile path fault.message))
    | .ok text =>
      match Ignore.rulesOf (Text.lines text) with
      | .error error => .error (.badRule error)
      | .ok rules => return some rules

/-- A path relative to the root, as the rules see it. -/
def relativeText (names : List Text) : Text :=
  Path.render ⟨.relative, names⟩

/-- Whether the rules leave a path out: it lies below the root, by its components, and the rules
ignore it there. -/
def ignoredAs? (root : Path) (rules : Option Ignore.RuleSet) (path : Path) : Option Text := do
  let rules ← rules
  let names ← path.relativeTo? root
  let relative := relativeText names
  if Ignore.ignores rules relative then some relative else none

/-- What is logged about a path that is left out. -/
def skipRecord (relative : Text) : Record :=
  ⟨.debug, .discovery, "Skipping ignored file (path=" ++ relative ++ ")"⟩

/-- Candidates in ascending order without the ignored ones, and what is logged about those. -/
def keepWanted (root : Path) (rules : Option Ignore.RuleSet) (candidates : List Path) :
    List Record × List Path :=
  let sorted := candidates.mergeSort Path.le
  ((sorted.filterMap (ignoredAs? root rules)).map skipRecord,
    sorted.filter fun path => (ignoredAs? root rules path).isNone)

/-- Names with double dots resolved by dropping the name before them. -/
def collapseDots (names : List Text) : List Text :=
  let step (kept : List Text) (name : Text) : List Text :=
    if name = ['.', '.'] then kept.drop 1 else name :: kept
  (names.foldl step []).reverse

/-- The path from which the files below a root are listed: absolute, and with a slash at the end. -/
def walkBase (tree : FileTree) (root : Path) : Path :=
  ⟨.single, collapseDots (tree.start root ++ root.parts) ++ [[]]⟩

/-- The files below the root that a wildcard target matches. -/
def matchingFiles (tree : FileTree) (root : Path) (target : Text) :
    Except DiscoveryFailure (List Path) := do
  match Ignore.rulesOf [target] with
  | .error error => .error (.badRule error)
  | .ok rules =>
    match tree.resolve false (walkBase tree root) with
    | .error reason => .error (.access (.refused ⟨reason, (walkBase tree root).render⟩))
    | .ok location =>
      let names := tree.filesThroughLinks (tree.entries.length + 1) location
      return (names.filter fun names => Ignore.ignores rules (relativeText names)).map root.append

/-- Whether an entry is a file, or a link that leads to one. -/
def leadsToFile (tree : FileTree) (location : Location) : Entry → Bool
  | .file _ => true
  | .directory => false
  | .link _ =>
    match tree.resolve false ⟨.single, location⟩ with
    | .ok target =>
      match tree.get? target with
      | some (.file _) => true
      | _ => false
    | .error _ => false

/-- The files below a directory with one of the wanted suffixes. Directories behind links are
not entered. -/
def filesBelow (tree : FileTree) (extensions : List Text) (path : Path) : List Path :=
  match tree.resolve false path with
  | .error _ => []
  | .ok location =>
    ((tree.below location).filter fun (names, entry) =>
      leadsToFile tree (location ++ names) entry &&
        extensions.contains (Path.suffixOf (names.getLast?.getD []))).map fun (names, _) =>
      path.append names

/-- Whether an entry is a link behind which a name is too long. -/
def isTooLong (tree : FileTree) (location : Location) : Entry → Bool
  | .link _ =>
    match tree.resolve false ⟨.single, location⟩ with
    | .error .nameTooLong => true
    | _ => false
  | _ => false

/-- The links below a location behind which a name is too long. Those in a directory come before
those further down. -/
def tooLongLinks (tree : FileTree) (location : Location) : List (List Text × Entry) :=
  let links := (tree.below location).filter fun (names, entry) =>
    isTooLong tree (location ++ names) entry
  links.mergeSort fun link other => link.1.length ≤ other.1.length

/-- The link below a directory that cannot be followed, if there is one. -/
def tooLongBelow? (tree : FileTree) (path : Path) : Option Files.Fault :=
  match tree.resolve false path with
  | .error _ => none
  | .ok location => (tooLongLinks tree location).head?.map fun (names, _) =>
    ⟨.nameTooLong, (path.append names).render⟩

/-- The paths that a target stands for, and what is logged on the way. -/
def expand (tree : FileTree) (query : Query) (rules : Option Ignore.RuleSet) (target : Text) :
    Except DiscoveryFailure (List Record × List Path) :=
  if hasWildcard target then do
    let candidates ← matchingFiles tree query.root target
    return keepWanted query.root rules candidates
  else
    let path := query.root.join (Path.ofText target)
    match tree.isDirectory path with
    | .error fault => .error (.access (.refused fault))
    | .ok true =>
      match tooLongBelow? tree path with
      | some fault => .error (.access (.refused fault))
      | none => .ok (keepWanted query.root rules (filesBelow tree query.extensions path))
    | .ok false => .ok ([], [path])

/-- Paths with the locations that identify them. -/
def locateAll (tree : FileTree) : List Path → Except Files.AccessError (List (Path × Location))
  | [] => .ok []
  | path :: rest => do
    let location ← tree.canonical path
    let others ← locateAll tree rest
    return (path, location) :: others

/-- The paths of all targets in order, with their locations. -/
def gather (tree : FileTree) (query : Query) (rules : Option Ignore.RuleSet) :
    List Text → List Record × Except DiscoveryFailure (List (Path × Location))
  | [] => ([], .ok [])
  | target :: rest =>
    match expand tree query rules target with
    | .error failure => ([], .error failure)
    | .ok (records, paths) =>
      match locateAll tree paths with
      | .error error => (records, .error (.access error))
      | .ok located =>
        let (others, result) := gather tree query rules rest
        (records ++ others, (located ++ ·) <$> result)

/-- The paths whose location is neither among the given ones nor that of an earlier path. -/
def firstOccurrences : List Location → List (Path × Location) → List Path
  | _, [] => []
  | seen, (path, location) :: rest =>
    if seen.contains location then firstOccurrences seen rest
    else path :: firstOccurrences (location :: seen) rest

/-- What is logged at the end. -/
def doneRecord (targets files : Nat) : Record :=
  ⟨.info, .discovery, "File discovery completed (targets=" ++ Text.ofNat targets ++ " files=" ++
    Text.ofNat files ++ ")"⟩

/-- The rules that apply to a query. -/
def rulesFor (tree : FileTree) (query : Query) :
    Except DiscoveryFailure (Option Ignore.RuleSet) :=
  match tree.isDirectory query.root with
  | .error fault => .error (.access (.refused fault))
  | .ok false => .error (.refused (.rootNotDirectory query.root))
  | .ok true => if query.respectIgnore then loadRules tree query.root else .ok none

/-- The files that a query finds, and what is logged on the way. -/
def run (tree : FileTree) (query : Query) :
    List Record × Except DiscoveryFailure (List Path) :=
  match rulesFor tree query with
  | .error failure => ([], .error failure)
  | .ok rules =>
    match gather tree query rules query.targets with
    | (records, .error failure) => (records, .error failure)
    | (records, .ok located) =>
      let paths := firstOccurrences [] located
      (records ++ [doneRecord query.targets.length paths.length], .ok paths)

end Discovery

end DocAudit
