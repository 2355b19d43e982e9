import DocAudit.Discovery
import DocAudit.Proofs.Text.Cutting

/-!
# When discovery fails

Discovery is refused if the root is no directory or its ignore file cannot be read. Beyond that it
fails, without being refused, on a path that is too long or has a null character, and on a line or a
wildcard target that gives no rule. The conditions here speak of the root, the lines and the targets
and not of the order in which discovery comes across them.
-/

namespace DocAudit

/-- What the result of a step says about its input, if failures are refusals or not. A step without
a failure rules out both conditions; a failure means that exactly its own condition holds. -/
def Decides {ε α : Type} (isRefusal : ε → Bool) (escapes refused : Prop) : Except ε α → Prop
  | .ok _ => ¬ escapes ∧ ¬ refused
  | .error failure => (escapes ↔ isRefusal failure = false) ∧ (refused ↔ isRefusal failure = true)

namespace FileTree

variable {tree : FileTree} {path : Path}

/-- A path that cannot be looked up because it or one of its names is too long. -/
def TooLong (tree : FileTree) (path : Path) : Prop :=
  hasNull path = false ∧ tree.resolve false path = .error .nameTooLong

instance (tree : FileTree) (path : Path) : Decidable (tree.TooLong path) :=
  inferInstanceAs (Decidable (_ ∧ _))

theorem exists_entry?_error_iff :
    (∃ fault, tree.entry? path = .error fault) ↔ tree.TooLong path := by
  unfold entry? TooLong
  cases hasNull path with
  | true => simp
  | false =>
      simp only [Bool.false_eq_true, if_false, true_and]
      split <;> simp_all

theorem exists_isFile_error_iff :
    (∃ fault, tree.isFile path = .error fault) ↔ tree.TooLong path := by
  rw [← exists_entry?_error_iff, isFile]
  cases tree.entry? path with
  | error fault => simp [bind, Except.bind]
  | ok entry =>
      simp only [bind, Except.bind]
      split <;> simp [pure, Except.pure]

theorem exists_isDirectory_error_iff :
    (∃ fault, tree.isDirectory path = .error fault) ↔ tree.TooLong path := by
  rw [← exists_entry?_error_iff, isDirectory]
  cases tree.entry? path <;> simp [bind, Except.bind, pure, Except.pure]

/-- A path to a file has no null character. -/
theorem hasNull_eq_false_of_isFile (file : tree.isFile path = .ok true) :
    hasNull path = false := by
  cases null : hasNull path with
  | false => rfl
  | true => simp [isFile, entry?, null, bind, Except.bind, pure, Except.pure] at file

theorem readBytes_eq_nullCharacter_iff (tree : FileTree) (path : Path) :
    tree.readBytes path = .error .nullCharacter ↔ hasNull path := by
  rw [readBytes]
  cases hasNull path with
  | true => simp
  | false =>
      simp only [Bool.false_eq_true, if_false, iff_false]
      split
      · simp
      · split <;> simp

theorem readText_eq_nullCharacter_iff (tree : FileTree) (path : Path) :
    tree.readText path = .error (.access .nullCharacter) ↔ hasNull path := by
  rw [← readBytes_eq_nullCharacter_iff tree, readText]
  cases tree.readBytes path with
  | error error => simp
  | ok bytes =>
      simp only [reduceCtorEq, iff_false]
      split <;> simp

end FileTree

namespace Ignore

/-- A line that is not empty and no rule, although it looks like one. -/
def BadLine (line : Text) : Prop :=
  line ≠ [] ∧ ∃ error, ruleOf? line = .error error

/-- Lines give no rules exactly if one of them is bad. -/
theorem exists_rulesOf_error_iff (lines : List Text) :
    (∃ error, rulesOf lines = .error error) ↔ ∃ line ∈ lines, BadLine line := by
  induction lines with
  | nil => simp [rulesOf]
  | cons line rest ih =>
      simp only [List.mem_cons, exists_eq_or_imp, ← ih]
      rw [BadLine, rulesOf]
      by_cases empty : line = []
      · simp [empty]
      · rw [if_neg empty]
        cases ruleOf? line with
        | error error => simp [bind, Except.bind, empty]
        | ok rule =>
            cases rulesOf rest <;> simp [bind, Except.bind, pure, Except.pure]

end Ignore

/-- Whether a failure of discovery is a refusal. -/
def DiscoveryFailure.isRefusal : DiscoveryFailure → Bool
  | .refused _ => true
  | _ => false

namespace Discovery

variable {tree : FileTree} {query : Query} {root : Path} {rules : Option Ignore.RuleSet}
  {target : Text}

/-- The path of the ignore file of a root. -/
def ignorePath (root : Path) : Path :=
  root.append [ignoreFileName]

/-- An ignore file that makes discovery fail: its path is too long, or it holds a bad line. -/
def IgnoreFileEscapes (tree : FileTree) (root : Path) : Prop :=
  tree.TooLong (ignorePath root) ∨
    ∃ text, tree.isFile (ignorePath root) = .ok true ∧ tree.readText (ignorePath root) = .ok text ∧
      ∃ line ∈ Text.lines text, Ignore.BadLine line

/-- An ignore file that is there but cannot be read as text. -/
def IgnoreFileRefused (tree : FileTree) (root : Path) : Prop :=
  tree.isFile (ignorePath root) = .ok true ∧
    ∃ error, tree.readText (ignorePath root) = .error error

theorem loadRules_decides (tree : FileTree) (root : Path) :
    Decides DiscoveryFailure.isRefusal (IgnoreFileEscapes tree root) (IgnoreFileRefused tree root)
      (loadRules tree root) := by
  rw [loadRules, ← ignorePath, IgnoreFileEscapes, IgnoreFileRefused,
    ← FileTree.exists_isFile_error_iff]
  cases file : tree.isFile (ignorePath root) with
  | error fault => simp [Decides, DiscoveryFailure.isRefusal]
  | ok there =>
      cases there with
      | false => simp [Decides, pure, Except.pure]
      | true =>
          have usable := FileTree.hasNull_eq_false_of_isFile file
          cases read : tree.readText (ignorePath root) with
          | error error =>
              cases error with
              | access error =>
                  cases error with
                  | refused fault => simp [Decides, DiscoveryFailure.isRefusal]
                  | nullCharacter =>
                      rw [FileTree.readText_eq_nullCharacter_iff, usable] at read
                      exact absurd read Bool.false_ne_true
              | decoding fault => simp [Decides, DiscoveryFailure.isRefusal]
          | ok text =>
              have bad := Ignore.exists_rulesOf_error_iff (Text.lines text)
              cases found : Ignore.rulesOf (Text.lines text) with
              | error error =>
                  rw [found] at bad
                  simpa [Decides, DiscoveryFailure.isRefusal, found] using bad
              | ok rules =>
                  rw [found] at bad
                  simpa [Decides, pure, Except.pure, found] using bad

/-- A root from which discovery cannot start: its path is too long, or its ignore file makes
discovery fail. -/
def RootEscapes (tree : FileTree) (query : Query) : Prop :=
  tree.TooLong query.root ∨ tree.isDirectory query.root = .ok true ∧ query.respectIgnore ∧
    IgnoreFileEscapes tree query.root

/-- A root that is refused: it is no directory, or its ignore file cannot be read. -/
def RootRefused (tree : FileTree) (query : Query) : Prop :=
  tree.isDirectory query.root = .ok false ∨ tree.isDirectory query.root = .ok true ∧
    query.respectIgnore ∧ IgnoreFileRefused tree query.root

theorem rulesFor_decides (tree : FileTree) (query : Query) :
    Decides DiscoveryFailure.isRefusal (RootEscapes tree query) (RootRefused tree query)
      (rulesFor tree query) := by
  rw [rulesFor, RootEscapes, RootRefused, ← FileTree.exists_isDirectory_error_iff]
  cases directory : tree.isDirectory query.root with
  | error fault => simp [Decides, DiscoveryFailure.isRefusal]
  | ok there =>
      cases there with
      | false => simp [Decides, DiscoveryFailure.isRefusal]
      | true =>
          cases respect : query.respectIgnore with
          | false => simp [Decides]
          | true => simpa using loadRules_decides tree query.root

/-- A directory with a link below it behind which a name is too long. -/
def HasTooLongLink (tree : FileTree) (path : Path) : Prop :=
  ∃ location names target, tree.resolve false path = .ok location ∧
    (names, .link target) ∈ tree.below location ∧
    tree.resolve false ⟨.single, location ++ names⟩ = .error .nameTooLong

theorem isTooLong_iff {location : Location} {entry : Entry} :
    isTooLong tree location entry ↔
      ∃ link, entry = .link link ∧ tree.resolve false ⟨.single, location⟩ = .error .nameTooLong := by
  cases entry with
  | link link =>
      rw [isTooLong]
      split <;> simp_all
  | _ => simp [isTooLong]

theorem mem_tooLongLinks_iff {location : Location} {names : List Text} {entry : Entry} :
    (names, entry) ∈ tooLongLinks tree location ↔
      (names, entry) ∈ tree.below location ∧ isTooLong tree (location ++ names) entry := by
  rw [tooLongLinks, List.mem_mergeSort, List.mem_filter]

theorem exists_tooLongBelow?_iff {path : Path} :
    (∃ fault, tooLongBelow? tree path = some fault) ↔ HasTooLongLink tree path := by
  rw [tooLongBelow?]
  cases resolved : tree.resolve false path with
  | error reason => simp [HasTooLongLink, resolved]
  | ok location =>
      constructor
      · rintro ⟨fault, found⟩
        obtain ⟨⟨names, entry⟩, first, -⟩ := Option.map_eq_some_iff.mp found
        obtain ⟨below, unusable⟩ := mem_tooLongLinks_iff.mp (List.mem_of_mem_head? first)
        obtain ⟨link, rfl, long⟩ := isTooLong_iff.mp unusable
        exact ⟨location, names, link, resolved, below, long⟩
      · rintro ⟨other, names, link, again, below, long⟩
        obtain rfl := Except.ok.inj (resolved.symm.trans again)
        have mem := mem_tooLongLinks_iff.mpr ⟨below, isTooLong_iff.mpr ⟨link, rfl, long⟩⟩
        have first := List.head?_eq_some_head (List.ne_nil_of_mem mem)
        exact ⟨_, Option.map_eq_some_iff.mpr ⟨_, first, rfl⟩⟩

/-- A target that stands for no list of paths: a wildcard target that gives no rule or is matched
from nowhere, or a plain one whose path is too long or leads to a directory with a link behind which
a name is too long. -/
def TargetBroken (tree : FileTree) (query : Query) (target : Text) : Prop :=
  if hasWildcard target then
    Ignore.BadLine target ∨ ∃ reason, tree.resolve false (walkBase tree query.root) = .error reason
  else
    tree.TooLong (query.root.join (Path.ofText target)) ∨
      tree.isDirectory (query.root.join (Path.ofText target)) = .ok true ∧
        HasTooLongLink tree (query.root.join (Path.ofText target))

/-- A target that makes discovery fail: it stands for no list of paths, or for one that has a null
character. -/
def TargetEscapes (tree : FileTree) (query : Query) (rules : Option Ignore.RuleSet)
    (target : Text) : Prop :=
  TargetBroken tree query target ∨ ∃ records paths, expand tree query rules target =
    .ok (records, paths) ∧ ∃ path ∈ paths, FileTree.hasNull path

theorem matchingFiles_decides (tree : FileTree) (query : Query) (wildcard : hasWildcard target) :
    Decides DiscoveryFailure.isRefusal (TargetBroken tree query target) False
      (matchingFiles tree query.root target) := by
  have bad := Ignore.exists_rulesOf_error_iff [target]
  simp only [List.mem_singleton, exists_eq_left] at bad
  rw [matchingFiles, TargetBroken, if_pos wildcard, ← bad]
  cases found : Ignore.rulesOf [target] with
  | error error => simp [Decides, DiscoveryFailure.isRefusal]
  | ok rules =>
      cases resolved : tree.resolve false (walkBase tree query.root) with
      | error reason => simp [Decides, DiscoveryFailure.isRefusal]
      | ok location => simp [Decides, pure, Except.pure]

/-- A target is expanded unless it is broken, and is never refused. -/
theorem expand_decides (tree : FileTree) (query : Query) (rules : Option Ignore.RuleSet)
    (target : Text) :
    Decides DiscoveryFailure.isRefusal (TargetBroken tree query target) False
      (expand tree query rules target) := by
  by_cases wildcard : hasWildcard target
  · have decided := matchingFiles_decides tree query wildcard
    rw [expand, if_pos wildcard]
    cases found : matchingFiles tree query.root target with
    | error failure =>
        rw [found] at decided
        exact decided
    | ok candidates =>
        rw [found] at decided
        exact decided
  · rw [expand, if_neg wildcard, TargetBroken, if_neg wildcard,
      ← FileTree.exists_isDirectory_error_iff]
    cases directory : tree.isDirectory (query.root.join (Path.ofText target)) with
    | error fault => simp [Decides, DiscoveryFailure.isRefusal, directory]
    | ok there =>
        rw [← exists_tooLongBelow?_iff]
        cases there with
        | false => simp [Decides, directory]
        | true =>
            cases broken : tooLongBelow? tree (query.root.join (Path.ofText target)) <;>
              simp [Decides, DiscoveryFailure.isRefusal, directory, broken]

/-- Paths can be located unless one has a null character. -/
theorem exists_locateAll_error_iff (tree : FileTree) (paths : List Path) :
    (∃ error, locateAll tree paths = .error error) ↔ ∃ path ∈ paths, FileTree.hasNull path := by
  induction paths with
  | nil => simp [locateAll]
  | cons path rest ih =>
      simp only [List.mem_cons, exists_eq_or_imp, ← ih]
      rw [locateAll, FileTree.canonical]
      cases FileTree.hasNull path with
      | true => simp [bind, Except.bind]
      | false => cases locateAll tree rest <;> simp [bind, Except.bind, pure, Except.pure]

/-- A target that was expanded makes discovery fail exactly if one of its paths has a null
character. -/
theorem targetEscapes_iff_of_expand {records : List Record} {paths : List Path}
    (expanded : expand tree query rules target = .ok (records, paths)) :
    TargetEscapes tree query rules target ↔ ∃ path ∈ paths, FileTree.hasNull path := by
  have decided := expand_decides tree query rules target
  rw [expanded] at decided
  rw [TargetEscapes, expanded]
  constructor
  · rintro (broken | ⟨_, _, same, null⟩)
    · exact absurd broken decided.1
    · obtain ⟨rfl, rfl⟩ := Prod.mk.inj (Except.ok.inj same)
      exact null
  · intro null
    exact .inr ⟨records, paths, rfl, null⟩

/-- Targets are gathered unless one of them makes discovery fail, and are never refused. -/
theorem gather_decides (tree : FileTree) (query : Query) (rules : Option Ignore.RuleSet)
    (targets : List Text) :
    Decides DiscoveryFailure.isRefusal (∃ target ∈ targets, TargetEscapes tree query rules target)
      False (gather tree query rules targets).2 := by
  induction targets with
  | nil => simp [gather, Decides]
  | cons target rest ih =>
      simp only [List.mem_cons, exists_eq_or_imp]
      rw [gather]
      cases expanded : expand tree query rules target with
      | error failure =>
          have decided := expand_decides tree query rules target
          rw [expanded] at decided
          simp_all [Decides, TargetEscapes]
      | ok found =>
          obtain ⟨records, paths⟩ := found
          have located := exists_locateAll_error_iff tree paths
          rw [← targetEscapes_iff_of_expand expanded] at located
          cases locate : locateAll tree paths with
          | error error =>
              rw [locate] at located
              simp_all [Decides, DiscoveryFailure.isRefusal]
          | ok found =>
              have fine : ¬ TargetEscapes tree query rules target := by
                rw [← located, locate]
                simp
              simp only [fine, false_or, locate]
              cases others : (gather tree query rules rest).2 <;>
                simpa [Decides, others, Functor.map, Except.map] using ih

/-- What makes discovery fail without being refused. -/
def Escapes (tree : FileTree) (query : Query) : Prop :=
  RootEscapes tree query ∨ ∃ rules, rulesFor tree query = .ok rules ∧
    ∃ target ∈ query.targets, TargetEscapes tree query rules target

/-- Discovery fails or is refused exactly under the conditions on the root and the targets. -/
theorem run_decides (tree : FileTree) (query : Query) :
    Decides DiscoveryFailure.isRefusal (Escapes tree query) (RootRefused tree query)
      (run tree query).2 := by
  have decided := rulesFor_decides tree query
  rw [run, Escapes]
  cases found : rulesFor tree query with
  | error failure =>
      rw [found] at decided
      simpa [Decides] using decided
  | ok rules =>
      rw [found] at decided
      have gathered := gather_decides tree query rules query.targets
      rcases result : gather tree query rules query.targets with ⟨records, failure | located⟩
      · rw [result] at gathered
        simp_all [Decides]
      · rw [result] at gathered
        simp_all [Decides]

end Discovery

end DocAudit
