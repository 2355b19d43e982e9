import DocAudit.Proofs.Results
import DocAudit.ScanFiles

/-!
# The reports of scanned files

What scanning a list of paths reports and logs, path by path: a report for each file that can be read
and has findings, in the order of the paths, and nothing for any other path; and a record for each
path.
-/

namespace DocAudit.ScanFiles

variable {settings : Settings} {tree : FileTree} {path : Path} {paths : List Path}

/-- The report on a path, if it denotes a file that can be read and has findings. -/
def reportOn (settings : Settings) (tree : FileTree) (path : Path) : Option FileReport :=
  match tree.isFile path, tree.readText path with
  | .ok true, .ok text =>
    if Scan.findings settings text = [] then none
    else some ⟨path.render, Scan.findings settings text⟩
  | _, _ => none

theorem reportOn_eq_some_iff {report : FileReport} :
    reportOn settings tree path = some report ↔
      ∃ text, tree.isFile path = .ok true ∧ tree.readText path = .ok text ∧
        Scan.findings settings text ≠ [] ∧
        report = ⟨path.render, Scan.findings settings text⟩ := by
  rw [reportOn]
  split
  case h_1 text file read =>
      rw [file, read]
      constructor
      · intro found
        split at found
        · cases found
        · next filled => exact ⟨text, rfl, rfl, filled, (Option.some.inj found).symm⟩
      · rintro ⟨other, -, same, filled, rfl⟩
        obtain rfl := Except.ok.inj same
        rw [if_neg filled]
  case h_2 unread =>
      constructor
      · intro found
        cases found
      · rintro ⟨text, file, read, -⟩
        exact absurd read (unread text file)

theorem reportOn_of_findings {text : Text} {findings : List Finding}
    (file : tree.isFile path = .ok true) (read : tree.readText path = .ok text)
    (found : Scan.findings settings text = findings) (filled : findings ≠ []) :
    reportOn settings tree path = some ⟨path.render, findings⟩ := by
  subst found
  exact reportOn_eq_some_iff.mpr ⟨text, file, read, filled, rfl⟩

/-- What is logged about a path. -/
def recordOn (settings : Settings) (tree : FileTree) (path : Path) : Record :=
  match tree.isFile path, tree.readText path with
  | .ok true, .ok text =>
    ⟨.debug, .scanner, "File scanned (path=" ++ path.render ++ " findings=" ++
      Text.ofNat (Scan.findings settings text).length ++ ")"⟩
  | .ok true, .error error =>
    ⟨.warning, .scanner, "Skipping file due to read failure (path=" ++ path.render ++ " error=" ++
      readFailure error ++ ")"⟩
  | _, _ => ⟨.warning, .scanner, "Source file not found (path=" ++ path.render ++ ")"⟩

/-- Whether a path denotes a file that can be read and in which the pattern for parameter tags finds
a group that ends before it begins. -/
def isTangledAt (settings : Settings) (tree : FileTree) (path : Path) : Bool :=
  match tree.isFile path, tree.readText path with
  | .ok true, .ok text => Scan.isTangled settings text
  | _, _ => false

theorem isTangledAt_iff :
    isTangledAt settings tree path ↔
      ∃ text, tree.isFile path = .ok true ∧ tree.readText path = .ok text ∧
        Scan.isTangled settings text := by
  rw [isTangledAt]
  split
  case h_1 text file read =>
      rw [file, read]
      constructor
      · exact fun tangled => ⟨text, rfl, rfl, tangled⟩
      · rintro ⟨other, -, same, tangled⟩
        obtain rfl := Except.ok.inj same
        exact tangled
  case h_2 unread =>
      constructor
      · intro tangled
        cases tangled
      · rintro ⟨text, file, read, -⟩
        exact absurd read (unread text file)

/-- A path that can be looked up is scanned, unless it leads to a text that is tangled. -/
theorem scanPath_eq (settings : Settings) (tree : FileTree) (path : Path) :
    scanPath settings tree path = (do
      let _ ← (tree.isFile path).mapError Failure.access
      if isTangledAt settings tree path then throw .tangledGroups
      return ⟨recordOn settings tree path, reportOn settings tree path⟩) := by
  rw [scanPath, isTangledAt, recordOn, reportOn]
  cases tree.isFile path with
  | error fault => rfl
  | ok there =>
      cases there with
      | false => rfl
      | true =>
          cases tree.readText path with
          | error error => rfl
          | ok text => simp only [← List.isEmpty_iff]; rfl

/-- A path that is scanned gives its record and its report. -/
theorem outcome_of_scanPath {outcome : Outcome}
    (scanned : scanPath settings tree path = .ok outcome) :
    outcome = ⟨recordOn settings tree path, reportOn settings tree path⟩ := by
  rw [scanPath_eq] at scanned
  obtain ⟨there, -, scanned⟩ := exists_of_bind_eq_ok scanned
  split at scanned
  · cases scanned
  · exact (Except.ok.inj scanned).symm

/-- The reports of a scan are those of its paths. -/
theorem reports_of_scanAll {reports : List FileReport}
    (scanned : (scanAll settings tree paths).2 = .ok reports) :
    reports = paths.filterMap (reportOn settings tree) := by
  induction paths generalizing reports with
  | nil =>
      cases scanned
      rfl
  | cons path rest ih =>
      rw [scanAll] at scanned
      cases first : scanPath settings tree path with
      | error failure =>
          rw [first] at scanned
          cases scanned
      | ok outcome =>
          rw [first] at scanned
          cases others : (scanAll settings tree rest).2 with
          | error failure =>
              simp only [others] at scanned
              cases scanned
          | ok found =>
              simp only [others] at scanned
              obtain rfl := Except.ok.inj scanned
              rw [ih others, outcome_of_scanPath first, List.filterMap_cons]
              cases reportOn settings tree path <;> rfl

/-- A file that can be read and is not tangled is scanned. -/
theorem scanAll_singleton {text : Text} (file : tree.isFile path = .ok true)
    (read : tree.readText path = .ok text) (plain : Scan.isTangled settings text = false) :
    (scanAll settings tree [path]).2 = .ok (reportOn settings tree path).toList := by
  have untangled : isTangledAt settings tree path = false := by
    rw [isTangledAt, file, read]
    exact plain
  rw [scanAll, scanPath_eq, file, untangled]
  exact congrArg Except.ok (List.append_nil _)

/-- A file that can be read is scanned, unless its text is impossible to scan. -/
theorem scanAll_singleton_eq {text : Text} (file : tree.isFile path = .ok true)
    (read : tree.readText path = .ok text) :
    (scanAll settings tree [path]).2 =
      if Scan.isTangled settings text then .error .tangledGroups
      else .ok (if Scan.findings settings text = [] then []
        else [⟨path.render, Scan.findings settings text⟩]) := by
  split
  case isTrue tangled =>
      have stopped : isTangledAt settings tree path = true :=
        isTangledAt_iff.mpr ⟨text, file, read, tangled⟩
      rw [scanAll, scanPath_eq, file, stopped]
      rfl
  case isFalse plain =>
      rw [scanAll_singleton file read (Bool.eq_false_iff.mpr plain), reportOn, file, read]
      dsimp only
      split <;> rfl

end DocAudit.ScanFiles
