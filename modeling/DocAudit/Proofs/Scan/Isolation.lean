import DocAudit.Proofs.Discovery.Failures
import DocAudit.Proofs.DocBlock.Segments
import DocAudit.Proofs.Files.Content
import DocAudit.Proofs.Files.Outlines
import DocAudit.Proofs.Scan.GroupAccess
import DocAudit.Proofs.Scan.Reports

/-!
# Files are scanned in isolation

The loop over the files counts, reports and logs. Each turn adds what its own path gives, so two
lists of paths in a row come to the sum of what each of them comes to, and no file has a part in
what is found in another one. What cannot be looked up or read is logged and counted all the same.
There is one thing that ends the loop early: a text in which a pattern finds a group that ends
before it begins. Plain patterns, such as the usual one, never do.
-/

namespace DocAudit.ScanFiles

/-- What scanning some files comes to: how many there were, the reports on those with findings, and
what was logged. -/
structure Tally where
  scanned : Nat
  reports : List FileReport
  records : List Record
  deriving DecidableEq, Repr

/-- One tally behind another one. -/
def Tally.append (first second : Tally) : Tally :=
  ⟨first.scanned + second.scanned, first.reports ++ second.reports, first.records ++ second.records⟩

/-- One turn of the loop: the path is counted and then scanned. -/
def turn (settings : Settings) (tree : FileTree) (sofar : Tally) (path : Path) :
    Except Failure Tally := do
  let outcome ← scanPath settings tree path
  return ⟨sofar.scanned + 1, sofar.reports ++ outcome.report.toList,
    sofar.records ++ [outcome.record]⟩

/-- The loop over the files. -/
def tally (settings : Settings) (tree : FileTree) (paths : List Path) : Except Failure Tally :=
  paths.foldlM (turn settings tree) ⟨0, [], []⟩

variable {settings : Settings} {tree other : FileTree} {path : Path} {paths : List Path}

/-! ## The loop -/

/-- A turn adds the tally of its own path to what there is. -/
theorem turn_append (settings : Settings) (tree : FileTree) (first second : Tally) (path : Path) :
    turn settings tree (first.append second) path =
      first.append <$> turn settings tree second path := by
  rw [turn, turn]
  cases scanPath settings tree path with
  | error failure => rfl
  | ok outcome =>
      simp [Tally.append, Nat.add_assoc, bind, Except.bind, pure, Except.pure, Functor.map,
        Except.map]

/-- The loop adds the tally of the paths ahead to what there is, by induction on these paths. -/
theorem foldlM_turn_append (settings : Settings) (tree : FileTree) (paths : List Path)
    (first second : Tally) :
    paths.foldlM (turn settings tree) (first.append second) =
      first.append <$> paths.foldlM (turn settings tree) second := by
  induction paths generalizing second with
  | nil => rfl
  | cons path rest ih =>
      rw [List.foldlM_cons, List.foldlM_cons, turn_append]
      cases turn settings tree second path with
      | error failure => rfl
      | ok next => exact ih next

theorem Tally.append_nil (first : Tally) : first.append ⟨0, [], []⟩ = first := by
  simp [Tally.append]

/-- Paths in a row come to the sum of what they come to. -/
theorem tally_append (settings : Settings) (tree : FileTree) (front back : List Path) :
    tally settings tree (front ++ back) = do
      let first ← tally settings tree front
      let second ← tally settings tree back
      return first.append second := by
  rw [tally, List.foldlM_append, ← tally]
  cases tally settings tree front with
  | error failure => rfl
  | ok first =>
      have rest := foldlM_turn_append settings tree back first ⟨0, [], []⟩
      rw [first.append_nil, ← tally] at rest
      exact rest

/-- The loop gives what scanning the paths gives, and counts them. -/
theorem tally_eq_scanAll (settings : Settings) (tree : FileTree) (paths : List Path) :
    tally settings tree paths = (fun reports =>
      ⟨paths.length, reports, (scanAll settings tree paths).1⟩) <$>
        (scanAll settings tree paths).2 := by
  induction paths with
  | nil => rfl
  | cons path rest ih =>
      have split := tally_append settings tree [path] rest
      rw [List.singleton_append] at split
      rw [split, ih, scanAll, tally, List.foldlM_cons, turn]
      cases scanPath settings tree path with
      | error failure => rfl
      | ok outcome =>
          rcases scanAll settings tree rest with ⟨records, failure | reports⟩
          · rfl
          · simp [Tally.append, Nat.add_comm, bind, Except.bind, pure, Except.pure, Functor.map,
              Except.map]

/-! ## One path -/

/-- A path denotes a file whose bytes are text. -/
def IsTextAt (tree : FileTree) (path : Path) : Prop :=
  ∃ bytes text, tree.readBytes path = .ok bytes ∧ Text.Utf8.decode bytes = .ok text

theorem isTextAt_iff : IsTextAt tree path ↔ ∃ text, tree.readText path = .ok text := by
  rw [IsTextAt, FileTree.readText]
  cases tree.readBytes path with
  | error error => simp
  | ok bytes => cases decoded : Text.Utf8.decode bytes <;> simp [decoded]

instance (tree : FileTree) (path : Path) : Decidable (IsTextAt tree path) :=
  decidable_of_iff ((tree.readText path).toOption.isSome) <| by
    rw [isTextAt_iff]
    cases tree.readText path <;> simp [Except.toOption]

/-- The tally of a path that can be looked up is its own report and record. -/
theorem tally_singleton (short : ¬ tree.TooLong path) :
    tally settings tree [path] =
      if isTangledAt settings tree path then .error .tangledGroups
      else .ok ⟨1, (reportOn settings tree path).toList, [recordOn settings tree path]⟩ := by
  rw [tally, List.foldlM_cons, turn, scanPath_eq]
  cases file : tree.isFile path with
  | error fault => exact absurd (FileTree.exists_isFile_error_iff.mp ⟨fault, file⟩) short
  | ok there => cases isTangledAt settings tree path <;> rfl

/-- With two groups, a path is tangled if scanning its text ends with a fault. -/
theorem isTangledAt_iff_findingsChecked (two : 2 ≤ settings.paramPattern.groups) :
    isTangledAt settings tree path ↔
      ∃ text fault, tree.isFile path = .ok true ∧ tree.readText path = .ok text ∧
        Scan.findingsChecked settings text = .error fault := by
  have faulty (text : Text) :
      (∃ fault, Scan.findingsChecked settings text = .error fault) ↔
        Scan.isTangled settings text := by
    rw [Scan.findingsChecked_eq two]
    split <;> simp_all
  simp only [isTangledAt_iff, exists_and_left, faulty]

/-- With two groups, a path that is not tangled has a report exactly if scanning its text gives
findings. -/
theorem reportOn_iff_findingsChecked (two : 2 ≤ settings.paramPattern.groups)
    (plain : ¬ isTangledAt settings tree path) (report : FileReport) :
    reportOn settings tree path = some report ↔
      ∃ text findings, tree.isFile path = .ok true ∧ tree.readText path = .ok text ∧
        Scan.findingsChecked settings text = .ok findings ∧ findings ≠ [] ∧
        report = ⟨path.render, findings⟩ := by
  rw [reportOn_eq_some_iff]
  constructor
  · rintro ⟨text, file, read, filled, rfl⟩
    refine ⟨text, _, file, read, ?_, filled, rfl⟩
    have untangled : ¬ Scan.isTangled settings text :=
      fun tangled => plain (isTangledAt_iff.mpr ⟨text, file, read, tangled⟩)
    rw [Scan.findingsChecked_eq two, if_neg untangled]
  · rintro ⟨text, findings, file, read, found, filled, rfl⟩
    rw [Scan.findingsChecked_eq two] at found
    split at found
    · cases found
    · obtain rfl := Except.ok.inj found
      exact ⟨text, file, read, filled, rfl⟩

/-- The record on a path is a warning unless the path denotes a file whose bytes are text. -/
theorem level_recordOn (settings : Settings) (tree : FileTree) (path : Path) :
    (recordOn settings tree path).level = if IsTextAt tree path then .debug else .warning := by
  cases read : tree.readText path with
  | ok text =>
      have there : IsTextAt tree path := isTextAt_iff.mpr ⟨text, read⟩
      have file : tree.isFile path = .ok true :=
        have ⟨_, _, had, _⟩ := there
        FileTree.isFile_of_readBytes had
      rw [recordOn, file, read, if_pos there]
  | error error =>
      have absent : ¬ IsTextAt tree path := by simp [isTextAt_iff, read]
      rw [recordOn, read, if_neg absent]
      cases tree.isFile path with
      | error fault => rfl
      | ok there => cases there <;> rfl

/-- What a path gives depends on the entry behind it alone. -/
theorem scanned_eq_of_sameOutline (settings : Settings) (same : FileTree.SameOutline tree other)
    (kept : ∀ location, tree.resolve false path = .ok location →
      other.get? location = tree.get? location) :
    isTangledAt settings other path = isTangledAt settings tree path ∧
      reportOn settings other path = reportOn settings tree path ∧
      recordOn settings other path = recordOn settings tree path := by
  obtain ⟨file, text⟩ := FileTree.read_eq_of_sameOutline same kept
  simp only [isTangledAt, reportOn, recordOn, file, text, and_self]

theorem isTangledAt_of_isPlain (plain : settings.paramPattern.IsPlain) :
    isTangledAt settings tree path = false := by
  rw [Bool.eq_false_iff]
  intro tangled
  obtain ⟨text, -, -, tangled⟩ := isTangledAt_iff.mp tangled
  obtain ⟨block, -, tangled⟩ := List.any_eq_true.mp tangled
  rw [DocBlock.isTangled_of_isPlain plain] at tangled
  cases tangled

/-! ## All paths -/

/-- The tally of paths that can be looked up, by induction on the paths. -/
theorem tally_eq (short : ∀ path ∈ paths, ¬ tree.TooLong path) :
    tally settings tree paths =
      if paths.any (isTangledAt settings tree) then .error .tangledGroups
      else .ok ⟨paths.length, paths.filterMap (reportOn settings tree),
        paths.map (recordOn settings tree)⟩ := by
  induction paths with
  | nil => rfl
  | cons path rest ih =>
      obtain ⟨here, there⟩ := List.forall_mem_cons.mp short
      have split := tally_append settings tree [path] rest
      rw [List.singleton_append, tally_singleton here, ih there] at split
      rw [split, List.any_cons]
      cases isTangledAt settings tree path with
      | true => rfl
      | false =>
          cases rest.any (isTangledAt settings tree) with
          | true => rfl
          | false =>
              have reported : (reportOn settings tree path).toList ++
                  rest.filterMap (reportOn settings tree) =
                    (path :: rest).filterMap (reportOn settings tree) := by
                rw [List.filterMap_cons]
                cases reportOn settings tree path <;> rfl
              simp [Tally.append, Nat.add_comm, bind, Except.bind, pure, Except.pure, reported]

/-- The loop over files gives what scanning them gives, and counts them. If they can be looked up,
it ends early exactly if scanning the text of one of them ends with a fault. Otherwise it counts all
paths, reports those with findings and logs each, in the order of the paths; a record is a warning
if and only if no text can be read there. Lists of paths in a row come to the sum of what they come
to. In a tree that differs in the bytes of files only, a path gives the same as long as its own
entry is the same. And with a plain pattern no loop ends early. -/
theorem files_in_isolation (steps : List ValueOptions) (tree : FileTree) (paths : List Path)
    (short : ∀ path ∈ paths, ¬ tree.TooLong path) :
    let settings := Settings.after steps
    (tally settings tree paths = (fun reports =>
      ⟨paths.length, reports, (scanAll settings tree paths).1⟩) <$>
        (scanAll settings tree paths).2) ∧
    (tally settings tree paths =
      if paths.any (isTangledAt settings tree) then .error .tangledGroups
      else .ok ⟨paths.length, paths.filterMap (reportOn settings tree),
        paths.map (recordOn settings tree)⟩) ∧
    (∀ path,
      (isTangledAt settings tree path ↔
        ∃ text fault, tree.isFile path = .ok true ∧ tree.readText path = .ok text ∧
          Scan.findingsChecked settings text = .error fault) ∧
      (¬ isTangledAt settings tree path → ∀ report,
        (reportOn settings tree path = some report ↔
          ∃ text findings, tree.isFile path = .ok true ∧ tree.readText path = .ok text ∧
            Scan.findingsChecked settings text = .ok findings ∧ findings ≠ [] ∧
            report = ⟨path.render, findings⟩)) ∧
      (recordOn settings tree path).level = (if IsTextAt tree path then .debug else .warning) ∧
      ∀ other, FileTree.SameOutline tree other →
        (∀ location, tree.resolve false path = .ok location →
          other.get? location = tree.get? location) →
        isTangledAt settings other path = isTangledAt settings tree path ∧
          reportOn settings other path = reportOn settings tree path ∧
          recordOn settings other path = recordOn settings tree path) ∧
    (∀ front back, tally settings tree (front ++ back) = do
      let first ← tally settings tree front
      let second ← tally settings tree back
      return first.append second) ∧
    (settings.paramPattern.IsPlain → paths.any (isTangledAt settings tree) = false) := by
  intro settings
  have two : 2 ≤ settings.paramPattern.groups := (Settings.valid_after steps).groups
  refine ⟨tally_eq_scanAll settings tree paths, tally_eq short,
    fun path => ⟨?_, ?_, ?_, ?_⟩, ?_, fun plain => ?_⟩
  · exact isTangledAt_iff_findingsChecked two
  · exact fun plain report => reportOn_iff_findingsChecked two plain report
  · exact level_recordOn settings tree path
  · exact fun other same kept => scanned_eq_of_sameOutline settings same kept
  · exact tally_append settings tree
  · simp [isTangledAt_of_isPlain plain]

/-- A pattern with a possessive loop around groups finds one that ends before it begins, and then
the files behind are not scanned. -/
theorem tally_of_possessive_loop :
    let tree : FileTree := ⟨[
      (["a.js"], .file (Text.Utf8.encode " /**\n *xyz\n */\n f: function()")),
      (["b.js"], .file (Text.Utf8.encode " b = function()"))], []⟩
    let paths := [Path.ofText "a.js", Path.ofText "b.js"]
    (∀ path ∈ paths, ¬ tree.TooLong path) ∧
      tally (Settings.after [[("paramDocPattern", .data (.str "((x)|y|z)*+"))]]) tree paths =
        .error .tangledGroups := by
  intro tree paths
  have short : ∀ path ∈ paths, ¬ tree.TooLong path := by decide +kernel
  exact ⟨short, (tally_eq short).trans (if_pos (by decide +kernel))⟩

/-- A file that is missing and one that cannot be decoded are counted and logged, and do not keep
the next one from being scanned. -/
theorem files_in_isolation_of_unreadable_files :
    let tree : FileTree := ⟨[(["b.js"], .file [0xFF]),
      (["c.js"], .file (Text.Utf8.encode " c = function()"))], []⟩
    let paths := [Path.ofText "a.js", Path.ofText "b.js", Path.ofText "c.js"]
    (∀ path ∈ paths, ¬ tree.TooLong path) ∧
      tally (Settings.after []) tree paths = .ok ⟨3,
        [⟨"c.js", [⟨.error, "Method is not documented, or doc block is malformed", 0, "c"⟩]⟩],
        [⟨.warning, .scanner, "Source file not found (path=a.js)"⟩,
          ⟨.warning, .scanner, "Skipping file due to read failure (path=b.js error='utf-8' " ++
            "codec can't decode byte 0xff in position 0: invalid start byte)"⟩,
          ⟨.debug, .scanner, "File scanned (path=c.js findings=1)"⟩]⟩ := by
  intro tree paths
  have short : ∀ path ∈ paths, ¬ tree.TooLong path := by decide +kernel
  have untangled : paths.any (isTangledAt (Settings.after []) tree) = false := by decide +kernel
  refine ⟨short, ?_⟩
  rw [(files_in_isolation [] tree paths short).2.1, untangled]
  exact congrArg Except.ok (by decide +kernel)

end DocAudit.ScanFiles
