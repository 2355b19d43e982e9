import DocAudit.Proofs.Report.XmlReport
import DocAudit.Proofs.Run.Effects
import DocAudit.Proofs.Scan.Specification

/-!
# Presentation of a run

Two options of the command line are about presentation only: one asks for quiet, the other names the
findings for which the exit code is 1. Without them a command line is the task of a run. Runs with
the same task leave the same files and are refused for the same inputs, and a threshold that counts
more findings gives no smaller exit code. A quiet run prints its totals and nothing else.

Asking for quiet is the last option that is merged, and it changes one field of the settings, which
neither the scan nor the rendering of a report looks at. So it is enough to follow that field
through the stages of a run.
-/

namespace DocAudit

/-- The task of a command line: what it asks for, without its presentation. -/
def CommandLine.Arguments.task (arguments : CommandLine.Arguments) : CommandLine.Arguments :=
  { arguments with quiet := false, failOn := .never }

variable {tree : FileTree} {settings : Settings} {quiet : Bool}

/-! ## Settings -/

namespace Settings

/-- The settings under a command line that may ask for quiet. -/
def quieten (quiet : Bool) (settings : Settings) : Settings :=
  if quiet then { settings with verbose := false } else settings

theorem reporter_quieten : (settings.quieten quiet).reporter = settings.reporter := by
  cases quiet <;> rfl

theorem output_quieten : (settings.quieten quiet).output = settings.output := by
  cases quiet <;> rfl

theorem changes_append (first second : Options) :
    changes (first ++ second) = do
      let made ← changes first
      let more ← changes second
      return made ++ more := by
  induction first with
  | nil =>
      rw [List.nil_append]
      cases changes second <;> rfl
  | cons option rest ih =>
      rw [List.cons_append, changes, ih, changes]
      cases changeOf option with
      | error failure => rfl
      | ok change =>
          cases changes rest with
          | error failure => rfl
          | ok others =>
              cases changes second with
              | error failure => rfl
              | ok more => exact congrArg Except.ok (List.append_assoc _ _ _).symm

end Settings

namespace Run

open Settings

/-- Asking for quiet adds one change behind all others. -/
theorem changes_givenOptions (arguments : CommandLine.Arguments) :
    changes (givenOptions arguments) =
      (· ++ if arguments.quiet then [.verbose false] else []) <$>
        changes (givenOptions arguments.task) := by
  obtain ⟨front, whole, task⟩ : ∃ front,
      givenOptions arguments = front ++ [(Field.verbose.name,
        switchOption (if arguments.quiet then some false else none))] ∧
      givenOptions arguments.task = front ++ [(Field.verbose.name, .null)] :=
    ⟨(givenOptions arguments).take 5, rfl, rfl⟩
  have asked : changes [(Field.verbose.name,
      switchOption (if arguments.quiet then some false else none))] =
        .ok (if arguments.quiet then [.verbose false] else []) := by
    cases arguments.quiet <;> rfl
  have unasked : changes [(Field.verbose.name, .null)] = .ok [] := rfl
  rw [whole, task, changes_append, changes_append, asked, unasked]
  cases changes front with
  | error failure => rfl
  | ok made =>
      have alone : made ++ [] = made := List.append_nil made
      exact congrArg Except.ok (by rw [alone])

theorem mergeInto_givenOptions (settings : Settings) (arguments : CommandLine.Arguments)
    (records : List Record) :
    (mergeInto settings (givenOptions arguments) records).2 =
      quieten arguments.quiet <$>
        (mergeInto settings (givenOptions arguments.task) records).2 := by
  rw [mergeInto, mergeInto, merge, merge, changes_givenOptions]
  cases changes (givenOptions arguments.task) with
  | error failure => rfl
  | ok made =>
      have last : settings.applyAll (made ++ if arguments.quiet then [.verbose false] else []) =
          (settings.applyAll made).quieten arguments.quiet := by
        rw [applyAll, List.foldl_append]
        cases arguments.quiet <;> rfl
      exact congrArg Except.ok last

/-- The settings of a run are those of its task, but without the echo if it is to be quiet. -/
theorem settingsFor_task (tree : FileTree) (arguments : CommandLine.Arguments) :
    (settingsFor tree arguments).2 =
      quieten arguments.quiet <$> (settingsFor tree arguments.task).2 := by
  have config : arguments.task.config = arguments.config := rfl
  rw [settingsFor, settingsFor, config]
  rcases fileSettings tree arguments.config with ⟨records, failure | settings⟩
  · rfl
  · exact mergeInto_givenOptions settings arguments records

end Run

/-! ## Reports -/

namespace Scan

theorem findings_quieten (text : Text) :
    findings (settings.quieten quiet) text = findings settings text := by
  have same : documented (settings.quieten quiet) = documented settings := by
    cases quiet <;> rfl
  rw [findings, findings, findingsFrom_eq_walk, findingsFrom_eq_walk, same]

end Scan

theorem ScanFiles.reportOn_quieten (settings : Settings) (quiet : Bool) (tree : FileTree) :
    reportOn (settings.quieten quiet) tree = reportOn settings tree := by
  funext path
  rw [reportOn, reportOn]
  simp only [Scan.findings_quieten]

/-- Without the echo nothing of a report is shown. -/
theorem Report.echo_deliver_of_not_verbose (silent : settings.verbose = false) (width : Nat)
    (reports : List FileReport) (summary : Summary) (tree : FileTree) :
    (deliver settings width reports summary tree).echo = [] := by
  simp only [deliver, silent]
  split <;> rfl

/-! ## Exit codes -/

/-- How far down a threshold counts findings: not at all, errors only, or warnings as well. -/
def FailOn.reach : FailOn → Nat
  | never => 0
  | error => 1
  | warning => 2

namespace Summary

/-- A threshold that counts more findings gives no smaller exit code. -/
theorem exitCode_le_of_reach {first second : FailOn} (farther : first.reach ≤ second.reach)
    (reports : List FileReport) (scanned : Int) :
    (ofReports reports scanned).exitCode first ≤ (ofReports reports scanned).exitCode second := by
  by_cases fails : (ofReports reports scanned).exitCode first = 1
  · have further : (ofReports reports scanned).exitCode second = 1 := by
      rw [exitCode_eq_one_iff] at fails ⊢
      rcases fails with ⟨rfl, finding, mem, grave⟩ | ⟨rfl, finding, mem⟩
      · cases second with
        | never => exact absurd farther (by decide)
        | error => exact .inl ⟨rfl, finding, mem, grave⟩
        | warning => exact .inr ⟨rfl, finding, mem⟩
      · cases second with
        | never | error => exact absurd farther (by decide)
        | warning => exact .inr ⟨rfl, finding, mem⟩
    omega
  · rw [exitCode_eq_zero_of_ne_one fails]
    exact Nat.zero_le _

/-- No line of the totals holds a line feed. -/
theorem newline_not_mem_lines (summary : Summary) {line : Text} (mem : line ∈ summary.lines) :
    '\n' ∉ line := by
  have number (n : Int) : '\n' ∉ Text.ofInt n := by
    intro inside
    rcases Text.isAsciiDigit_or_eq_of_mem_ofInt inside with digit | sign
    · exact absurd digit (by decide)
    · exact absurd sign (by decide)
  simp only [lines, List.mem_cons, List.not_mem_nil, or_false] at mem
  rcases mem with rfl | rfl | rfl
  · decide
  · simp only [List.mem_append, not_or]
    exact ⟨⟨by decide, number _⟩, by decide⟩
  · split
    · simp only [List.mem_append, not_or]
      exact ⟨⟨⟨⟨by decide, number _⟩, by decide⟩, number _⟩, by decide⟩
    · decide

end Summary

/-! ## Whole runs -/

namespace Run

open Settings

variable {words : List Text}

theorem root_task (arguments : CommandLine.Arguments) : arguments.task.root = arguments.root := rfl

theorem queryOf_task (arguments : CommandLine.Arguments) (root : Text) :
    queryOf arguments.task root = queryOf arguments root := rfl

theorem stdout_run_of_checked (checked : Checked words tree) :
    ((run words tree).stdout = checked.summary.lines.flatMap (· ++ ['\n']) ++
        checked.delivery.echo) ∨
      (∃ failure, (run words tree).outcome = .error (.scanning failure)) ∧
        (run words tree).stdout = [] := by
  rw [run, checked.understood]
  simp only [check]
  rcases settled : settingsFor tree checked.arguments with ⟨records, result⟩
  obtain rfl : result = .ok checked.settings := by rw [← checked.settled, settled]
  simp only [checked.rooted, checkFiles]
  rcases found : Discovery.run tree (queryOf checked.arguments checked.root) with ⟨more, result⟩
  obtain rfl : result = .ok checked.paths := by rw [← checked.found, found]
  rcases scanned : ScanFiles.scanAll checked.settings tree checked.paths with
    ⟨scanRecords, failure | reports⟩
  · simp only [scanned]
    exact .inr ⟨⟨failure, rfl⟩, rfl⟩
  · obtain rfl : reports = checked.reports := ScanFiles.reports_of_scanAll (by rw [scanned])
    simp only [scanned]
    exact .inl (stdout_conclude _ _ _ _ _ _)

/-- A quiet run that gets as far as the scan prints its totals and nothing else, and nothing at all
if the scan fails. -/
theorem stdout_run_of_quiet (checked : Checked words tree) (quiet : checked.arguments.quiet) :
    (run words tree).stdout = checked.summary.lines.flatMap (· ++ ['\n']) ∨
      (∃ failure, (run words tree).outcome = .error (.scanning failure)) ∧
        (run words tree).stdout = [] := by
  have settled := checked.settled
  rw [settingsFor_task] at settled
  obtain ⟨base, -, same⟩ := exists_of_map_eq_ok settled
  have silent : checked.settings.verbose = false := by
    rw [← same, quieten, if_pos quiet]
  have echo : checked.delivery.echo = [] := Report.echo_deliver_of_not_verbose silent _ _ _ _
  have printed := stdout_run_of_checked checked
  rwa [echo, List.append_nil] at printed

section

variable {first second : List Text} {arguments others : CommandLine.Arguments}
  (read : CommandLine.read first = .check arguments)
  (readOther : CommandLine.read second = .check others) (same : arguments.task = others.task)

include read readOther same

/-- Whether a run stops before the scan is decided by its task. -/
theorem stops_of_task (stops : Stops first tree) : Stops second tree := by
  have settings := settingsFor_task tree arguments
  have settingsOther := settingsFor_task tree others
  rw [← same] at settingsOther
  cases stops with
  | help asked => cases asked.symm.trans read
  | usage refused => cases refused.symm.trans read
  | settings understood refused =>
      cases understood.symm.trans read
      rw [settings] at refused
      cases base : (settingsFor tree arguments.task).2 with
      | ok made =>
          rw [base] at refused
          cases refused
      | error failure =>
          rw [base] at refused settingsOther
          obtain rfl := Except.error.inj refused
          exact .settings readOther settingsOther
  | discovery understood rooted settled refused =>
      cases understood.symm.trans read
      rw [settings] at settled
      obtain ⟨base, made, -⟩ := exists_of_map_eq_ok settled
      rw [made] at settingsOther
      rw [← root_task, same, root_task] at rooted
      rw [← queryOf_task, same, queryOf_task] at refused
      exact .discovery readOther rooted settingsOther refused

/-- Two runs with the same task scan the same files and have the same report for the same file. -/
theorem report_of_task (checked : Checked first tree) (other : Checked second tree) :
    other.summary = checked.summary ∧ other.reports = checked.reports ∧
      other.text = checked.text ∧ other.settings.output = checked.settings.output := by
  obtain ⟨asked, root, settings, paths, understood, rooted, settled, found⟩ := checked
  obtain ⟨asked', root', settings', paths', understood', rooted', settled', found'⟩ := other
  cases understood.symm.trans read
  cases understood'.symm.trans readOther
  rw [← root_task, same, root_task] at rooted
  obtain rfl := Option.some.inj (rooted.symm.trans rooted')
  rw [← queryOf_task, same, queryOf_task] at found
  obtain rfl := Except.ok.inj (found.symm.trans found')
  -- Both runs have the settings of the task, each with its own answer to the echo.
  rw [settingsFor_task] at settled settled'
  rw [← same] at settled'
  obtain ⟨base, made, rfl⟩ := exists_of_map_eq_ok settled
  rw [made] at settled'
  obtain rfl := Except.ok.inj settled'
  simp only [Checked.text, Checked.summary, Checked.reports, ScanFiles.reportOn_quieten,
    reporter_quieten, output_quieten, true_and]

/-- Their deliveries store the same text at the same place. -/
theorem delivery_of_task (checked : Checked first tree) (other : Checked second tree) :
    other.delivery.result = checked.delivery.result ∧
      other.delivery.tree = checked.delivery.tree := by
  obtain ⟨-, -, text, output⟩ := report_of_task read readOther same checked other
  rw [Checked.text] at text
  rw [Checked.delivery, Checked.delivery, Report.result_deliver, Report.result_deliver,
    Report.tree_deliver, Report.tree_deliver, ← Checked.text]
  exact ⟨congrArg₂ (fun text path => (Report.store tree path text).2.map fun _ => text) text output,
    congrArg₂ (fun text path => (Report.store tree path text).1) text output⟩

/-- Two runs with the same task leave the same files. They are refused together, and if they are
not, both have written the same report, and the run that counts more findings has no smaller exit
code. -/
theorem tree_and_code_of_task {code other : Nat} (ended : (run first tree).outcome = .ok code)
    (endedOther : (run second tree).outcome = .ok other) :
    (run first tree).tree = (run second tree).tree ∧ (code = refusedCode ↔ other = refusedCode) ∧
      (arguments.failOn.reach ≤ others.failOn.reach → code ≤ other) ∧
      (code ≠ refusedCode → ∃ (checked : Checked first tree) (again : Checked second tree),
        again.text = checked.text ∧ again.settings.output = checked.settings.output ∧
        (run first tree).tree.readBytes checked.settings.output =
          .ok (Text.Utf8.encode checked.text)) := by
  rcases stages_of_run ended with ⟨stops, refused, -, left⟩ | ⟨checked, records, stage⟩
  · rcases stages_of_run endedOther with ⟨-, refusedOther, -, leftOther⟩ | ⟨again, -⟩
    · obtain rfl : code = refusedCode := Except.ok.inj (ended.symm.trans refused)
      obtain rfl : other = refusedCode := Except.ok.inj (endedOther.symm.trans refusedOther)
      refine ⟨left.trans leftOther.symm, Iff.rfl, fun _ => Nat.le_refl _, ?_⟩
      exact fun accepted => absurd rfl accepted
    · exact absurd (stops_of_task read readOther same stops) again.not_stops
  · rcases stages_of_run endedOther with ⟨stops, -⟩ | ⟨again, moreRecords, stageOther⟩
    · exact absurd (stops_of_task readOther read same.symm stops) checked.not_stops
    · obtain ⟨summary, reports, text, output⟩ := report_of_task read readOther same checked again
      obtain ⟨result, files⟩ := delivery_of_task read readOther same checked again
      cases checked.understood.symm.trans read
      cases again.understood.symm.trans readOther
      rw [stage] at ended
      rw [stageOther] at endedOther
      rw [stage, stageOther, tree_conclude, tree_conclude]
      refine ⟨files.symm, ?_⟩
      rcases cases_of_conclude ended with ⟨fault, refused, rfl, -⟩ | ⟨report, written, rfl⟩
      · rcases cases_of_conclude endedOther with ⟨-, -, rfl, -⟩ | ⟨report, written, -⟩
        · exact ⟨Iff.rfl, fun _ => Nat.le_refl _, fun accepted => absurd rfl accepted⟩
        · cases refused.symm.trans (result.symm.trans written)
      · rcases cases_of_conclude endedOther with ⟨fault, refused, -⟩ | ⟨-, -, rfl⟩
        · cases written.symm.trans (result.symm.trans refused)
        · rw [← Checked.summary, ← Checked.summary, summary]
          have most := exitCode_le_one checked.summary checked.arguments.failOn
          have mostOther := exitCode_le_one checked.summary again.arguments.failOn
          refine ⟨by rw [refusedCode]; omega, fun farther => ?_, fun _ => ?_⟩
          · exact Summary.exitCode_le_of_reach farther checked.reports checked.paths.length
          · exact ⟨checked, again, text, output, Report.readBytes_of_deliver written⟩

end

/-- Presentation does not influence what a run does. Two runs whose command lines differ at most in
asking for quiet and in the threshold leave the same files behind; one has exit code 2 exactly if the
other does, and if they do not, both have written the same bytes to the file of the report; and the
exit codes are in the order of the thresholds. A quiet run that gets as far as the scan prints the
three lines of its totals and nothing else, and nothing at all if the scan fails. -/
theorem result_of_presentation (tree : FileTree) :
    (∀ (first second : List Text) (arguments others : CommandLine.Arguments) (code other : Nat),
      CommandLine.read first = .check arguments → CommandLine.read second = .check others →
      arguments.task = others.task →
      (run first tree).outcome = .ok code → (run second tree).outcome = .ok other →
        (run first tree).tree = (run second tree).tree ∧ (code = 2 ↔ other = 2) ∧
        (arguments.failOn.reach ≤ others.failOn.reach → code ≤ other) ∧
        (code ≠ 2 → ∃ (checked : Checked first tree) (again : Checked second tree),
          again.settings.output = checked.settings.output ∧
          (run first tree).tree.readBytes checked.settings.output =
            .ok (Text.Utf8.encode checked.text) ∧
          (run second tree).tree.readBytes again.settings.output =
            .ok (Text.Utf8.encode checked.text))) ∧
    ∀ (words : List Text) (checked : Checked words tree), checked.arguments.quiet →
      (Text.splitOn '\n' (run words tree).stdout = checked.summary.lines ++ [[]] ∧
        checked.summary.lines.length = 3) ∨
      (∃ failure, (run words tree).outcome = .error (.scanning failure)) ∧
        (run words tree).stdout = [] := by
  constructor
  · intro first second arguments others code other read readOther same ended endedOther
    obtain ⟨files, refused, ordered, written⟩ :=
      tree_and_code_of_task read readOther same ended endedOther
    refine ⟨files, refused, ordered, fun accepted => ?_⟩
    obtain ⟨checked, again, -, output, bytes⟩ := written accepted
    refine ⟨checked, again, output, bytes, ?_⟩
    rw [output, ← files]
    exact bytes
  · intro words checked quiet
    refine (stdout_run_of_quiet checked quiet).imp_left fun printed => ⟨?_, rfl⟩
    rw [printed]
    exact Text.splitOn_flatMap fun line mem => checked.summary.newline_not_mem_lines mem

/-- A run that fails for a function without documentation, next to a quiet one that does not. -/
theorem result_of_quiet_undocumented_function :
    let tree : FileTree := ⟨[(["a.js"], .file (Text.Utf8.encode " a = function()"))], []⟩
    let quiet : List Text := ["--quiet", "a.js"]
    let strict : List Text := ["--fail-on", "error", "a.js"]
    (run quiet tree).outcome = .ok 0 ∧ (run strict tree).outcome = .ok 1 ∧
      (run quiet tree).tree = (run strict tree).tree ∧
      ∃ checked : Checked quiet tree,
        Text.splitOn '\n' (run quiet tree).stdout = checked.summary.lines ++ [[]] := by
  intro tree quiet strict
  have ended : (run quiet tree).outcome = .ok 0 := eq_ok_of_toOption (by decide +kernel)
  have endedStrict : (run strict tree).outcome = .ok 1 := eq_ok_of_toOption (by decide +kernel)
  obtain ⟨agree, silent⟩ := result_of_presentation tree
  obtain ⟨files, -, -, written⟩ := agree quiet strict _ _ 0 1 rfl rfl rfl ended endedStrict
  obtain ⟨checked, -⟩ := written (by decide)
  refine ⟨ended, endedStrict, files, checked, ?_⟩
  let asked : CommandLine.Arguments :=
    { CommandLine.Arguments.initial with targets := ["a.js"], quiet := true }
  have understood : CommandLine.read quiet = .check asked := rfl
  have same : checked.arguments = asked :=
    CommandLine.Request.check.inj (checked.understood.symm.trans understood)
  rcases silent quiet checked (by rw [same]) with ⟨lines, -⟩ | ⟨⟨_, failed⟩, -⟩
  · exact lines
  · cases ended.symm.trans failed

end Run

end DocAudit
