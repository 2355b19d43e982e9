import DocAudit.CommandLine.Reader
import DocAudit.CommandLine.Usage
import DocAudit.Discovery
import DocAudit.Report.Delivery
import DocAudit.ScanFiles
import DocAudit.Settings.OptionsFile

/-!
# A run of the program

A run is a function of the words of the command line and the file tree. It reads the command line,
builds the settings, finds the files, scans them and delivers the report; the first of these steps
that refuses its input ends the run with exit code 2. Some inputs are not refused by any step but
make a run fail without an exit code: those are the failures listed here.
-/

namespace DocAudit

/-- Why a run ends without an exit code. -/
inductive RunFailure where
  | fatalPattern (cause : Pattern.Cause)
  | tooManyDigits (cause : Json.ReadCause)
  | badRule (error : Ignore.RuleError)
  | access (error : Files.AccessError)
  | scanning (failure : ScanFiles.Failure)
  /-- The value of the option for the root was taken away. -/
  | rootMissing

/-- The wording of a failure. -/
def RunFailure.message : RunFailure → Text
  | fatalPattern cause => cause.message
  | tooManyDigits cause => cause.message
  | badRule error => error.message
  | access error => error.message
  | scanning failure => failure.message
  | rootMissing => "expected str, bytes or os.PathLike object, not list"

/-- What a run leads to: its exit code or the reason for having none, what it printed on the two
streams it was given, what the reader of the command line printed by itself, the new file tree and
the log. -/
structure RunResult where
  outcome : Except RunFailure Nat
  stdout : Text
  stderr : Text
  usageOutput : Text
  usageErrors : Text
  tree : FileTree
  records : List Record

namespace Run

/-- The exit code for refused input. -/
def refusedCode : Nat := 2

/-- The width of the console. -/
def consoleWidth : Nat := 80

/-- A text option: null if it was not given, an empty list if its value was taken away. -/
def textOption : CommandLine.Given Text → Json
  | .absent => .null
  | .nothing => .arr []
  | .value text => .str text

/-- A report format as an option. -/
def reporterOption : CommandLine.Given Reporter → Json
  | .absent => .null
  | .nothing => .arr []
  | .value format => .str format.name

/-- A switch, or null if it was not given. -/
def switchOption (value : Option Bool) : Json :=
  match value with
  | some on => .bool on
  | none => .null

/-- The options that the command line sets. -/
def givenOptions (arguments : CommandLine.Arguments) : Options :=
  [(Field.paramPattern.name, textOption arguments.paramDocPattern),
    (Field.shortDocWarnings.name, switchOption arguments.shortDocWarnings),
    (Field.strictTypes.name, switchOption arguments.strictTypes),
    (Field.reporter.name, reporterOption arguments.reporter),
    (Field.output.name, textOption arguments.reporterOutput),
    (Field.verbose.name, switchOption (if arguments.quiet then some false else none))]

/-- Why a step of a run did not succeed: it refuses its input, or the run fails. -/
inductive StepFailure (ε : Type) where
  | refused (error : ε)
  | failed (failure : RunFailure)

/-- What a failure to merge options means for a run. -/
def ofOptionFailure : OptionFailure → StepFailure SettingsError
  | .refused error => .refused error
  | .fatalPattern cause => .failed (.fatalPattern cause)

/-- What a failure to load an options file means for a run. -/
def ofFileFailure : OptionsFileFailure → StepFailure SettingsError
  | .refused error => .refused error
  | .nullCharacter => .failed (.access .nullCharacter)
  | .tooManyDigits cause => .failed (.tooManyDigits cause)

/-- What a failure of discovery means for a run. -/
def ofDiscoveryFailure : DiscoveryFailure → StepFailure DiscoveryError
  | .refused error => .refused error
  | .badRule error => .failed (.badRule error)
  | .access error => .failed (.access error)

/-- Merge options over settings, behind what was logged before. -/
def mergeInto (settings : Settings) (options : Options) (records : List Record) :
    List Record × Except (StepFailure SettingsError) Settings :=
  match settings.merge options with
  | .error failure => (records, .error (ofOptionFailure failure))
  | .ok (merged, more) => (records ++ more, .ok merged)

/-- The default settings changed by the options file, if one is named. -/
def fileSettings (tree : FileTree) (config : Option Text) :
    List Record × Except (StepFailure SettingsError) Settings :=
  match config with
  | none => ([], .ok Settings.default)
  | some [] => ([], .ok Settings.default)
  | some name =>
    match Settings.loadOptions tree (Path.ofText name) with
    | .error failure => ([], .error (ofFileFailure failure))
    | .ok options => mergeInto Settings.default options []

/-- The settings of a run: the defaults, changed by the options file and then by the command
line. -/
def settingsFor (tree : FileTree) (arguments : CommandLine.Arguments) :
    List Record × Except (StepFailure SettingsError) Settings :=
  match fileSettings tree arguments.config with
  | (records, .error failure) => (records, .error failure)
  | (records, .ok settings) => mergeInto settings (givenOptions arguments) records

/-- What the command line asks discovery for. -/
def queryOf (arguments : CommandLine.Arguments) (root : Text) : Discovery.Query where
  targets := arguments.targets
  root := Path.ofText root
  extensions :=
    if arguments.extensions.isEmpty then Discovery.defaultExtensions
    else arguments.extensions.filterMap id
  respectIgnore := arguments.respectIgnore

/-- What is logged by the command line itself. -/
def ownRecord (level : Level) (message : Text) : Record :=
  ⟨level, .commandLine, message⟩

/-- A run that ends before anything is printed to its streams. -/
def stopped (tree : FileTree) (records : List Record) (outcome : Except RunFailure Nat)
    (stderr : Text) : RunResult :=
  { outcome, stdout := [], stderr, usageOutput := [], usageErrors := [], tree, records }

/-- The end of a run: deliver the report on files that were scanned. -/
def conclude (tree : FileTree) (arguments : CommandLine.Arguments) (settings : Settings)
    (records : List Record) (scanned : Nat) (reports : List FileReport) : RunResult :=
  let summary := Summary.ofReports reports scanned
  let done := ownRecord .info ("Documentation check completed (files=" ++
    Text.ofInt summary.filesScanned ++ " findings=" ++ Text.ofInt summary.findingCount ++ ")")
  let printed := summary.lines.flatMap (· ++ ['\n'])
  let delivery := Report.deliver settings consoleWidth reports summary tree
  let result : RunResult :=
    { outcome := .ok (summary.exitCode arguments.failOn), stdout := printed ++ delivery.echo,
      stderr := [], usageOutput := [], usageErrors := [], tree := delivery.tree,
      records := records ++ done :: delivery.records }
  let path := settings.output.render
  match delivery.result with
  | .ok _ => result
  | .error (.refused fault) =>
    { result with
      outcome := .ok refusedCode
      stderr := "Failed to write report: " ++ path ++ "\n"
      records := result.records ++ [ownRecord .warning ("Failed to write report (output_path=" ++
        path ++ " error=" ++ fault.message ++ ")")] }
  | .error .nullCharacter => { result with outcome := .error (.access .nullCharacter) }

/-- A run with settings and a root: find the files and scan them. -/
def checkFiles (tree : FileTree) (arguments : CommandLine.Arguments) (root : Text)
    (settings : Settings) (records : List Record) : RunResult :=
  match Discovery.run tree (queryOf arguments root) with
  | (more, .error failure) =>
    match ofDiscoveryFailure failure with
    | .failed failure => stopped tree (records ++ more) (.error failure) []
    | .refused error =>
      let record := ownRecord .warning ("File discovery failed (root=" ++ root ++
        " error=" ++ error.message ++ ")")
      stopped tree (records ++ more ++ [record]) (.ok refusedCode) (error.message ++ "\n")
  | (more, .ok paths) =>
    match ScanFiles.scanAll settings tree paths with
    | (scanRecords, .error failure) =>
      stopped tree (records ++ more ++ scanRecords) (.error (.scanning failure)) []
    | (scanRecords, .ok reports) =>
      conclude tree arguments settings (records ++ more ++ scanRecords) paths.length reports

/-- A run for a command line that was understood. -/
def check (tree : FileTree) (arguments : CommandLine.Arguments) : RunResult :=
  match settingsFor tree arguments with
  | (records, .error (.failed failure)) => stopped tree records (.error failure) []
  | (records, .error (.refused error)) =>
    let record := ownRecord .warning ("Invalid configuration (error=" ++ error.message ++ ")")
    stopped tree (records ++ [record]) (.ok refusedCode)
      ("Invalid configuration: " ++ error.message ++ "\n")
  | (records, .ok settings) =>
    match arguments.root with
    | none => stopped tree records (.error .rootMissing) []
    | some root => checkFiles tree arguments root settings records

end Run

/-- Run the program on the words of a command line. -/
def run (words : List Text) (tree : FileTree) : RunResult :=
  let stopped := Run.stopped tree
    [Run.ownRecord .warning ("Argument parsing failed (argv=" ++ Text.quotedList words ++ ")")]
    (.ok Run.refusedCode) []
  match CommandLine.read words with
  | .help => { stopped with usageOutput := CommandLine.helpText }
  | .refuse error => { stopped with usageErrors := CommandLine.refusalText error }
  | .check arguments => Run.check tree arguments

end DocAudit
