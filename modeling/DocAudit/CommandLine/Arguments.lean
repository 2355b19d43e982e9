import DocAudit.Report.Summary
import DocAudit.Settings

/-!
# Command line arguments

What a command line asks for, the options by which it does so, and the ways in which it can be
wrong.
-/

namespace DocAudit.CommandLine

/-- The value of an option. A value that is nothing but the mark `--` is taken away, and the option
is left with nothing. -/
inductive Given (α : Type) where
  | absent
  | nothing
  | value (value : α)

/-- What a command line asks for. Where `root` is missing its value was taken away, and so were
the missing ones among the extensions. -/
structure Arguments where
  targets : List Text
  root : Option Text
  config : Option Text
  reporter : Given Reporter
  reporterOutput : Given Text
  paramDocPattern : Given Text
  shortDocWarnings : Option Bool
  strictTypes : Option Bool
  extensions : List (Option Text)
  respectIgnore : Bool
  quiet : Bool
  failOn : FailOn

/-- The arguments of a command line without options. -/
def Arguments.initial : Arguments where
  targets := []
  root := some "."
  config := none
  reporter := .absent
  reporterOutput := .absent
  paramDocPattern := .absent
  shortDocWarnings := none
  strictTypes := none
  extensions := []
  respectIgnore := true
  quiet := false
  failOn := .never

/-- The options of a command line. -/
inductive Switch where
  | help
  | root
  | config
  | reporter
  | reporterOutput
  | paramDocPattern
  | shortDocWarnings (on : Bool)
  | strictTypes (on : Bool)
  | extension
  | noIgnore
  | quiet
  | failOn
  deriving DecidableEq, Repr

/-- The spellings of options, in the order in which messages list them. -/
def spellings : List (Text × Switch) :=
  [("-h", .help), ("--help", .help), ("--root", .root), ("--config", .config),
    ("--reporter", .reporter), ("--reporter-output", .reporterOutput),
    ("--param-doc-pattern", .paramDocPattern), ("--short-doc-warnings", .shortDocWarnings true),
    ("--no-short-doc-warnings", .shortDocWarnings false), ("--strict-types", .strictTypes true),
    ("--no-strict-types", .strictTypes false), ("--extension", .extension),
    ("--no-gitignore", .noIgnore), ("--quiet", .quiet), ("--fail-on", .failOn)]

/-- The name of an option in messages: its spellings, with those of its opposite. -/
def Switch.title : Switch → Text
  | help => "-h/--help"
  | root => "--root"
  | config => "--config"
  | reporter => "--reporter"
  | reporterOutput => "--reporter-output"
  | paramDocPattern => "--param-doc-pattern"
  | shortDocWarnings _ => "--short-doc-warnings/--no-short-doc-warnings"
  | strictTypes _ => "--strict-types/--no-strict-types"
  | extension => "--extension"
  | noIgnore => "--no-gitignore"
  | quiet => "--quiet"
  | failOn => "--fail-on"

/-- Why a command line is refused. -/
inductive UsageError where
  | ambiguous (given : Text) (candidates : List Text)
  | valueMissing (option : Switch)
  | valueUnwanted (option : Switch) (value : Text)
  | invalidChoice (option : Switch) (value : Text) (choices : List Text)
  | targetsMissing
  | unrecognized (given : List Text)
  deriving DecidableEq, Repr

/-- The wording of a refusal. -/
def UsageError.message : UsageError → Text
  | ambiguous given candidates =>
    "ambiguous option: " ++ given ++ " could match " ++ Text.joinWith ", " candidates
  | valueMissing option => "argument " ++ option.title ++ ": expected one argument"
  | valueUnwanted option value =>
    "argument " ++ option.title ++ ": ignored explicit argument " ++ Text.quoted value
  | invalidChoice option value choices =>
    "argument " ++ option.title ++ ": invalid choice: " ++ Text.quoted value ++ " (choose from " ++
      Text.joinWith ", " (choices.map Text.quoted) ++ ")"
  | targetsMissing => "the following arguments are required: targets"
  | unrecognized given => "unrecognized arguments: " ++ Text.joinWith " " given

/-- What a command line leads to: a run, the help text, or a refusal. -/
inductive Request where
  | check (arguments : Arguments)
  | help
  | refuse (error : UsageError)

end DocAudit.CommandLine
