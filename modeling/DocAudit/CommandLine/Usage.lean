import DocAudit.CommandLine.Arguments

/-!
# Usage and help

The texts that describe the command line, laid out for a page of eighty columns.
-/

namespace DocAudit.CommandLine

/-- Lines, each with a line feed. -/
def pageOf (lines : List String) : Text :=
  lines.flatMap fun line => line.toList ++ ['\n']

/-- How the program is called. -/
def usage : Text :=
  pageOf
    ["usage: checkcodedoc [-h] [--root ROOT] [--config CONFIG]",
      "                    [--reporter \x7btext,json,xml\x7d]",
      "                    [--reporter-output REPORTER_OUTPUT]",
      "                    [--param-doc-pattern PARAM_DOC_PATTERN]",
      "                    [--short-doc-warnings | --no-short-doc-warnings]",
      "                    [--strict-types | --no-strict-types]",
      "                    [--extension EXTENSIONS] [--no-gitignore] [--quiet]",
      "                    [--fail-on \x7bnever,error,warning\x7d]",
      "                    targets [targets ...]"]

/-- What the options mean. -/
def optionHelp : Text :=
  pageOf
    ["options:",
      "  -h, --help            show this help message and exit",
      "  --root ROOT           Base directory for targets.",
      "  --config CONFIG       JSON options file.",
      "  --reporter \x7btext,json,xml\x7d",
      "                        Report format.",
      "  --reporter-output REPORTER_OUTPUT",
      "                        File the report is written to.",
      "  --param-doc-pattern PARAM_DOC_PATTERN",
      "                        Regex with two groups (type, description) for",
      "                        parameter tags.",
      "  --short-doc-warnings, --no-short-doc-warnings",
      "                        Warn about one-line descriptions.",
      "  --strict-types, --no-strict-types",
      "                        Warn about parameter types outside the allowed set.",
      "  --extension EXTENSIONS",
      "                        File suffix collected from directory targets",
      "                        (repeatable).",
      "  --no-gitignore        Do not skip files ignored by the root .gitignore.",
      "  --quiet               Do not echo the report to stdout.",
      "  --fail-on \x7bnever,error,warning\x7d",
      "                        Exit with status 1 when findings of this severity or",
      "                        worse exist."]

/-- The help text. -/
def helpText : Text :=
  usage ++ pageOf
    ["",
      "Check that functions carry doc blocks matching their signatures.",
      "",
      "positional arguments:",
      "  targets               Files, directories or glob patterns (relative to",
      "                        --root) to check.",
      ""] ++ optionHelp

/-- The text for a command line that is refused. -/
def refusalText (error : UsageError) : Text :=
  usage ++ "checkcodedoc: error: " ++ error.message ++ "\n"

end DocAudit.CommandLine
