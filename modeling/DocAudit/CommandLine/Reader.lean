import DocAudit.CommandLine.Arguments
import DocAudit.Text.Classes

/-!
# Reading a command line

Reading has two steps. First every word is classified: as an option, as an unknown option, as a
plain word, or as the mark behind which all words are plain. Then the words are taken from left to
right: an option takes the word behind it as its value if it needs one, the first run of plain
words gives the targets, and everything else is left over. The first fault ends the reading.
-/

namespace DocAudit.CommandLine

/-- A word of the command line. -/
inductive Word where
  | option (name : Switch) (value : Option Text)
  /-- The short spelling of the help option with something tied to it. -/
  | shortHelp (tail : Text)
  | unknown (text : Text)
  | plain (text : Text)
  | mark
  deriving DecidableEq, Repr

/-- The spelling of the help option to which further letters can be tied. -/
def shortHelpSpelling : Text := "-h"

/-- The option with an exact spelling. -/
def spelled? (spelling : Text) : Option Switch :=
  (spellings.find? (·.1 = spelling)).map (·.2)

/-- Cut a text at its first equals sign. Without one there is no value. -/
def splitValue (text : Text) : Text × Option Text :=
  match text.dropWhile (· != '=') with
  | [] => (text, none)
  | _ :: value => (text.takeWhile (· != '='), some value)

/-- Whether a text is a negative number: a minus sign in front of digits, which may have a point
before the last of them. A line feed may follow. -/
def isNegativeNumber (text : Text) : Bool :=
  match text with
  | '-' :: rest =>
    let body := if rest.getLast? = some '\n' then rest.dropLast else rest
    match body.dropWhile Text.isDecimal with
    | [] => !body.isEmpty
    | '.' :: decimals => !decimals.isEmpty && decimals.all Text.isDecimal
    | _ => false
  | _ => false

/-- A word that begins with a minus sign and is no spelling of an option. -/
def classifyOther (text : Text) : Word :=
  if isNegativeNumber text || text.contains ' ' then .plain text else .unknown text

/-- A word in front of the mark. A long option may be abbreviated as long as it stays unique. -/
def classify (text : Text) : Except UsageError Word :=
  if text.head? ≠ some '-' ∨ text = ['-'] then .ok (.plain text)
  else
    match spelled? text with
    | some option => .ok (.option option none)
    | none =>
      let (spelling, value) := splitValue text
      match spelled? spelling, value with
      | some option, some value =>
        .ok (if spelling = shortHelpSpelling then .shortHelp value else .option option (some value))
      | _, _ =>
        if Text.startsWith text "--" then
          match spellings.filter fun entry => Text.startsWith entry.1 spelling with
          | [] => .ok (classifyOther text)
          | [(_, option)] => .ok (.option option value)
          | candidates => .error (.ambiguous text (candidates.map (·.1)))
        else if Text.startsWith text shortHelpSpelling then
          .ok (.shortHelp (text.drop shortHelpSpelling.length))
        else .ok (classifyOther text)

/-- All words of a command line. -/
def classifyAll : List Text → Except UsageError (List Word)
  | [] => .ok []
  | text :: rest =>
    if text = ['-', '-'] then .ok (.mark :: rest.map .plain)
    else do
      let word ← classify text
      let others ← classifyAll rest
      return word :: others

/-- How an option behaves: it ends the reading, changes the arguments, or does so with a value. The
value is missing if it was taken away. -/
inductive Effect where
  | showHelp
  | change (apply : Arguments → Arguments)
  | changeBy (apply : Option Text → Arguments → Except UsageError Arguments)

/-- What is left of a value: nothing if it is the mark. -/
def keptValue (value : Text) : Option Text :=
  if value = ['-', '-'] then none else some value

/-- What an option is given. -/
def givenText : Option Text → Given Text
  | none => .nothing
  | some value => .value value

/-- What an option with given choices is given. -/
def choose {α : Type} (option : Switch) (named? : Text → Option α) (choices : List Text) :
    Option Text → Except UsageError (Given α)
  | none => .ok .nothing
  | some value =>
    match named? value with
    | some choice => .ok (.value choice)
    | none => .error (.invalidChoice option value choices)

/-- The threshold that is given; nothing counts as none. -/
def thresholdOf : Given FailOn → FailOn
  | .value threshold => threshold
  | _ => .never

/-- The effect of an option. -/
def Switch.effect : Switch → Effect
  | help => .showHelp
  | root => .changeBy fun value a => .ok { a with root := value }
  | config => .changeBy fun value a => .ok { a with config := value }
  | reporter => .changeBy fun value a => do
    let format ← choose .reporter Reporter.named? (Reporter.all.map Reporter.name) value
    return { a with reporter := format }
  | reporterOutput => .changeBy fun value a => .ok { a with reporterOutput := givenText value }
  | paramDocPattern => .changeBy fun value a => .ok { a with paramDocPattern := givenText value }
  | shortDocWarnings on => .change fun a => { a with shortDocWarnings := some on }
  | strictTypes on => .change fun a => { a with strictTypes := some on }
  | extension => .changeBy fun value a => .ok { a with extensions := a.extensions ++ [value] }
  | noIgnore => .change fun a => { a with respectIgnore := false }
  | quiet => .change fun a => { a with quiet := true }
  | failOn => .changeBy fun value a => do
    let threshold ← choose .failOn FailOn.named? (FailOn.all.map FailOn.name) value
    return { a with failOn := thresholdOf threshold }

/-- What letters tied to the short spelling of the help option lead to: help if they repeat the
letter of the option, otherwise a refusal that names what stands behind the repetitions. -/
def shortHelpRequest : Text → Request
  | [] => .refuse (.valueUnwanted .help [])
  | ['h'] => .help
  | 'h' :: next :: rest => shortHelpRequest (next :: rest)
  | c :: rest => .refuse (.valueUnwanted .help (c :: rest))

/-- The text of a word that can be a target. -/
def Word.positionalText : Word → Text
  | plain text => text
  | _ => ['-', '-']

/-- How far reading has come: the arguments so far, whether the targets were found, and what is
left over. -/
structure Progress where
  arguments : Arguments
  found : Bool
  extras : List Text

/-- Take a run of words in front of the next option. The first run with a plain word gives the
targets; the mark is not one of them. -/
def takeRun (run : List Word) (progress : Progress) : Progress :=
  if run = [] then progress
  else if progress.found || run.all (· = .mark) then
    { progress with extras := progress.extras ++ run.map Word.positionalText }
  else
    let targets := (run.erase .mark).map Word.positionalText
    { progress with arguments := { progress.arguments with targets := targets }, found := true }

/-- What reading leads to at the end of the command line. -/
def Progress.request (progress : Progress) : Request :=
  if !progress.found then .refuse .targetsMissing
  else if progress.extras ≠ [] then .refuse (.unrecognized progress.extras)
  else .check progress.arguments

/-- Take words from left to right, behind a run of words in reverse that is not yet taken. -/
def takeWords : List Word → List Word → Progress → Request
  | run, [], progress => (takeRun run.reverse progress).request
  | run, .plain text :: rest, progress => takeWords (.plain text :: run) rest progress
  | run, .mark :: rest, progress => takeWords (.mark :: run) rest progress
  | run, .unknown text :: rest, progress =>
    let progress := takeRun run.reverse progress
    takeWords [] rest { progress with extras := progress.extras ++ [text] }
  | _, .shortHelp tail :: _, _ => shortHelpRequest tail
  | run, .option option given :: rest, progress =>
    let progress := takeRun run.reverse progress
    match option.effect, given with
    | .showHelp, none => .help
    | .showHelp, some value => .refuse (.valueUnwanted option value)
    | .change apply, none =>
      takeWords [] rest { progress with arguments := apply progress.arguments }
    | .change _, some value => .refuse (.valueUnwanted option value)
    | .changeBy apply, some value =>
      match apply (keptValue value) progress.arguments with
      | .error error => .refuse error
      | .ok arguments => takeWords [] rest { progress with arguments := arguments }
    | .changeBy apply, none =>
      match rest with
      | .plain value :: rest =>
        match apply (keptValue value) progress.arguments with
        | .error error => .refuse error
        | .ok arguments => takeWords [] rest { progress with arguments := arguments }
      | _ => .refuse (.valueMissing option)

/-- What a command line asks for. -/
def read (words : List Text) : Request :=
  match classifyAll words with
  | .error error => .refuse error
  | .ok classified => takeWords [] classified ⟨Arguments.initial, false, []⟩

end DocAudit.CommandLine
