import DocAudit.Pattern.Matcher

/-!
# Signatures

Recognising a function assignment on a single line: `name: function(parameters)` or
`name = function(parameters)`, with the assignment after at least one blank. Two recognisers ask
for different shapes of the left-hand side; neither looks at comment lines.
-/

namespace DocAudit

/-- The shape of a declaration. -/
inductive SignatureKind where
  /-- Any left-hand side. -/
  | assignment
  /-- A member of an object: a single word before a colon. -/
  | member
  /-- A left-hand side after `var`. -/
  | varAssignment
  deriving DecidableEq, Repr

/-- A declared function: its name, and the text between the parentheses. -/
structure Signature where
  name : Text
  parameters : Text
  kind : SignatureKind
  deriving DecidableEq, Repr

/-- The name of a kind. -/
def SignatureKind.label : SignatureKind → Text
  | assignment => "declaration"
  | member => "property"
  | varAssignment => "variable"

namespace Signature

open Pattern

/-- A blank. -/
def blank : CharTest :=
  .set false [.ofKind .blank false false]

/-- A word character. -/
def wordChar : CharTest :=
  .set false [.ofKind .word false false]

/-- Blanks, possibly none. -/
def blanks : Node := .many .greedy 0 none blank

/-- At least one blank. -/
def someBlanks : Node := .many .greedy 1 none blank

/-- Any characters of one line. -/
def anything : Node := .many .greedy 0 none .notNewline

/-- At least one character of the line. -/
def something : Node := .many .greedy 1 none .notNewline

/-- The sign between the two sides of an assignment. -/
def assignSign : Node := .one (.set false [.char '=', .char ':'])

/-- One blank, the word `function`, and parameters in parentheses. -/
def functionTail : List Node :=
  [.one blank, .literal "function", blanks, .one (.char '('), .capture 2 anything,
    .one (.char ')')]

/-- Any left-hand side. -/
def assignmentPattern : Pattern where
  source := "\\s+(.+)\\s*[=:]\\sfunction\\s*\\((.*)\\)"
  root := .sequence ([someBlanks, .capture 1 something, blanks, assignSign] ++ functionTail)
  groups := 2

/-- A word before a colon. -/
def memberPattern : Pattern where
  source := "\\s+(\\w+):\\sfunction\\s*\\((.*)\\)"
  root := .sequence ([someBlanks, .capture 1 (.many .greedy 1 none wordChar), .one (.char ':')] ++
    functionTail)
  groups := 2

/-- Any left-hand side after `var`. -/
def varPattern : Pattern where
  source := "\\s+(?:var )(.+)\\s*[=:]\\sfunction\\s*\\((.*)\\)"
  root := .sequence ([someBlanks, .literal "var ", .capture 1 something, blanks, assignSign] ++
    functionTail)
  groups := 2

/-- Whether a line starts a comment or continues a block comment. -/
def isComment (line : Text) : Bool :=
  let text := Text.trimStart line
  Text.startsWith text "*" || Text.startsWith text "/*" || Text.startsWith text "//"

/-- The signature that a pattern finds on a line. -/
def find? (pattern : Pattern) (kind : SignatureKind) (line : Text) : Option Signature :=
  if isComment line then none
  else
    match (pattern.search? line).map (Match.groups line) with
    | some [some name, some parameters] => some ⟨Text.trim name, parameters, kind⟩
    | _ => none

/-- The function assignment that a line declares. -/
def declared? (line : Text) : Option Signature :=
  find? assignmentPattern .assignment line

/-- The signature that a closed doc block documents, on the line after it: a member of an object,
else a variable. -/
def documented? (line : Text) : Option Signature :=
  find? memberPattern .member line <|> find? varPattern .varAssignment line

end Signature

end DocAudit
