import DocAudit.Pattern.Matcher
import DocAudit.Pattern.Reader

/-!
# Ignore rules

A line of an ignore file is a rule: a path pattern that ignores the files it matches or, after an
exclamation mark, takes them back in. A rule is turned into the text of a search pattern, segment
by segment. Lines that are blank, comments or not closed properly are no rules.
-/

namespace DocAudit.Ignore

/-- Why a line is not a rule although it looks like one. -/
inductive RuleError where
  | invalid (line : Text)
  | badPattern (source : Text) (error : Pattern.Error)

/-- A rule: the pattern of the paths it speaks of, and whether it ignores them. -/
structure Rule where
  pattern : Pattern
  ignores : Bool

/-- Why a segment has no pattern. -/
inductive SegmentFault where
  | openBracket
  | danglingBackslash
  deriving DecidableEq, Repr

/-- A character that stands for itself in a pattern. -/
def literalChar (c : Char) : Text :=
  if "()[]\x7b\x7d?*+-|^$\\.&~# \t\n\r\x0b\x0c".toList.contains c then ['\\', c] else [c]

/-- Write every backslash twice. -/
def doubleBackslashes (text : Text) : Text :=
  text.flatMap fun c => if c = '\\' then ['\\', '\\'] else [c]

/-- A character set after its opening bracket, and the text after it. An exclamation mark or a
caret negates the set; a bracket that would close it at once belongs to it. -/
def bracket? (text : Text) : Option (Text × Text) :=
  let (negation, text) : Text × Text :=
    match text with
    | '!' :: rest => ("^", rest)
    | '^' :: rest => ("^", rest)
    | rest => ([], rest)
  let (first, text) : Text × Text :=
    match text with
    | ']' :: rest => ("]", rest)
    | rest => ([], rest)
  match text.dropWhile (· != ']') with
  | [] => none
  | _ :: rest =>
    some ("[" ++ negation ++ doubleBackslashes (first ++ text.takeWhile (· != ']')) ++ "]", rest)

/-- The pattern text of a segment with wildcards. Fuel is the length of the segment. -/
def wildcardText : Nat → Text → Except SegmentFault Text
  | _, [] => .ok []
  | 0, _ :: _ => .ok []
  | fuel + 1, c :: rest =>
    match c with
    | '\\' =>
      match rest with
      | [] => .error .danglingBackslash
      | next :: rest => (literalChar next ++ ·) <$> wildcardText fuel rest
    | '*' => ("[^/]*".toList ++ ·) <$> wildcardText fuel rest
    | '?' => ("[^/]".toList ++ ·) <$> wildcardText fuel rest
    | '[' =>
      match bracket? rest with
      | none => .error .openBracket
      | some (characters, rest) => (characters ++ ·) <$> wildcardText fuel rest
    | _ => (literalChar c ++ ·) <$> wildcardText fuel rest

/-- The pattern text of a segment that is not a double star. -/
def segmentText (segment : Text) : Except SegmentFault Text :=
  if segment = ['*'] then .ok "[^/]+" else wildcardText segment.length segment

/-- The segment that stands for any number of directories. -/
def doubleStar : Text := "**"

/-- The name of the group that takes part when a rule matched a directory of the path. -/
def directoryGroup : Text := "dir"

/-- A slash in the group for directories. -/
def directorySlash : Text :=
  "(?P<" ++ directoryGroup ++ ">/)"

/-- The slash that ends a rule: for a directory rule it marks the match of a directory. -/
def finalSlash (onlyDirectories : Bool) : Text :=
  if onlyDirectories then directorySlash else "/"

/-- The pattern text of segments. `first` says that none came before, `slash` that one other than
a leading double star did. -/
def segmentsText (onlyDirectories : Bool) : Bool → Bool → List Text → Except SegmentFault Text
  | _, _, [] => .ok []
  | first, slash, segment :: rest =>
    if segment = doubleStar then
      let text : Text :=
        if first then "^(?:.+/)?"
        else if rest.isEmpty then finalSlash onlyDirectories
        else "(?:/.+)?"
      (text ++ ·) <$> segmentsText onlyDirectories false (slash || !first) rest
    else do
      let text ← segmentText segment
      let others ← segmentsText onlyDirectories false true rest
      return (if first then ("^" : Text) else []) ++ (if slash then ("/" : Text) else []) ++ text ++
        (if rest.isEmpty then "(?:" ++ directorySlash ++ "|$)" else []) ++ others

/-- Several double stars in a row mean the same as one. -/
def collapseStars : List Text → List Text
  | first :: second :: rest =>
    if first = doubleStar ∧ second = doubleStar then collapseStars (second :: rest)
    else first :: collapseStars (second :: rest)
  | segments => segments

/-- The segments that a rule means. A leading slash ties the rule to the root, as does an inner
one; any other rule holds at every depth. A trailing slash stands for everything below. -/
def normalSegments (segments : List Text) : List Text :=
  let anchored :=
    match segments with
    | [] :: rest => rest
    | [segment] => if segment = doubleStar then [segment] else [doubleStar, segment]
    | [segment, []] => if segment = doubleStar then [segment, []] else [doubleStar, segment, []]
    | segments => segments
  let closed :=
    match anchored.getLast? with
    | some [] => anchored.dropLast ++ [doubleStar]
    | _ => anchored
  collapseStars closed

/-- The pattern text of normal segments. -/
def ruleText (onlyDirectories : Bool) (segments : List Text) : Except SegmentFault Text :=
  if segments = [doubleStar] then .ok (if onlyDirectories then directorySlash else ".")
  else if segments = [doubleStar, ['*']] then .ok "."
  else if segments = [doubleStar, ['*'], doubleStar] then .ok (finalSlash onlyDirectories)
  else segmentsText onlyDirectories true false segments

/-- The rule that a line gives, if it gives one. -/
def ruleOf? (line : Text) : Except RuleError (Option Rule) :=
  let text := if Text.endsWith line "\\ " then line else Text.trimEnd line
  if text = [] ∨ text.head? = some '#' ∨ text = ['/'] then .ok none
  else
    let (ignores, body) :=
      match text with
      | '!' :: rest => (false, rest)
      | rest => (true, rest)
    let segments := Text.splitOn '/' body
    let onlyDirectories := segments.getLast? = some []
    match normalSegments segments with
    | [] => .error (.invalid line)
    | normal =>
      match ruleText onlyDirectories normal with
      | .error .openBracket => .ok none
      | .error .danglingBackslash => .error (.invalid line)
      | .ok source =>
        match Pattern.read source with
        | .error error => .error (.badPattern source error)
        | .ok pattern => .ok (some ⟨pattern, ignores⟩)

/-- The wording of an error in a rule. -/
def RuleError.message : RuleError → Text
  | invalid line => "Invalid git pattern: " ++ Text.quoted line
  | badPattern source error => error.message source

end DocAudit.Ignore
