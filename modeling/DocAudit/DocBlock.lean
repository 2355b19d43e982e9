import DocAudit.Signature

/-!
# Doc blocks

A closed doc block is one text, the lines of the block without separators. It is cut at every
asterisk; a segment is a parameter tag, a line of description or nothing.
-/

namespace DocAudit

/-- A documented parameter. -/
structure ParamTag where
  typeName : Text
  description : Text
  deriving DecidableEq, Repr

/-- The documentation of one function: the lines of description, the parameters of the signature
and the parameter tags, each in order. -/
structure MethodDoc where
  description : List Text
  arguments : List Text
  tags : List ParamTag
  deriving DecidableEq, Repr

namespace DocBlock

open Pattern

/-- Blanks, an at sign and a word character. -/
def annotationPattern : Pattern where
  source := "\\s*@\\w+"
  root := .sequence [Signature.blanks, .one (.char '@'), .many .greedy 1 none Signature.wordChar]
  groups := 0

/-- What a segment contributes. -/
inductive Segment where
  | tag (found : ParamTag)
  | description (line : Text)
  | nothing
  deriving DecidableEq, Repr

/-- The parameter tag of a match, given by what its groups took. A tag whose type took no part in
the match is not counted. -/
def tagOf (groups : List (Option Text)) : Segment :=
  match groups with
  | some typeName :: second :: _ => .tag ⟨typeName, second.getD []⟩
  | _ => .nothing

/-- Whether a segment without a parameter tag is a line of description: it is not blank and has
neither an annotation nor a slash. -/
def isDescription (segment : Text) : Bool :=
  (annotationPattern.search? segment).isNone && !segment.contains '/' && !Text.allBlank segment

/-- What a segment contributes under the given pattern for parameter tags. -/
def classify (pattern : Pattern) (segment : Text) : Segment :=
  match pattern.search? segment with
  | some found => tagOf (found.groups segment)
  | none => if isDescription segment then .description (Text.trim segment) else .nothing

/-- Whether the pattern finds a match in some segment of a block that has a group which ends before
it begins. Nothing can be extracted with such a match. -/
def isTangled (pattern : Pattern) (block : Text) : Bool :=
  (Text.splitOn '*' block).any fun segment =>
    (pattern.search? segment).any fun found => !found.isOrdered

/-- The segments of a block, classified. -/
def segments (pattern : Pattern) (block : Text) : List Segment :=
  (Text.splitOn '*' block).map (classify pattern)

/-- The tag of a segment, if it is one. -/
def Segment.tag? : Segment → Option ParamTag
  | tag found => some found
  | _ => none

/-- The description line of a segment, if it is one. -/
def Segment.description? : Segment → Option Text
  | description line => some line
  | _ => none

/-- The parameters of a signature: the text between the parentheses without its first space, cut
at commas. A signature without parameters gives one empty name. -/
def splitArguments (parameters : Text) : List Text :=
  Text.splitOn ',' (Text.eraseFirst ' ' parameters)

/-- Whether a list of parameters comes from a signature without parameters. -/
def declaresNone (arguments : List Text) : Bool :=
  arguments = [[]]

/-- The documentation that a block gives to the function declared after it. -/
def extract (pattern : Pattern) (block parameters : Text) : MethodDoc :=
  let parts := segments pattern block
  { description := parts.filterMap Segment.description?
    arguments := splitArguments parameters
    tags := parts.filterMap Segment.tag? }

end DocBlock

end DocAudit
