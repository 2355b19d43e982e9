import DocAudit.Scan

/-!
# Scanning with every group looked up by its number

Extracting a parameter tag asks a match for its first group and, if that one took part, for its
second. Here both are looked up by number, and a number that the pattern does not have is a
fault, as is a match with a group that ends before it begins. A scan stops at the first fault.
-/

namespace DocAudit

/-- What can be wrong with the groups of a match. -/
inductive GroupFault where
  /-- A group ends before it begins. -/
  | tangled
  /-- A group was asked for that the pattern does not have. -/
  | missing (number : Nat)
  deriving DecidableEq, Repr

namespace Pattern

/-- The leftmost match in a text, all groups of which have to end where they begin or later. -/
def searchChecked (pattern : Pattern) (text : Text) : Except GroupFault (Option Match) :=
  match pattern.search? text with
  | some found => if found.isOrdered then .ok (some found) else .error .tangled
  | none => .ok none

/-- What a group took of the text, if it took part in the match. Groups are counted from one. -/
def Match.group (input : Text) (found : Match) (number : Nat) :
    Except GroupFault (Option Text) :=
  match (found.groups input)[number - 1]? with
  | some taken => .ok taken
  | none => .error (.missing number)

end Pattern

namespace DocBlock

/-- The parameter tag of a match. A second group is looked up only if the first one took part. -/
def tagOfChecked (segment : Text) (found : Pattern.Match) : Except GroupFault Segment := do
  match ← found.group segment 1 with
  | none => return .nothing
  | some typeName =>
    let description ← found.group segment 2
    return .tag ⟨typeName, description.getD []⟩

/-- What a segment contributes under the given pattern for parameter tags. -/
def classifyChecked (pattern : Pattern) (segment : Text) : Except GroupFault Segment := do
  match ← pattern.searchChecked segment with
  | some found => tagOfChecked segment found
  | none => return if isDescription segment then .description (Text.trim segment) else .nothing

/-- The documentation that a block gives to the function declared after it. -/
def extractChecked (pattern : Pattern) (block parameters : Text) :
    Except GroupFault MethodDoc := do
  let parts ← (Text.splitOn '*' block).mapM (classifyChecked pattern)
  return {
    description := parts.filterMap Segment.description?
    arguments := splitArguments parameters
    tags := parts.filterMap Segment.tag? }

end DocBlock

namespace Scan

/-- The findings on the line after a closed block. -/
def documentedChecked (settings : Settings) (block : Text) (index : Nat) (line : Text) :
    Except GroupFault (List Finding) :=
  match Signature.documented? line with
  | some signature => do
    let doc ← DocBlock.extractChecked settings.paramPattern block signature.parameters
    return Check.method settings doc index signature.name
  | none => return []

/-- The findings on the lines from an index on. The text of the open block, if there is one, is
carried along. -/
def findingsCheckedFrom (settings : Settings) :
    Option Text → Nat → List Text → Except GroupFault (List Finding)
  | _, _, [] => return []
  | none, index, line :: rest => do
    let others ← findingsCheckedFrom settings (blockAfter none line) (index + 1) rest
    return undocumented index line ++ others
  | some block, index, line :: rest =>
    if closesBlock line then
      match rest with
      | [] => return []
      | next :: rest => do
        let own ← documentedChecked settings (block ++ line) (index + 1) next
        let others ← findingsCheckedFrom settings none (index + 2) rest
        return own ++ others
    else do
      let others ← findingsCheckedFrom settings (blockAfter (some block) line) (index + 1) rest
      return undocumented index line ++ others

/-- The findings in a source text, in the order of lines. -/
def findingsChecked (settings : Settings) (text : Text) : Except GroupFault (List Finding) :=
  findingsCheckedFrom settings none 0 (sourceLines text)

end Scan

end DocAudit
