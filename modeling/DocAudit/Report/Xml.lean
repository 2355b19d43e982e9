import DocAudit.Report.Summary

/-!
# XML reports

An element holds either text or other elements. Elements that hold others are laid out with one
child a line; text is never touched by the layout.
-/

namespace DocAudit

/-- An element: one that holds text, or one with attributes that holds elements. -/
inductive Element where
  | leaf (name content : Text)
  | branch (name : Text) (attributes : List (Text × Text)) (children : List Element)

namespace Element

/-- One character of text. -/
def escapedChar (c : Char) : Text :=
  if c = '&' then "&amp;"
  else if c = '<' then "&lt;"
  else if c = '>' then "&gt;"
  else [c]

/-- Text without markup characters. -/
def escaped (text : Text) : Text :=
  text.flatMap escapedChar

/-- Attributes behind the name of an element. Values must be free of quotes and markup. -/
def attributesText (attributes : List (Text × Text)) : Text :=
  attributes.flatMap fun (name, value) => " " ++ name ++ "=\"" ++ value ++ "\""

/-- A line feed and the indentation of a level. -/
def newLine (level : Nat) : Text :=
  '\n' :: List.replicate (2 * level) ' '

mutual

/-- An element at a level of indentation. An element without content has a single tag. -/
def renderAt (level : Nat) : Element → Text
  | leaf name [] => "<" ++ name ++ " />"
  | leaf name content => "<" ++ name ++ ">" ++ escaped content ++ "</" ++ name ++ ">"
  | branch name attributes [] => "<" ++ name ++ attributesText attributes ++ " />"
  | branch name attributes (child :: rest) =>
    "<" ++ name ++ attributesText attributes ++ ">" ++ renderChildren (level + 1) (child :: rest) ++
      newLine level ++ "</" ++ name ++ ">"

/-- Elements at a level of indentation, each on a line of its own. -/
def renderChildren (level : Nat) : List Element → Text
  | [] => []
  | child :: rest => newLine level ++ renderAt level child ++ renderChildren level rest

end

/-- The line in front of the outermost element. -/
def declaration : Text :=
  "<?xml version='1.0' encoding='utf-8'?>\n"

/-- A document with its outermost element. -/
def render (element : Element) : Text :=
  declaration ++ renderAt 0 element

end Element

namespace Report

/-- A finding as an element. -/
def findingElement (finding : Finding) : Element :=
  .branch "error" [] [.leaf "msg" finding.message, .leaf "type" finding.severity.name,
    .leaf "lineNumber" (Text.ofInt finding.line), .leaf "methodName" finding.method]

/-- The report of a file as an element. -/
def fileElement (report : FileReport) : Element :=
  .branch "file" [] [.leaf "fileName" report.file,
    .branch "errors" [] (report.findings.map findingElement)]

/-- A whole report as an element, with the totals as attributes. -/
def element (reports : List FileReport) (summary : Option Summary) : Element :=
  .branch "files" (summary.toList.flatMap fun summary =>
      summary.fields.map fun (name, value) => (name, Text.ofInt value))
    (reports.map fileElement)

/-- A report in XML. -/
def renderXml (reports : List FileReport) (summary : Option Summary) : Text :=
  Element.render (element reports summary)

end Report

end DocAudit
