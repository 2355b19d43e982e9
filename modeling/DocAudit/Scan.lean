import DocAudit.Check

/-!
# Scanning source text

A source text is scanned line by line. A doc block runs from an opening line to a closing line;
the line after the closing one belongs to the block and, if it declares a function, is checked
against it. Every other line that declares a function is reported as undocumented, also inside a
block. A block that is still open at the end is dropped.
-/

namespace DocAudit.Scan

/-- The message for a function without documentation. -/
def undocumentedMessage : Text :=
  "Method is not documented, or doc block is malformed"

/-- The lines of a source text: cut at line feeds, without trailing carriage returns. -/
def sourceLines (text : Text) : List Text :=
  (Text.splitOn '\n' text).map (Text.dropEndWhile (· == '\r'))

/-- Whether a line is the given mark between blanks, of which at least one stands before it. -/
def isMark (mark line : Text) : Bool :=
  let content := Text.trimStart line
  content.length < line.length && Text.startsWith content mark &&
    Text.allBlank (content.drop mark.length)

/-- Whether a line opens a doc block. -/
def opensBlock (line : Text) : Bool :=
  isMark "/**" line

/-- Whether a line closes a doc block. -/
def closesBlock (line : Text) : Bool :=
  isMark "*/" line

/-- The finding on a line that declares a function outside of the documented ones. -/
def undocumented (index : Nat) (line : Text) : List Finding :=
  match Signature.declared? line with
  | some signature => [⟨.error, undocumentedMessage, index, signature.name⟩]
  | none => []

/-- The findings on the line after a closed block. -/
def documented (settings : Settings) (block : Text) (index : Nat) (line : Text) : List Finding :=
  match Signature.documented? line with
  | some signature =>
    Check.method settings (DocBlock.extract settings.paramPattern block signature.parameters) index
      signature.name
  | none => []

/-- The block after a line that does not close it: a line that opens a block starts a new one. -/
def blockAfter (block : Option Text) (line : Text) : Option Text :=
  if opensBlock line then some line else block.map (· ++ line)

/-- The findings on the lines from an index on. The text of the open block, if there is one, is
carried along. -/
def findingsFrom (settings : Settings) : Option Text → Nat → List Text → List Finding
  | _, _, [] => []
  | none, index, line :: rest =>
    undocumented index line ++ findingsFrom settings (blockAfter none line) (index + 1) rest
  | some block, index, line :: rest =>
    if closesBlock line then
      match rest with
      | [] => []
      | next :: rest =>
        documented settings (block ++ line) (index + 1) next ++
          findingsFrom settings none (index + 2) rest
    else
      undocumented index line ++
        findingsFrom settings (blockAfter (some block) line) (index + 1) rest

/-- The blocks in front of documented signatures. The text of the open block, if there is one, is
carried along. -/
def documentedBlocks : Option Text → List Text → List Text
  | _, [] => []
  | none, line :: rest => documentedBlocks (blockAfter none line) rest
  | some block, line :: rest =>
    if closesBlock line then
      match rest with
      | [] => []
      | next :: rest =>
        (if (Signature.documented? next).isSome then [block ++ line] else []) ++
          documentedBlocks none rest
    else documentedBlocks (blockAfter (some block) line) rest

/-- Whether the pattern for parameter tags makes a source text impossible to scan. -/
def isTangled (settings : Settings) (text : Text) : Bool :=
  (documentedBlocks none (sourceLines text)).any (DocBlock.isTangled settings.paramPattern)

/-- The findings in a source text, in the order of lines. -/
def findings (settings : Settings) (text : Text) : List Finding :=
  findingsFrom settings none 0 (sourceLines text)

end DocAudit.Scan
