import DocAudit.DocBlock
import DocAudit.Finding
import DocAudit.Settings

/-!
# Checking a documented function

Three rules, in this order: a description of one line only, a number of parameter tags that
differs from the number of parameters, and types outside the accepted ones. The first and the
third are warnings and can be switched off.
-/

namespace DocAudit.Check

/-- Types that a parameter tag may name under strict types. -/
def validTypes : List Text :=
  ["Boolean", "Null", "Undefined", "Number", "String", "Symbol", "Object", "Array", "Function"]

/-- The message for a description of one line. -/
def shortDescriptionMessage : Text :=
  "Code doc only contains one line of description"

/-- The message for tags that differ in number from the parameters. -/
def countMessage (documented actual : Nat) : Text :=
  "Documented arguments don't match method signature, " ++ Text.ofNat documented ++
    " documented, " ++ Text.ofNat actual ++ " actual"

/-- The message for a type that is not accepted. -/
def invalidTypeMessage (typeName : Text) : Text :=
  "Documented argument is not a valid type ( " ++ typeName ++ " )"

/-- A description of exactly one line. -/
def shortDescription (doc : MethodDoc) (line : Int) (method : Text) : List Finding :=
  if doc.description.length = 1 then [⟨.warning, shortDescriptionMessage, line, method⟩] else []

/-- A number of tags other than the number of parameters. A function without parameters may have
any number of tags. -/
def argumentCount (doc : MethodDoc) (line : Int) (method : Text) : List Finding :=
  if doc.tags.length ≠ doc.arguments.length ∧ !DocBlock.declaresNone doc.arguments then
    [⟨.error, countMessage doc.tags.length doc.arguments.length, line, method⟩]
  else []

/-- Tags with a type that is not accepted. -/
def invalidTypes (doc : MethodDoc) (line : Int) (method : Text) : List Finding :=
  (doc.tags.filter fun tag => !validTypes.contains tag.typeName).map fun tag =>
    ⟨.warning, invalidTypeMessage tag.typeName, line, method⟩

/-- The findings of one documented function. -/
def method (settings : Settings) (doc : MethodDoc) (line : Int) (name : Text) : List Finding :=
  (if settings.shortDocWarnings then shortDescription doc line name else []) ++
    argumentCount doc line name ++
    (if settings.strictTypes then invalidTypes doc line name else [])

end DocAudit.Check
