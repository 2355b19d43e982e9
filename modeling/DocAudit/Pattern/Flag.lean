import DocAudit.Pattern.Basic

/-!
# Pattern flags

Options that change what the parts of a pattern mean. They are in force for the whole pattern or
inside of a group.
-/

namespace DocAudit.Pattern

/-- Options that change what pattern parts mean. -/
inductive Flag where
  | ignoreCase
  | locale
  | multiline
  | dotAll
  | verbose
  | ascii
  | template
  | unicode
  deriving DecidableEq, Repr

/-- The flag of a letter. -/
def flagOf? (c : Char) : Option Flag :=
  match c with
  | 'i' => some .ignoreCase
  | 'L' => some .locale
  | 'm' => some .multiline
  | 's' => some .dotAll
  | 'x' => some .verbose
  | 'a' => some .ascii
  | 't' => some .template
  | 'u' => some .unicode
  | _ => none

/-- Flags that choose the character repertoire; they exclude each other. -/
def Flag.isType : Flag → Bool
  | ascii | unicode | locale => true
  | _ => false

/-- The flags in force after turning some on and others off. A repertoire that is turned on
replaces the one in force. -/
def combineFlags (flags on off : List Flag) : List Flag :=
  let kept := if on.any Flag.isType then flags.filter (!·.isType) else flags
  (kept ++ on).filter fun flag => !off.contains flag

/-- How case is treated under the given flags. -/
def caseRule? (flags : List Flag) : Option CaseRule :=
  if flags.contains .ignoreCase then
    some (if flags.contains .ascii then .ascii else .unicode)
  else none

end DocAudit.Pattern
