import DocAudit.Text.Quoted

/-!
# File faults

Why an access to the file tree fails, with the number and the wording that the operating system
gives to each reason.
-/

namespace DocAudit.Files

/-- Reasons of the operating system. -/
inductive Reason where
  | noEntry
  | alreadyExists
  | notDirectory
  | isDirectory
  | nameTooLong
  | tooManyLinks
  deriving DecidableEq, Repr

namespace Reason

/-- The error number of a reason. -/
def number : Reason → Nat
  | noEntry => 2
  | alreadyExists => 17
  | notDirectory => 20
  | isDirectory => 21
  | nameTooLong => 36
  | tooManyLinks => 40

/-- The text that goes with the error number. -/
def wording : Reason → Text
  | noEntry => "No such file or directory"
  | alreadyExists => "File exists"
  | notDirectory => "Not a directory"
  | isDirectory => "Is a directory"
  | nameTooLong => "File name too long"
  | tooManyLinks => "Too many levels of symbolic links"

end Reason

/-- A reason, and the path for which access was tried. -/
structure Fault where
  reason : Reason
  path : Text
  deriving DecidableEq, Repr

/-- A fault in words: its number, its text and the quoted path. -/
def Fault.message (fault : Fault) : Text :=
  "[Errno " ++ Text.ofNat fault.reason.number ++ "] " ++ fault.reason.wording ++ ": " ++
    Text.quoted fault.path

/-- Why an access fails: the operating system refuses it, or the path cannot be handed to it
because of a null character. -/
inductive AccessError where
  | refused (fault : Fault)
  | nullCharacter
  deriving DecidableEq, Repr

/-- The wording of a failed access. -/
def AccessError.message : AccessError → Text
  | refused fault => fault.message
  | nullCharacter => "embedded null byte"

end DocAudit.Files
