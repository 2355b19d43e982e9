import DocAudit.Text.Basic

/-!
# Pattern tokens

A pattern text is read token by token: a backslash forms one token with the character after it.
Joining the tokens gives the text back.
-/

namespace DocAudit.Pattern

/-- A unit of a pattern text. -/
inductive Token where
  | plain (c : Char)
  | escaped (c : Char)
  /-- A backslash at the very end. -/
  | dangling
  deriving DecidableEq, Repr

/-- The characters that make up a token. -/
def Token.text : Token → Text
  | plain c => [c]
  | escaped c => ['\\', c]
  | dangling => ['\\']

/-- Cut a pattern text into tokens. -/
def tokens : Text → List Token
  | [] => []
  | ['\\'] => [.dangling]
  | '\\' :: c :: rest => .escaped c :: tokens rest
  | c :: rest => .plain c :: tokens rest

end DocAudit.Pattern
