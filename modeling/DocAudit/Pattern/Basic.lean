import DocAudit.Text.Classes
import DocAudit.Text.LetterCase

/-!
# Patterns

Search patterns as the matcher runs them. A node says what to match; in which order the possible
matches are tried is the business of the matcher. Tests on a single character are kept apart from
the other nodes, because a repeated test needs none of the bookkeeping of a repeated node.
-/

namespace DocAudit

namespace Pattern

/-- Kinds of characters that a set may name. -/
inductive CharKind where
  | digit
  | blank
  | word
  deriving DecidableEq, Repr

/-- Whether a character is of a kind, among all scripts or among ASCII characters only. -/
def CharKind.holds (ascii : Bool) (c : Char) : CharKind → Bool
  | digit => if ascii then Text.isAsciiDigit c else Text.isDecimal c
  | blank => if ascii then c.toNat < 128 && Text.isBlank c && !(28 ≤ c.toNat && c.toNat ≤ 31)
    else Text.isBlank c
  | word => if ascii then Text.isAsciiWord c else Text.isWord c

/-- A member of a character set. -/
inductive SetItem where
  | char (c : Char)
  | range (low high : Nat)
  | ofKind (kind : CharKind) (ascii negated : Bool)
  deriving DecidableEq, Repr

/-- Which letters have case when case is ignored. -/
inductive CaseRule where
  | ascii
  | unicode
  deriving DecidableEq, Repr

/-- A test on one character. -/
inductive CharTest where
  | any
  | notNewline
  | char (c : Char)
  | notChar (c : Char)
  /-- The letter with the given lower-case form, or any other character. -/
  | letter (rule : CaseRule) (negated : Bool) (lower : Nat)
  | set (negated : Bool) (items : List SetItem)
  /-- A set in which letters stand for their other forms too. -/
  | folded (rule : CaseRule) (negated : Bool) (items : List SetItem)
  deriving DecidableEq, Repr

/-- Whether an item of a set contains a character. -/
def SetItem.accepts (c : Char) : SetItem → Bool
  | char d => c == d
  | range low high => low ≤ c.toNat && c.toNat ≤ high
  | ofKind kind ascii negated => kind.holds ascii c != negated

/-- The lower-case form of a code point. -/
def CaseRule.lower (code : Nat) : CaseRule → Nat
  | ascii => Text.asciiLowerCode code
  | unicode => Text.lowerCode code

/-- Whether some code point between two bounds has case. -/
def CaseRule.anyCased (low high : Nat) : CaseRule → Bool
  | ascii => Text.anyAsciiCased low high
  | unicode => Text.anyCased low high

/-- The code points that count as the same letter. -/
def CaseRule.variants (code : Nat) : CaseRule → List Nat
  | ascii => Text.asciiSameLetter code
  | unicode => Text.sameLetter code

/-- The last code point of the basic multilingual plane. -/
def lastBasicCode : Nat := 0xFFFF

/-- Whether an item accepts a character in one of its forms. Beyond the basic multilingual plane
an item stands only for itself: the lower-case form of the character must equal it, or lie in its
range, or have an upper-case form that does. -/
def SetItem.acceptsFolded (rule : CaseRule) (c : Char) : SetItem → Bool
  | char d =>
    if d.toNat ≤ lastBasicCode then (rule.variants c.toNat).contains d.toNat
    else rule.lower c.toNat == d.toNat
  | range low high =>
    let inside (code : Nat) : Bool := low ≤ code && code ≤ high
    (rule.variants c.toNat).any inside ||
      (lastBasicCode < high && inside (Text.upperCode (rule.lower c.toNat)))
  | ofKind kind ascii negated => kind.holds ascii c != negated

/-- Whether a character passes a test. -/
def CharTest.accepts (c : Char) : CharTest → Bool
  | any => true
  | notNewline => c != '\n'
  | char d => c == d
  | notChar d => c != d
  | letter rule negated lower => (rule.lower c.toNat == lower) != negated
  | set negated items => items.any (SetItem.accepts c) != negated
  | folded rule negated items => items.any (SetItem.acceptsFolded rule c) != negated

/-- Whether a test has to look up the forms of letters in a set. -/
def CharTest.isFolded : CharTest → Bool
  | folded _ _ _ => true
  | _ => false

/-- Which number of repetitions is tried first. A possessive repetition takes as many as it can
and never gives any back. -/
inductive Greed where
  | greedy
  | reluctant
  | possessive
  deriving DecidableEq, Repr

/-- Conditions on a position. -/
inductive Anchor where
  | textStart
  | lineStart
  /-- The end of the text, or before a line feed that ends it. -/
  | finalEnd
  | lineEnd
  | textEnd
  | wordBoundary (ascii negated : Bool)
  deriving DecidableEq, Repr

/-- Which way an assertion looks; backwards it looks a fixed number of characters. -/
inductive Direction where
  | ahead
  | behind (width : Nat)
  deriving DecidableEq, Repr

/-- What to match. An upper bound of `none` means that there is none. Alternatives form a list:
one that stands second and is itself a choice continues the list. -/
inductive Node where
  | empty
  | one (test : CharTest)
  | many (greed : Greed) (least : Nat) (most : Option Nat) (test : CharTest)
  | loop (greed : Greed) (least : Nat) (most : Option Nat) (body : Node)
  | seq (first second : Node)
  | either (first second : Node)
  | capture (group : Nat) (body : Node)
  | atomic (body : Node)
  | look (direction : Direction) (negated : Bool) (body : Node)
  | backref (group : Nat) (rule : Option CaseRule)
  | anchor (anchor : Anchor)
  | ifGroup (group : Nat) (yes no : Node)
  deriving Repr

/-- The nodes of a list one after the other. -/
def Node.sequence : List Node → Node
  | [] => .empty
  | [node] => node
  | node :: rest => .seq node (sequence rest)

/-- A text matched character by character. -/
def Node.literal (text : Text) : Node :=
  Node.sequence (text.map fun c => .one (.char c))

end Pattern

/-- A pattern: the text it was written as, its tree, the number of its capture groups, the names
that some of them have, and how a search may be cut short: by the least number of characters that
the pattern takes, and by whether a match may begin closer to the end than that. -/
structure Pattern where
  source : Text
  root : Pattern.Node
  groups : Nat
  names : List (Text × Nat) := []
  least : Nat := 0
  startsAnywhere : Bool := true

end DocAudit
