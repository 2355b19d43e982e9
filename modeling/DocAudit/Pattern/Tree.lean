import DocAudit.Pattern.Error
import DocAudit.Pattern.Flag

/-!
# Pattern trees

What a pattern text says, before flags are applied. `Tree.resolve` applies them and gives the node
that the matcher runs, or the first part that cannot be used under its flags. A look-behind
assertion keeps the numbers of characters that its body matches at least and at most, because only
a fixed number can be looked behind.
-/

namespace DocAudit.Pattern

/-- A member of a character set. -/
inductive Member where
  | code (code : Nat)
  | range (low high : Nat)
  | kind (kind : CharKind) (negated : Bool)
  deriving DecidableEq, Repr

/-- Conditions on a position, as they are written. -/
inductive Edge where
  | start
  | stop
  | textStart
  | textEnd
  | boundary (negated : Bool)
  deriving DecidableEq, Repr

/-- Parts of a pattern that hold no other parts. Two of them are the same if they are equal. -/
inductive Leaf where
  | code (code : Nat)
  | notCode (code : Nat)
  | any
  | set (negated : Bool) (members : List Member)
  | backref (group : Nat)
  | edge (edge : Edge)
  deriving DecidableEq, Repr

/-- Which way an assertion looks; backwards, with the widths of its body. -/
inductive Sight where
  | ahead
  | behind (least most : Nat)
  deriving DecidableEq, Repr

/-- What a pattern text says. -/
inductive Tree where
  | empty
  | leaf (leaf : Leaf)
  | seq (first second : Tree)
  | either (first second : Tree)
  | repeated (greed : Greed) (least : Nat) (most : Option Nat) (body : Tree)
  | group (capture : Option Nat) (on off : List Flag) (body : Tree)
  | atomic (body : Tree)
  | look (sight : Sight) (negated : Bool) (body : Tree)
  | ifGroup (group : Nat) (yes no : Tree)

/-- Trees one after the other. -/
def Tree.sequence : List Tree → Tree
  | [] => .empty
  | [tree] => tree
  | tree :: rest => .seq tree (sequence rest)

/-- Trees of which one is matched. The last one, if it is a choice itself, is set apart so that
it does not continue the list. -/
def Tree.choice : List Tree → Tree
  | [] => .empty
  | [.either first second] => .seq (.either first second) .empty
  | [tree] => tree
  | tree :: rest => .either tree (choice rest)

/-- The set items for a code point. No text holds a surrogate. -/
def codeItems (code : Nat) : List SetItem :=
  if 0xD800 ≤ code ∧ code ≤ 0xDFFF then [] else [.char (Char.ofNat code)]

/-- The items that a member adds to a set. -/
def Member.items (ascii : Bool) : Member → List SetItem
  | code point => codeItems point
  | range low high => [.range low high]
  | kind chars negated => [.ofKind chars ascii negated]

/-- Whether a member has case. All code points beyond the basic multilingual plane count as if
they had. -/
def Member.isCased (rule : CaseRule) : Member → Bool
  | code point => lastBasicCode < point || rule.anyCased point point
  | range low high => lastBasicCode < high || rule.anyCased low high
  | kind _ _ => false

/-- The test for a code point, or for all others. -/
def codeTest (negated : Bool) (code : Nat) : CharTest :=
  match codeItems code with
  | [.char c] => if negated then .notChar c else .char c
  | items => .set negated items

/-- The test for a letter in all its forms, or for all other characters. -/
def letterTest (rule : CaseRule) (negated : Bool) (code : Nat) : CharTest :=
  let lower := rule.lower code
  match rule with
  | .ascii => .letter rule negated lower
  | .unicode =>
    if (Text.equalForms lower).length = 1 then .letter rule negated lower
    else .folded rule negated (codeItems lower)

/-- The test for one code point, or for all others, under the given flags. -/
def resolveCode (flags : List Flag) (negated : Bool) (code : Nat) : CharTest :=
  match caseRule? flags with
  | none => codeTest negated code
  | some rule =>
    if rule.anyCased code code then letterTest rule negated code else codeTest negated code

/-- The test for a set under the given flags. -/
def resolveSet (flags : List Flag) (negated : Bool) (members : List Member) : CharTest :=
  let items := members.flatMap (Member.items (flags.contains .ascii))
  match caseRule? flags with
  | none => .set negated items
  | some rule =>
    if members.any (Member.isCased rule) then .folded rule negated items else .set negated items

/-- The condition that an edge stands for under the given flags. -/
def Edge.resolve (flags : List Flag) : Edge → Anchor
  | start => if flags.contains .multiline then .lineStart else .textStart
  | stop => if flags.contains .multiline then .lineEnd else .finalEnd
  | textStart => .textStart
  | textEnd => .textEnd
  | boundary negated => .wordBoundary (flags.contains .ascii) negated

/-- The test of a leaf that takes one character. -/
def Leaf.test? (flags : List Flag) : Leaf → Option CharTest
  | code point => some (resolveCode flags false point)
  | notCode point => some (resolveCode flags true point)
  | any => some (if flags.contains .dotAll then .any else .notNewline)
  | set negated members => some (resolveSet flags negated members)
  | backref _ => none
  | edge _ => none

/-- The node of a leaf. -/
def Leaf.resolve (flags : List Flag) : Leaf → Node
  | backref group => .backref group (caseRule? flags)
  | edge condition => .anchor (condition.resolve flags)
  | part => ((part.test? flags).map Node.one).getD .empty

/-- The test of a tree that takes one character and captures nothing. -/
def Tree.test? (flags : List Flag) : Tree → Option CharTest
  | leaf part => part.test? flags
  | group none on off body => body.test? (combineFlags flags on off)
  | _ => none

/-- The node of a tree under the given flags. Nothing can be repeated under the template flag,
and only a fixed number of characters can be looked behind. -/
def Tree.resolve (flags : List Flag) : Tree → Except Cause Node
  | empty => .ok .empty
  | leaf part => .ok (part.resolve flags)
  | seq first second => do return .seq (← first.resolve flags) (← second.resolve flags)
  | either first second => do return .either (← first.resolve flags) (← second.resolve flags)
  | repeated greed least most body =>
    if flags.contains .template then .error (.unsupportedTemplate greed)
    else
      match body.test? flags with
      | some test => .ok (.many greed least most test)
      | none => .loop greed least most <$> body.resolve flags
  | group none on off body => body.resolve (combineFlags flags on off)
  | group (some number) on off body =>
    .capture number <$> body.resolve (combineFlags flags on off)
  | atomic body => .atomic <$> body.resolve flags
  | look .ahead negated body => .look .ahead negated <$> body.resolve flags
  | look (.behind least most) negated body =>
    if least ≠ most then .error .variableLookbehind
    else .look (.behind least) negated <$> body.resolve flags
  | ifGroup number yes no => do return .ifGroup number (← yes.resolve flags) (← no.resolve flags)

/-- Whether a code point has case under the given flags. -/
def isCasedUnder (flags : List Flag) (code : Nat) : Bool :=
  (caseRule? flags).any fun rule => rule.anyCased code code

/-- Whether a tree begins with a character that is known, and whether it is nothing but known
characters. -/
def Tree.literalStart (flags : List Flag) : Tree → Bool × Bool
  | empty => (false, true)
  | leaf (.code point) => let known := !isCasedUnder flags point; (known, known)
  | group _ on off body => body.literalStart (combineFlags flags on off)
  | seq first second =>
    let (known, all) := first.literalStart flags
    if all then
      let (further, all) := second.literalStart flags
      (known || further, all)
    else (known, false)
  | _ => (false, false)

/-- Whether a tree begins with a code point without case. -/
def Tree.codeStart (flags : List Flag) : Tree → Bool
  | seq first _ => first.codeStart flags
  | leaf (.code point) => !isCasedUnder flags point
  | _ => false

/-- Whether every alternative of a choice begins with a code point without case. -/
def Tree.choiceStart (flags : List Flag) : Tree → Bool
  | either first second => first.codeStart flags && second.choiceStart flags
  | tree => tree.codeStart flags

/-- Whether a member of a set can be searched for without looking at case. -/
def Member.isPlainUnder (flags : List Flag) : Member → Bool
  | code point => !isCasedUnder flags point
  | range low high =>
    (caseRule? flags).all fun rule => high ≤ lastBasicCode && !rule.anyCased low high
  | kind _ _ => true

/-- Whether the first character of a match lies in a set that is known without looking at case. -/
def Tree.setStart (flags : List Flag) : Tree → Bool
  | seq first _ => first.setStart flags
  | group _ on off body => body.setStart (combineFlags flags on off)
  | leaf (.code point) => !isCasedUnder flags point
  | leaf (.set _ members) => members.all (Member.isPlainUnder flags)
  | either first second => first.codeStart flags && second.choiceStart flags
  | _ => false

/-- Whether a match begins with a character that can be searched for. -/
def Tree.hasKnownStart (flags : List Flag) (tree : Tree) : Bool :=
  (tree.literalStart flags).1 || tree.setStart flags

end DocAudit.Pattern
