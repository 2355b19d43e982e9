import DocAudit.Pattern.Token
import DocAudit.Pattern.Tree
import DocAudit.Text.Names

/-!
# Reading patterns

From a pattern text to its tree, or to the first error in it. Reading goes token by token with
one token of look-ahead; a dangling backslash is therefore reported as soon as the token before it
is taken. Together with each part of the tree the reader computes how many characters it matches
at least and at most, which decides what may stand in a look-behind assertion.

Some texts say less than they seem to. A group that neither captures nor changes flags is replaced
by what it holds; what all alternatives begin with is taken out in front of them; and alternatives
that are single characters or sets are one set. Nesting is bounded by the number of tokens, which
serves as fuel.
-/

namespace DocAudit.Pattern

/-- Number of repetitions from which on a count is refused. -/
def repetitionLimit : Nat := 4294967295

/-- Number of groups from which on a reference is refused. -/
def groupLimit : Nat := 1073741823

/-- The least and the greatest number of characters that something matches. -/
structure Width where
  least : Nat
  most : Nat
  deriving DecidableEq, Repr

namespace Width

/-- No characters. -/
def zero : Width := ⟨0, 0⟩

/-- One character. -/
def one : Width := ⟨1, 1⟩

/-- The width of two things one after the other. -/
def add (first second : Width) : Width :=
  ⟨first.least + second.least, first.most + second.most⟩

/-- The width of two things of which one is matched. -/
def union (first second : Width) : Width :=
  ⟨min first.least second.least, max first.most second.most⟩

/-- The width of repetitions. -/
def times (width : Width) (least : Nat) (most : Option Nat) : Width :=
  ⟨width.least * least, width.most * most.getD repetitionLimit⟩

/-- Widths are counted only up to the greatest number of repetitions. -/
def capped (width : Width) : Width :=
  ⟨min width.least (repetitionLimit - 1), min width.most repetitionLimit⟩

end Width

/-- What the reader must know of an item to decide whether it can be repeated. -/
inductive ItemKind where
  | condition
  | repeated
  | other
  deriving DecidableEq

/-- An item of a sequence: its tree, and the leaf that it is if it is one. -/
structure Item where
  kind : ItemKind
  tree : Tree
  width : Width
  leaf? : Option Leaf := none

/-- What a part of the pattern text adds to a sequence: an item, or the items of a group that
neither captures nor changes flags. -/
inductive Entry where
  | item (item : Item)
  | bundle (items : List Item)

/-- The items that an entry stands for. -/
def Entry.items : Entry → List Item
  | item single => [single]
  | bundle items => items

/-- The tree of items one after the other. -/
def treeOf (items : List Item) : Tree :=
  Tree.sequence (items.map Item.tree)

/-- The width of items one after the other. -/
def widthOf (items : List Item) : Width :=
  ((items.map Item.width).foldr Width.add .zero).capped

/-- How far reading has come: the tokens ahead and their position, the groups opened so far with
their names, the widths of the closed ones, the number of groups before the outermost
look-behind assertion that is being read, the groups that conditions refer to, and the global
flags. -/
structure Progress where
  rest : List Token
  position : Nat
  groups : Nat
  names : List (Text × Nat)
  closed : List (Nat × Width)
  behind : Option Nat
  wanted : List (Nat × Nat)
  flags : List Flag

/-- A reading step. -/
abbrev Reading := StateT Progress (Except Error)

namespace Reading

/-- Stop with an error at a position. -/
def failAt {α : Type} (cause : Cause) (position : Nat) : Reading α :=
  throw ⟨cause, some position⟩

/-- Stop with an error a number of characters before the next token. -/
def fail {α : Type} (cause : Cause) (offset : Nat) : Reading α := do
  failAt cause ((← get).position - offset)

/-- The next token, which stays where it is. -/
def peek : Reading (Option Token) := do
  return (← get).rest.head?

/-- Take the next token, if there is one. -/
def take : Reading (Option Token) := do
  let progress ← get
  match progress.rest with
  | [] => return none
  | token :: rest =>
    let position := progress.position + token.text.length
    if rest.head? = some .dangling then failAt .danglingEscape position
    else
      set { progress with rest, position }
      return some token

/-- Take the next token if it is the given character. -/
def accept (c : Char) : Reading Bool := do
  if (← peek) = some (.plain c) then
    let _ ← take
    return true
  else return false

/-- Take characters that satisfy a test, up to a number of them. -/
def takeWhile (test : Char → Bool) : Nat → Reading Text
  | 0 => return []
  | n + 1 => do
    match ← peek with
    | some (.plain c) =>
      if test c then
        let _ ← take
        return c :: (← takeWhile test n)
      else return []
    | _ => return []

/-- All digits ahead. -/
def digits : Reading Text := do
  takeWhile Text.isAsciiDigit (← get).rest.length

/-- The text up to a closing character, which is taken too. The text must not be empty. -/
def takeUntilFrom (closing : Char) (what : Text) : Nat → Text → Reading Text
  | 0, _ => fail .unexpectedEnd 0
  | fuel + 1, taken => do
    match ← take with
    | none =>
      if taken.isEmpty then fail (.missingName what) 0
      else fail (.unterminatedName closing) taken.length
    | some token =>
      if token = .plain closing then
        if taken.isEmpty then fail (.missingName what) 1 else return taken
      else takeUntilFrom closing what fuel (taken ++ token.text)

/-- The text up to a closing character, which is taken but not returned. -/
def takeUntil (closing : Char) (what : Text) : Reading Text := do
  takeUntilFrom closing what ((← get).rest.length + 1) []

/-- Whether a group has been closed. -/
def isClosed (group : Nat) : Reading Bool := do
  return (← get).closed.any (·.1 = group)

/-- Inside a look-behind assertion only groups that were closed before it can be referred to. -/
def checkLookbehind (group : Nat) : Reading Unit := do
  match (← get).behind with
  | none => return ()
  | some before =>
    if !(← isClosed group) then fail .openReference 0
    else if before < group then fail .referenceWithinLookbehind 0
    else return ()

end Reading

open Reading

/-- The item of a leaf that takes one character. -/
def charItem (leaf : Leaf) : Item :=
  ⟨.other, .leaf leaf, .one, some leaf⟩

/-- The item of a code point. -/
def codeItem (code : Nat) : Item :=
  charItem (.code code)

/-- The item of a condition on a position. -/
def edgeItem (edge : Edge) : Item :=
  ⟨.condition, .leaf (.edge edge), .zero, some (.edge edge)⟩

/-- The kind of character that an escape letter stands for, and whether it is negated. -/
def kindEscape? (c : Char) : Option (CharKind × Bool) :=
  match c with
  | 'd' => some (.digit, false)
  | 'D' => some (.digit, true)
  | 's' => some (.blank, false)
  | 'S' => some (.blank, true)
  | 'w' => some (.word, false)
  | 'W' => some (.word, true)
  | _ => none

/-- The code point of a control escape, apart from the backspace. -/
def controlEscape? (c : Char) : Option Nat :=
  match c with
  | 'a' => some 7
  | 'f' => some 12
  | 'n' => some 10
  | 'r' => some 13
  | 't' => some 9
  | 'v' => some 11
  | '\\' => some 92
  | _ => none

/-- Whether a character is an octal digit. -/
def isOctal (c : Char) : Bool :=
  '0' ≤ c && c ≤ '7'

/-- The value of a run of octal digits. -/
def octalValue (digits : Text) : Nat :=
  digits.foldl (fun value c => value * 8 + (c.toNat - 48)) 0

/-- Whether a character is an ASCII letter. -/
def isAsciiLetter (c : Char) : Bool :=
  ('a' ≤ c && c ≤ 'z') || ('A' ≤ c && c ≤ 'Z')

/-- Hexadecimal digits of an escape that began at `start`; there must be exactly as many as
given. -/
def hexEscape (start : Nat) (letter : Char) (count : Nat) : Reading Nat := do
  let digits ← takeWhile (fun c => (Text.hexValue? c).isSome) count
  let escape := '\\' :: letter :: digits
  if digits.length ≠ count then failAt (.incompleteEscape escape) start
  else
    let code := (Text.hexNumber? digits).getD 0
    if 0x10FFFF < code then failAt (.badEscape escape) start else return code

/-- The code point of an escape that means the same inside and outside of sets, after its
letter, which began at `start`. -/
def commonEscape (start : Nat) (c : Char) : Reading Nat := do
  match c with
  | 'x' => hexEscape start c 2
  | 'u' => hexEscape start c 4
  | 'U' => hexEscape start c 8
  | 'N' =>
    if !(← accept '\x7b') then fail .missingBrace 0
    else
      let name ← takeUntil '\x7d' "character name"
      match Text.named? name with
      | some code => return code
      | none => failAt (.undefinedCharacter name) start
  | _ =>
    if isAsciiLetter c || Text.isAsciiDigit c then failAt (.badEscape ['\\', c]) start
    else return c.toNat

/-- An escape inside a set, after its token. -/
def setEscape (c : Char) : Reading Member := do
  let start := (← get).position - 2
  match kindEscape? c, controlEscape? c with
  | some (kind, negated), _ => return .kind kind negated
  | none, some code => return .code code
  | none, none =>
    if c = 'b' then return .code 8
    else if isOctal c then
      let digits := c :: (← takeWhile isOctal 2)
      if 0o377 < octalValue digits then failAt (.octalTooLarge ('\\' :: digits)) start
      else return .code (octalValue digits)
    else return .code (← commonEscape start c)

/-- A member of a set from its token. -/
def setMember : Token → Reading Member
  | .plain c => return .code c.toNat
  | .escaped c => setEscape c
  | .dangling => return .code 92

/-- The members of a set up to its closing bracket. The set began at `opening`; a bracket that
would close an empty set is a member. -/
def setMembers (opening : Nat) : Nat → Bool → Reading (List Member)
  | 0, _ => failAt .unterminatedSet opening
  | fuel + 1, first => do
    match ← take with
    | none => failAt .unterminatedSet opening
    | some this =>
      if this = .plain ']' && !first then return []
      else
        let low ← setMember this
        if !(← accept '-') then return low :: (← setMembers opening fuel false)
        else
          match ← take with
          | none => failAt .unterminatedSet opening
          | some that =>
            if that = .plain ']' then return [low, .code '-'.toNat]
            else
              let high ← setMember that
              let bad : Reading (List Member) :=
                fail (.badRange this.text that.text) (this.text.length + 1 + that.text.length)
              match low, high with
              | .code low, .code high =>
                if high < low then bad
                else return .range low high :: (← setMembers opening fuel false)
              | _, _ => bad

/-- The leaf of a set. A set with one code point is that code point. -/
def setLeaf (negated : Bool) (members : List Member) : Leaf :=
  match members.eraseDups with
  | [.code code] => if negated then .notCode code else .code code
  | members => .set negated members

/-- A set, after its opening bracket. -/
def charSet : Reading Item := do
  let opening := (← get).position - 1
  let negated ← accept '^'
  let members ← setMembers opening ((← get).rest.length + 1) true
  return charItem (setLeaf negated members)

/-- A reference to an earlier group. -/
def reference (group : Nat) : Reading Item := do
  checkLookbehind group
  let width := (((← get).closed.find? (·.1 = group)).map (·.2)).getD .zero
  return ⟨.other, .leaf (.backref group), width, some (.backref group)⟩

/-- An escape that begins with a digit other than zero: three octal digits are a code point,
anything else refers to a group. -/
def digitEscape (start : Nat) (c : Char) : Reading Item := do
  let second ← takeWhile Text.isAsciiDigit 1
  let third ←
    if isOctal c && second.any isOctal then takeWhile isOctal 1 else pure []
  let digits := c :: second ++ third
  if third ≠ [] then
    if 0o377 < octalValue digits then failAt (.octalTooLarge ('\\' :: digits)) start
    else return codeItem (octalValue digits)
  else
    let group := Text.digitsValue digits
    if (← get).groups < group then failAt (.invalidReference group) (start + 1)
    else if !(← isClosed group) then failAt .openReference start
    else reference group

/-- An escape outside of sets, after its token. -/
def escape (c : Char) : Reading Item := do
  let start := (← get).position - 2
  match kindEscape? c, controlEscape? c with
  | some (kind, negated), _ => return charItem (.set false [.kind kind negated])
  | none, some code => return codeItem code
  | none, none =>
    match c with
    | 'A' => return edgeItem .textStart
    | 'Z' => return edgeItem .textEnd
    | 'b' => return edgeItem (.boundary false)
    | 'B' => return edgeItem (.boundary true)
    | '0' => return codeItem (octalValue (c :: (← takeWhile isOctal 2)))
    | _ =>
      if Text.isAsciiDigit c then digitEscape start c
      else return codeItem (← commonEscape start c)

/-- How often something is repeated. -/
structure Repetition where
  least : Nat
  most : Option Nat

/-- The value of a bound. -/
def boundValue (digits : Text) : Reading Nat :=
  if Text.digitLimit < digits.length then throw ⟨.tooManyDigits digits.length, none⟩
  else
    let value := Text.digitsValue digits
    if repetitionLimit ≤ value then throw ⟨.repetitionTooLarge, none⟩ else return value

/-- Bounds in braces, after the opening brace. Anything that is not two bounds is no repetition,
and nothing of it is taken. -/
def bounds : Reading (Option Repetition) := do
  let progress ← get
  if (← accept '\x7d') then
    StateT.set progress
    return none
  else
    let low ← digits
    let high ← if (← accept ',') then digits else pure low
    if !(← accept '\x7d') then
      StateT.set progress
      return none
    else
      let least ← boundValue low
      let most ← if high.isEmpty then pure none else some <$> boundValue high
      if most.any (· < least) then failAt .leastAboveMost progress.position
      else return some ⟨least, most⟩

/-- The greed that the mark behind a repetition asks for. -/
def greedMark : Reading Greed := do
  if (← accept '?') then return .reluctant
  else if (← accept '+') then return .possessive
  else return .greedy

/-- Items repeated. -/
def repeatItems (greed : Greed) (repetition : Repetition) (items : List Item) : Item :=
  ⟨.repeated, .repeated greed repetition.least repetition.most (treeOf items),
    (widthOf items).times repetition.least repetition.most, none⟩

/-- Apply a repetition, whose text began at `start`, to the last of the entries read so far, which
are given latest first. -/
def quantify (start : Nat) (repetition : Repetition) (entries : List Entry) :
    Reading (List Entry) := do
  match entries with
  | [] => failAt .nothingToRepeat start
  | .item ⟨.condition, _, _, _⟩ :: _ => failAt .nothingToRepeat start
  | .item ⟨.repeated, _, _, _⟩ :: _ => failAt .multipleRepeat start
  | entry :: earlier =>
    return .item (repeatItems (← greedMark) repetition entry.items) :: earlier

/-- A token that is not a flag where a flag was expected. -/
def notFlag {α : Type} (token : Token) (otherwise : Cause) : Reading α :=
  match token with
  | .plain c => fail (if Text.isLetter c then .unknownFlag else otherwise) 1
  | _ => fail otherwise token.text.length

/-- Flags that are turned on, from the letter already taken to the character that ends them. -/
def flagsOn : Nat → Char → List Flag → Reading (List Flag × Char)
  | 0, _, _ => fail .missingFlagEnd 0
  | fuel + 1, c, on => do
    match flagOf? c with
    | none => fail .unknownFlag 1
    | some flag =>
      if flag = .locale then fail .localeFlag 0
      else if flag.isType && on.any (fun other => other.isType && other ≠ flag) then
        fail .incompatibleFlags 0
      else
        match ← take with
        | none => fail .missingFlagEnd 0
        | some (.plain next) =>
          if next = ')' ∨ next = '-' ∨ next = ':' then return (flag :: on, next)
          else if (flagOf? next).isSome then flagsOn fuel next (flag :: on)
          else notFlag (.plain next) .missingFlagEnd
        | some token => notFlag token .missingFlagEnd

/-- Flags that are turned off, from the letter already taken to the colon. -/
def flagsOff : Nat → Char → List Flag → Reading (List Flag)
  | 0, _, _ => fail .missingColon 0
  | fuel + 1, c, off => do
    match flagOf? c with
    | none => fail .unknownFlag 1
    | some flag =>
      if flag.isType then fail .typeFlagOff 0
      else
        match ← take with
        | none => fail .missingColon 0
        | some (.plain next) =>
          if next = ':' then return flag :: off
          else if (flagOf? next).isSome then flagsOff fuel next (flag :: off)
          else notFlag (.plain next) .missingColon
        | some token => notFlag token .missingColon

/-- Flags in a group, from the character already taken. Nothing is returned for flags of the
whole pattern, which are recorded; otherwise those turned on and those turned off in the group. -/
def groupFlags (c : Char) : Reading (Option (List Flag × List Flag)) := do
  let fuel := (← get).rest.length + 1
  let (on, ending) ← if c = '-' then pure ([], '-') else flagsOn fuel c []
  if ending = ')' then
    modify fun progress => { progress with flags := progress.flags ++ on }
    return none
  else if on.contains .template then fail .globalFlagOn 1
  else
    let off ←
      if ending = '-' then
        match ← take with
        | none => fail .missingFlag 0
        | some (.plain next) =>
          if (flagOf? next).isSome then flagsOff fuel next []
          else notFlag (.plain next) .missingFlag
        | some token => notFlag token .missingFlag
      else pure []
    if off.contains .template then fail .globalFlagOff 1
    else if on.any off.contains then fail .flagOnAndOff 1
    else return some (on, off)

/-- The end of a comment in a verbose pattern. -/
def skipLine : Nat → Reading Unit
  | 0 => return ()
  | fuel + 1 => do
    match ← take with
    | none => return ()
    | some token => if token = .plain '\n' then return () else skipLine fuel

/-- The end of a comment group that began at `start`. -/
def skipComment (start : Nat) : Nat → Reading Unit
  | 0 => failAt .unterminatedComment start
  | fuel + 1 => do
    match ← peek with
    | none => failAt .unterminatedComment start
    | some _ => if (← take) = some (.plain ')') then return () else skipComment start fuel

/-- The value of a numeral in digits of any script, where single underscores may stand between
digits. -/
def numeralValue? : Bool → Nat → Text → Option Nat
  | afterDigit, value, [] => if afterDigit then some value else none
  | afterDigit, value, c :: rest =>
    if c = '_' then if afterDigit then numeralValue? false value rest else none
    else do numeralValue? true (value * 10 + (← Text.decimalValue? c)) rest

/-- The number of a group, with an optional sign and blanks around it. A number with too many
digits cannot be read. -/
def groupNumber? (text : Text) : Option Nat :=
  if Text.digitLimit < (text.filter Text.isDecimal).length then none
  else match Text.trim text with
  | '+' :: rest => numeralValue? false 0 rest
  | '-' :: rest => do
    let value ← numeralValue? false 0 rest
    if value = 0 then some 0 else none
  | rest => numeralValue? false 0 rest

/-- A group name up to its closing character. -/
def groupName (closing : Char) : Reading Text := do
  let name ← takeUntil closing "group name"
  if Text.isIdentifier name then return name else fail (.badGroupName name) (name.length + 1)

/-- The number of the group with a name that has just been taken. -/
def groupNamed (name : Text) : Reading Nat := do
  match (← get).names.find? (·.1 = name) with
  | some (_, group) => return group
  | none => fail (.unknownGroupName name) (name.length + 1)

/-- The group that a condition refers to, by name or by number. A number may be that of a later
group. -/
def conditionGroup : Reading Nat := do
  let name ← takeUntil ')' "group name"
  let offset := name.length + 1
  if Text.isIdentifier name then groupNamed name
  else
    match groupNumber? name with
    | none => fail (.badGroupName name) offset
    | some group =>
      if group = 0 then fail .badGroupNumber offset
      else if groupLimit ≤ group then fail (.invalidReference group) offset
      else
        modify fun progress =>
          if progress.wanted.any (·.1 = group) then progress
          else { progress with wanted := progress.wanted ++ [(group, progress.position - offset)] }
        return group

/-- Open the next capture group. -/
def openGroup (name : Option Text) : Reading Nat := do
  let progress ← get
  let group := progress.groups + 1
  match name with
  | none =>
    StateT.set { progress with groups := group }
    return group
  | some name =>
    match progress.names.find? (·.1 = name) with
    | some (_, earlier) => fail (.redefinedGroupName name group earlier) (name.length + 1)
    | none =>
      StateT.set { progress with groups := group, names := progress.names ++ [(name, group)] }
      return group

/-- The closing parenthesis of a group that began at `start`. -/
def closeParenthesis (start : Nat) : Reading Unit := do
  if !(← accept ')') then failAt .unterminatedGroup start

/-- Take out what all alternatives begin with. The first argument is the first alternative. -/
def commonStart : List Item → List (List Item) → List Item × List (List Item)
  | [], others => ([], [] :: others)
  | item :: rest, others =>
    if item.leaf?.isSome && others.all (fun other => (other.head?.bind Item.leaf?) = item.leaf?) then
      let (shared, remaining) := commonStart rest (others.map List.tail)
      (item :: shared, remaining)
    else ([], (item :: rest) :: others)

/-- The members of a set that an alternative of one item could be replaced by. -/
def alternativeMembers? : List Item → Option (List Member)
  | [item] =>
    match item.leaf? with
    | some (.code code) => some [.code code]
    | some (.set false members) => some members
    | _ => none
  | _ => none

/-- The members of the set that alternatives could be replaced by. -/
def choiceMembers? : List (List Item) → Option (List Member)
  | [] => some []
  | alternative :: rest => do
    return (← alternativeMembers? alternative) ++ (← choiceMembers? rest)

/-- The item of alternatives. -/
def choiceItem (alternatives : List (List Item)) : Item :=
  match choiceMembers? alternatives with
  | some members => charItem (.set false members.eraseDups)
  | none =>
    ⟨.other, .choice (alternatives.map treeOf),
      (alternatives.map widthOf).foldr Width.union ⟨repetitionLimit - 1, 0⟩, none⟩

/-- The items that alternatives come down to. -/
def joinAlternatives : List (List Item) → List Item
  | [] => []
  | [items] => items
  | first :: others =>
    let (shared, remaining) := commonStart first others
    shared ++ [choiceItem remaining]

/-- What a group contributes to the sequence it stands in: nothing, global flags or an entry. -/
inductive GroupResult where
  | nothing
  | globalFlags
  | entry (entry : Entry)

/-- The result of a group that is one item. -/
def GroupResult.ofTree (tree : Tree) (width : Width) : GroupResult :=
  .entry (.item ⟨.other, tree, width, none⟩)

mutual

/-- Alternatives up to the end of a group or of the pattern. At the top level each alternative
is read under the global flags found so far. -/
def alternatives : Nat → Bool → Bool → Bool → Reading (List (List Item))
  | 0, _, _, _ => fail .unexpectedEnd 0
  | fuel + 1, verbose, top, first => do
    let progress ← get
    let verbose := if top then progress.flags.contains .verbose else verbose
    let items ← sequence fuel verbose (top && first) []
    if (← accept '|') then return items :: (← alternatives fuel verbose top false)
    else return [items]

/-- The items of a sequence after the entries already read, which are given latest first. Global
flags may be set only before the first item of the pattern. -/
def sequence : Nat → Bool → Bool → List Entry → Reading (List Item)
  | 0, _, _, _ => fail .unexpectedEnd 0
  | fuel + 1, verbose, first, entries => do
    match ← peek with
    | none | some (.plain '|') | some (.plain ')') => return entries.reverse.flatMap Entry.items
    | some token =>
      let start := (← get).position
      let _ ← take
      let continueWith (entries : List Entry) : Reading (List Item) :=
        sequence fuel verbose first entries
      let append (item : Item) : Reading (List Item) :=
        continueWith (.item item :: entries)
      let repeated (repetition : Repetition) : Reading (List Item) := do
        continueWith (← quantify start repetition entries)
      match token with
      | .escaped c => append (← escape c)
      | .dangling => continueWith entries
      | .plain c =>
        if verbose && " \t\n\r\x0b\x0c".toList.contains c then continueWith entries
        else if verbose && c = '#' then
          skipLine ((← get).rest.length + 1)
          continueWith entries
        else if c = '\x7b' then
          match ← bounds with
          | none => append (codeItem c.toNat)
          | some repetition => repeated repetition
        else if c = '(' then
          match ← group fuel verbose start with
          | .nothing => continueWith entries
          | .entry entry => continueWith (entry :: entries)
          | .globalFlags =>
            if first && entries.isEmpty then
              sequence fuel ((← get).flags.contains .verbose) first entries
            else failAt .lateGlobalFlags start
        else
          match c with
          | '[' => append (← charSet)
          | '*' => repeated ⟨0, none⟩
          | '+' => repeated ⟨1, none⟩
          | '?' => repeated ⟨0, some 1⟩
          | '.' => append (charItem .any)
          | '^' => append (edgeItem .start)
          | '$' => append (edgeItem .stop)
          | _ => append (codeItem c.toNat)

/-- The content of a group, which began at `start`, up to its closing parenthesis. -/
def content : Nat → Bool → Nat → Reading (List Item)
  | 0, _, _ => fail .unexpectedEnd 0
  | fuel + 1, verbose, start => do
    let items := joinAlternatives (← alternatives fuel verbose false false)
    closeParenthesis start
    return items

/-- A group, after its opening parenthesis at `start`. -/
def group : Nat → Bool → Nat → Reading GroupResult
  | 0, _, _ => fail .unexpectedEnd 0
  | fuel + 1, verbose, start => do
    let capturing (name : Option Text) : Reading GroupResult := do
      let group ← openGroup name
      let items ← content fuel verbose start
      let width := widthOf items
      modify fun progress => { progress with closed := (group, width) :: progress.closed }
      return .ofTree (.group (some group) [] [] (treeOf items)) width
    if !(← accept '?') then capturing none
    else
      match ← take with
      | none => fail .unexpectedEnd 0
      | some token =>
        let unknown : Reading GroupResult :=
          fail (.unknownExtension ('?' :: token.text)) (token.text.length + 1)
        match token with
        | .plain 'P' =>
          if (← accept '<') then capturing (some (← groupName '>'))
          else if (← accept '=') then
            let name ← groupName ')'
            let number ← groupNamed name
            if !(← isClosed number) then fail .openReference (name.length + 1)
            else return .entry (.item (← reference number))
          else
            match ← take with
            | none => fail .unexpectedEnd 0
            | some next =>
              fail (.unknownExtension ("?P" ++ next.text)) (next.text.length + 2)
        | .plain ':' => return .entry (.bundle (← content fuel verbose start))
        | .plain '>' =>
          let items ← content fuel verbose start
          return .ofTree (.atomic (treeOf items)) (widthOf items)
        | .plain '#' =>
          skipComment start ((← get).rest.length + 1)
          return .nothing
        | .plain '=' => lookAhead fuel verbose start false
        | .plain '!' => lookAhead fuel verbose start true
        | .plain '<' =>
          match ← take with
          | none => fail .unexpectedEnd 0
          | some next =>
            if next = .plain '=' then lookBehind fuel verbose start false
            else if next = .plain '!' then lookBehind fuel verbose start true
            else fail (.unknownExtension ("?<" ++ next.text)) (next.text.length + 2)
        | .plain '(' =>
          let number ← conditionGroup
          checkLookbehind number
          let yes ← sequence fuel verbose false []
          let no ←
            if (← accept '|') then
              let no ← sequence fuel verbose false []
              if (← peek) = some (.plain '|') then fail .tooManyBranches 0 else pure no
            else pure []
          closeParenthesis start
          return .ofTree (.ifGroup number (treeOf yes) (treeOf no)) ((widthOf yes).union (widthOf no))
        | .plain c =>
          if (flagOf? c).isSome ∨ c = '-' then
            match ← groupFlags c with
            | none => return .globalFlags
            | some (on, off) =>
              let inner := (verbose || on.contains .verbose) && !off.contains .verbose
              let items ← content fuel inner start
              return .ofTree (.group none on off (treeOf items)) (widthOf items)
          else unknown
        | _ => unknown

/-- An assertion about what follows. -/
def lookAhead : Nat → Bool → Nat → Bool → Reading GroupResult
  | 0, _, _, _ => fail .unexpectedEnd 0
  | fuel + 1, verbose, start, negated => do
    let items ← content fuel verbose start
    return .ofTree (.look .ahead negated (treeOf items)) .zero

/-- An assertion about what precedes. -/
def lookBehind : Nat → Bool → Nat → Bool → Reading GroupResult
  | 0, _, _, _ => fail .unexpectedEnd 0
  | fuel + 1, verbose, start, negated => do
    let outer := (← get).behind
    modify fun progress =>
      { progress with behind := progress.behind <|> some progress.groups }
    let items := joinAlternatives (← alternatives fuel verbose false false)
    modify fun progress => { progress with behind := outer }
    closeParenthesis start
    let width := widthOf items
    return .ofTree (.look (.behind width.least width.most) negated (treeOf items)) .zero

end

/-- A pattern that has been read as far as items. -/
def patternOf (source : Text) (progress : Progress) (items : List Item) : Except Error Pattern :=
  let tree := treeOf items
  match tree.resolve progress.flags with
  | .error cause => .error ⟨cause, none⟩
  | .ok root =>
    .ok
      { source, root, groups := progress.groups, names := progress.names,
        least := (widthOf items).least
        startsAnywhere := (widthOf items).least ≤ 1 || tree.hasKnownStart progress.flags }

/-- A whole pattern. -/
def wholePattern (source : Text) (fuel : Nat) : Reading Pattern := do
  let items := joinAlternatives (← alternatives fuel false true true)
  let progress ← get
  if progress.flags.contains .ascii && progress.flags.contains .unicode then
    throw ⟨.conflictingTypeFlags, none⟩
  else if !progress.rest.isEmpty then failAt .unbalancedParenthesis progress.position
  else
    match progress.wanted.find? fun reference => progress.groups < reference.1 with
    | some (group, position) => failAt (.invalidReference group) position
    | none => StateT.lift (patternOf source progress items)

/-- Read a pattern text. -/
def read (source : Text) : Except Error Pattern :=
  let pieces := tokens source
  if pieces.head? = some .dangling then .error ⟨.danglingEscape, some 0⟩
  else
    (wholePattern source (4 * pieces.length + 8)).run'
      { rest := pieces, position := 0, groups := 0, names := [], closed := [], behind := none,
        wanted := [], flags := [] }

end DocAudit.Pattern
