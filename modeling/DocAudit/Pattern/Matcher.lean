import DocAudit.Pattern.Basic

/-!
# Matching

A backtracking matcher. `Node.attempt` matches a node at a position and then runs what follows it;
the ways of matching a node are tried in order of preference until what follows succeeds.

An attempt works on a memory: the marks at which capture groups begin and end, and a cursor. The
memory outlives failure. Outside of loops only the number of marks is set back when another way is
tried, so a group that is being matched again may still show where it ended before; inside of a
loop the marks are set back as a whole. The cursor is where the part that was tried last was
entered, or where it ended if it succeeded. A possessive loop goes on at the cursor after its
body has failed, wherever the body left it.
-/

namespace DocAudit

namespace Pattern

/-- Where groups begin and end: the beginning of group `n` is mark `2 * n - 2` and its end is the
mark after that. Marks that were never set are missing, at the end altogether. -/
abbrev Marks := List (Option Nat)

namespace Marks

/-- Set a mark. -/
def put (marks : Marks) (index position : Nat) : Marks :=
  if index < marks.length then marks.set index (some position)
  else marks ++ List.replicate (index - marks.length) none ++ [some position]

/-- Where a group begins and ends. -/
def span? (marks : Marks) (group : Nat) : Option (Nat × Nat) := do
  let start ← (marks[2 * group - 2]?).join
  let stop ← (marks[2 * group - 1]?).join
  return (start, stop)

/-- Where a group that can be referred to begins and ends. A group that was entered again and not
left may end before it begins. -/
def matched? (marks : Marks) (group : Nat) : Option (Nat × Nat) :=
  (marks.span? group).filter fun span => span.1 ≤ span.2

end Marks

/-- What an attempt leaves behind. -/
structure Memory where
  cursor : Nat
  marks : Marks
  deriving DecidableEq, Repr

namespace Memory

/-- Move the cursor. -/
def goTo (memory : Memory) (position : Nat) : Memory :=
  { memory with cursor := position }

/-- Set a mark. -/
def mark (memory : Memory) (index position : Nat) : Memory :=
  { memory with marks := memory.marks.put index position }

/-- Set the marks back to saved ones: all of them in a loop, elsewhere only their number. -/
def restore (memory : Memory) (inLoop : Bool) (saved : Marks) : Memory :=
  { memory with marks := if inLoop then saved else memory.marks.take saved.length }

end Memory

/-- The end of an attempt. After a match the cursor is at its end. -/
inductive Outcome where
  | failed (memory : Memory)
  | matched (memory : Memory)
  deriving DecidableEq, Repr

/-- Go on after a failure. -/
def Outcome.orElse (outcome : Outcome) (other : Memory → Outcome) : Outcome :=
  match outcome with
  | failed memory => other memory
  | matched memory => .matched memory

/-- What a node begins with, as far as it can be told without trying the node. -/
inductive Opening where
  | unknown
  | test (test : CharTest)
  deriving DecidableEq, Repr

/-- What follows a node. -/
structure Continuation where
  opening : Opening
  run : Nat → Memory → Outcome

/-- Nothing follows. -/
def Continuation.success : Continuation :=
  ⟨.unknown, fun position memory => .matched (memory.goTo position)⟩

/-- The same continuation behind the end of an alternative, where its opening is not seen. -/
def Continuation.hidden (next : Continuation) : Continuation :=
  { next with opening := .unknown }

/-- The opening of a node with something behind it. -/
def Node.opening : Node → Opening → Opening
  | empty, behind => behind
  | one test, _ => .test test
  | seq first second, behind => first.opening (second.opening behind)
  | _, _ => .unknown

/-- Whether the character at a position passes a test. -/
def CharTest.acceptsAt (test : CharTest) (input : Array Char) (position : Nat) : Bool :=
  if h : position < input.size then test.accepts input[position] else false

/-- Whether an alternative with this opening is not tried at a position: it begins with a character
or a plain set that does not match. -/
def Opening.rulesOut (input : Array Char) (position : Nat) : Opening → Bool
  | test (.char c) => !(CharTest.char c).acceptsAt input position
  | test (.set negated items) => !(CharTest.set negated items).acceptsAt input position
  | _ => false

/-- Whether the character before or after a position is a word character. -/
def atWordBoundary (ascii : Bool) (input : Array Char) (position : Nat) : Bool :=
  let isWord (c? : Option Char) : Bool := c?.any fun c => CharKind.word.holds ascii c
  isWord (if position = 0 then none else input[position - 1]?) != isWord input[position]?

/-- Whether a position meets a condition. An empty text has neither word boundaries nor positions
that are none. -/
def Anchor.holds (input : Array Char) (position : Nat) : Anchor → Bool
  | textStart => position = 0
  | lineStart => position = 0 || input[position - 1]? = some '\n'
  | finalEnd =>
    position = input.size || (position + 1 = input.size && input[position]? = some '\n')
  | lineEnd => position = input.size || input[position]? = some '\n'
  | textEnd => position = input.size
  | wordBoundary ascii negated => !input.isEmpty && atWordBoundary ascii input position != negated

/-- Whether a further repetition is allowed. -/
def mayRepeat (most : Option Nat) (count : Nat) : Bool :=
  most.all (count < ·)

/-- Where characters that pass a test end, if at most a number of them is taken. -/
def stretch (input : Array Char) (test : CharTest) : Nat → Nat → Nat
  | 0, position => position
  | room + 1, position =>
    if test.acceptsAt input position then stretch input test room (position + 1) else position

/-- The cursor after characters have been counted from a position to another one. Sets of letters
in all their forms move it. -/
def cursorAfter (test : CharTest) (start stop : Nat) : Nat :=
  if test.isFolded then stop else start

/-- Whether something with this opening may match at a position. -/
def Opening.admits (input : Array Char) (position : Nat) : Opening → Bool
  | unknown => true
  | test first => first.acceptsAt input position

/-- Whether this is the opening of a single character. -/
def Opening.isChar : Opening → Bool
  | test (.char _) => true
  | _ => false

/-- Try what follows at positions from high to low, the lowest being `low`. Where it cannot begin
nothing is tried; if it begins with a single character, not even the cursor moves there. -/
def tryDown (input : Array Char) (inLoop : Bool) (next : Continuation) (saved : Marks)
    (low : Nat) : Nat → Memory → Outcome
  | 0, memory => .failed memory
  | count + 1, memory =>
    let position := low + count
    if next.opening.admits input position then
      (next.run position (memory.goTo position)).orElse fun left =>
        tryDown input inLoop next saved low count (left.restore inLoop saved)
    else
      tryDown input inLoop next saved low count
        (if next.opening.isChar then memory else memory.goTo position)

/-- Repeat a test, as often as possible first. -/
def manyGreedy (input : Array Char) (inLoop : Bool) (least : Nat) (most : Option Nat)
    (test : CharTest) (next : Continuation) (position : Nat) (memory : Memory) : Outcome :=
  let room := input.size - position
  let stop := stretch input test (min room (most.getD room)) position
  let low := position + least
  tryDown input inLoop next memory.marks low (stop + 1 - low)
    (memory.goTo (cursorAfter test position stop))

/-- Repeat a test as often as possible and in no other way. -/
def manyPossessive (input : Array Char) (least : Nat) (most : Option Nat) (test : CharTest)
    (next : Continuation) (position : Nat) (memory : Memory) : Outcome :=
  let room := input.size - position
  let stop := stretch input test (min room (most.getD room)) position
  let counted := memory.goTo (cursorAfter test position stop)
  if stop < position + least then .failed counted else next.run stop counted

/-- Try what follows at a position and, failing that, behind every further character that passes a
test, of which there are at most `most`. The number of characters ahead is given first. -/
def tryUp (input : Array Char) (inLoop : Bool) (test : CharTest) (next : Continuation)
    (saved : Marks) : Nat → Option Nat → Nat → Memory → Outcome
  | room, most, position, memory =>
    (next.run position (memory.goTo position)).orElse fun left =>
      let tried := (left.restore inLoop saved).goTo position
      match room with
      | 0 => .failed tried
      | room + 1 =>
        if !test.acceptsAt input position then .failed tried
        else
          let counted := tried.goTo (cursorAfter test position (position + 1))
          if most = some 0 then .failed counted
          else tryUp input inLoop test next saved room (most.map (· - 1)) (position + 1) counted

/-- Repeat a test, as seldom as possible first. -/
def manyReluctant (input : Array Char) (inLoop : Bool) (least : Nat) (most : Option Nat)
    (test : CharTest) (next : Continuation) (position : Nat) (memory : Memory) : Outcome :=
  let stop := stretch input test least position
  let counted := memory.goTo (cursorAfter test position stop)
  if stop < position + least then .failed counted
  else
    tryUp input inLoop test next memory.marks (input.size - stop) (most.map (· - least)) stop
      counted

/-- Repeat a test in the given order of preference. -/
def attemptMany (input : Array Char) (inLoop : Bool) (greed : Greed) (least : Nat)
    (most : Option Nat) (test : CharTest) (next : Continuation) (position : Nat)
    (memory : Memory) : Outcome :=
  if input.size < position + least then .failed memory
  else
    match greed with
    | .greedy => manyGreedy input inLoop least most test next position memory
    | .reluctant => manyReluctant input inLoop least most test next position memory
    | .possessive => manyPossessive input least most test next position memory

/-- The body of a loop. -/
abbrev Body := Continuation → Nat → Memory → Outcome

/-- Repeat a body as often as possible first, after `count` repetitions. A repetition that began at
`last` and did not move is the last one. -/
def loopGreedy (body : Body) (next : Continuation) (least : Nat) (most : Option Nat) :
    Nat → Nat → Option Nat → Nat → Memory → Outcome
  | 0, _, _, position, memory => .failed (memory.goTo position)
  | fuel + 1, count, last, position, memory =>
    let here := memory.goTo position
    let finish (left : Memory) : Outcome :=
      (next.run position left).orElse fun left => .failed (left.goTo position)
    if count < least then
      (body ⟨.unknown, loopGreedy body next least most fuel (count + 1) last⟩ position here).orElse
        fun left => .failed (left.goTo position)
    else if mayRepeat most count && last != some position then
      (body ⟨.unknown, loopGreedy body next least most fuel (count + 1) (some position)⟩
        position here).orElse fun left => finish ((left.restore true memory.marks).goTo position)
    else finish here

/-- Repeat a body as seldom as possible first, after `count` repetitions. -/
def loopReluctant (inLoop : Bool) (body : Body) (next : Continuation) (least : Nat)
    (most : Option Nat) : Nat → Nat → Option Nat → Nat → Memory → Outcome
  | 0, _, _, position, memory => .failed (memory.goTo position)
  | fuel + 1, count, last, position, memory =>
    let here := memory.goTo position
    let again (last : Option Nat) (start : Memory) : Outcome :=
      (body ⟨.unknown, loopReluctant inLoop body next least most fuel (count + 1) last⟩ position
        start).orElse fun left => .failed (left.goTo position)
    if count < least then again last here
    else
      (next.run position here).orElse fun left =>
        let tried := (left.restore inLoop memory.marks).goTo position
        if mayRepeat most count && last != some position then again (some position) tried
        else .failed tried

/-- Run a body a fixed number of times, each time in its preferred way only. -/
def exactly (body : Body) (start : Nat) : Nat → Memory → Outcome
  | 0, memory => .matched memory
  | n + 1, memory =>
    match body .success memory.cursor memory with
    | .matched left => exactly body start n left
    | .failed left => .failed (left.goTo start)

/-- Run a body as often as it matches, each time in its preferred way only. When it has failed the
marks are set back, but not the cursor. -/
def loopPossessive (body : Body) (most : Option Nat) : Nat → Nat → Option Nat → Memory → Memory
  | 0, _, _, memory => memory
  | fuel + 1, count, last, memory =>
    if mayRepeat most count && last != some memory.cursor then
      match body .success memory.cursor memory with
      | .matched left => loopPossessive body most fuel (count + 1) (some memory.cursor) left
      | .failed left => left.restore true memory.marks
    else memory

/-- A bound on the repetitions of a body. As long as repetitions only move forward there are fewer
of them than characters; a possessive loop in the body may move back. -/
def loopFuel (input : Array Char) (least : Nat) : Nat :=
  least + (input.size + 2) * (input.size + 2)

/-- Repeat a body in the given order of preference. -/
def attemptLoop (input : Array Char) (inLoop : Bool) (greed : Greed) (least : Nat)
    (most : Option Nat) (body : Body) (next : Continuation) (position : Nat) (memory : Memory) :
    Outcome :=
  let fuel := loopFuel input least
  let here := memory.goTo position
  match greed with
  | .greedy => loopGreedy body next least most fuel 0 none position here
  | .reluctant => loopReluctant inLoop body next least most fuel 0 none position here
  | .possessive =>
    match exactly body position least here with
    | .failed left => .failed left
    | .matched left =>
      let done := loopPossessive body most fuel least none left
      next.run done.cursor done

/-- Whether two characters are equal, or count as the same letter under a rule. -/
def sameUnder (rule : Option CaseRule) (c d : Char) : Bool :=
  match rule with
  | none => c == d
  | some rule => rule.lower c.toNat == rule.lower d.toNat

/-- The position behind a copy of some characters that stand at `source`. -/
def stepOver (input : Array Char) (rule : Option CaseRule) : Nat → Nat → Nat → Option Nat
  | 0, _, position => some position
  | count + 1, source, position =>
    match input[source]?, input[position]? with
    | some expected, some c =>
      if sameUnder rule c expected then stepOver input rule count (source + 1) (position + 1)
      else none
    | _, _ => none

/-- Where the body of an assertion begins. -/
def Direction.start? (position : Nat) : Direction → Option Nat
  | ahead => some position
  | behind width => if width ≤ position then some (position - width) else none

/-- Whether a node continues a list of alternatives. -/
def Node.isChoice : Node → Bool
  | either _ _ => true
  | _ => false

/-- Whether a node matches nothing and does nothing. -/
def Node.isEmpty : Node → Bool
  | empty => true
  | _ => false

/-- Try an alternative, given with its opening, unless it is ruled out. -/
def tryAlternative (input : Array Char) (inLoop : Bool) (opening : Opening) (body : Body)
    (next : Continuation) (position : Nat) (memory : Memory) : Outcome :=
  if opening.rulesOut input position then .failed memory
  else
    (body next.hidden position (memory.goTo position)).orElse fun left =>
      .failed (left.restore inLoop memory.marks)

/-- Match a node at a position, and what follows it by the continuation. `inLoop` says whether the
node is part of a loop that can give repetitions back. -/
def Node.attempt (input : Array Char) : Bool → Node → Body
  | _, empty, next, position, memory => next.run position memory
  | _, one test, next, position, memory =>
    if test.acceptsAt input position then next.run (position + 1) memory else .failed memory
  | inLoop, many greed least most test, next, position, memory =>
    attemptMany input inLoop greed least most test next position memory
  | inLoop, loop greed least most body, next, position, memory =>
    attemptLoop input inLoop greed least most
      (body.attempt input (inLoop || greed != .possessive)) next position memory
  | inLoop, seq first second, next, position, memory =>
    first.attempt input inLoop
      ⟨second.opening next.opening, second.attempt input inLoop next⟩ position memory
  | inLoop, either first second, next, position, memory =>
    (tryAlternative input inLoop (first.opening .unknown) (first.attempt input inLoop) next
      position memory).orElse fun left =>
        if second.isChoice then second.attempt input inLoop next position left
        else
          tryAlternative input inLoop (second.opening .unknown) (second.attempt input inLoop) next
            position left
  | inLoop, capture group body, next, position, memory =>
    body.attempt input inLoop
      ⟨.unknown, fun stop left => next.run stop (left.mark (2 * group - 1) stop)⟩ position
      (memory.mark (2 * group - 2) position)
  | inLoop, atomic body, next, position, memory =>
    match body.attempt input inLoop .success position (memory.goTo position) with
    | .failed left => .failed (left.goTo position)
    | .matched left => next.run left.cursor left
  | inLoop, look direction negated body, next, position, memory =>
    match direction.start? position with
    | none => if negated then next.run position memory else .failed memory
    | some start =>
      match body.attempt input inLoop .success start (memory.goTo start) with
      | .matched left => if negated then .failed left else next.run position left
      | .failed left =>
        if negated then next.run position (left.restore inLoop memory.marks) else .failed left
  | _, backref group rule, next, position, memory =>
    match (memory.marks.matched? group).bind fun span =>
        stepOver input rule (span.2 - span.1) span.1 position with
    | some stop => next.run stop memory
    | none => .failed memory
  | _, anchor condition, next, position, memory =>
    if condition.holds input position then next.run position memory else .failed memory
  | inLoop, ifGroup group yes no, next, position, memory =>
    if (memory.marks.matched? group).isSome then
      yes.attempt input inLoop (if no.isEmpty then next else next.hidden) position memory
    else no.attempt input inLoop next position memory

/-- A match: where it begins and ends, and where each capture group does, if it took part. -/
structure Match where
  start : Nat
  stop : Nat
  spans : List (Option (Nat × Nat))
  deriving DecidableEq, Repr

/-- Whether every group of a match ends where it begins or later. -/
def Match.isOrdered (found : Match) : Bool :=
  found.spans.all fun span => span.all fun ends => ends.1 ≤ ends.2

/-- The part of a text between two positions. -/
def slice (input : Text) (start stop : Nat) : Text :=
  (input.drop start).take (stop - start)

/-- What the groups of a match took of the text. -/
def Match.groups (input : Text) (found : Match) : List (Option Text) :=
  found.spans.map (·.map fun span => slice input span.1 span.2)

/-- Match at a position. -/
def matchAt? (pattern : Pattern) (input : Array Char) (position : Nat) : Option Match :=
  match pattern.root.attempt input false .success position ⟨position, []⟩ with
  | .failed _ => none
  | .matched memory =>
    some
      { start := position
        stop := memory.cursor
        spans := (List.range pattern.groups).map fun index => memory.marks.span? (index + 1) }

/-- Match at a position or, failing that, at a later one where the pattern may begin. The number of
characters ahead is given first. -/
def searchFrom (pattern : Pattern) (input : Array Char) : Nat → Nat → Option Match
  | 0, position => pattern.matchAt? input position
  | ahead + 1, position =>
    match pattern.matchAt? input position with
    | some found => some found
    | none =>
      if pattern.startsAnywhere || pattern.least ≤ ahead + 1 then
        pattern.searchFrom input ahead (position + 1)
      else none

/-- The leftmost match in a text. -/
def search? (pattern : Pattern) (text : Text) : Option Match :=
  let input := text.toArray
  if input.size < pattern.least then none else pattern.searchFrom input input.size 0

/-- Where a named group begins and ends. -/
def Match.named? (pattern : Pattern) (name : Text) (found : Match) : Option (Nat × Nat) := do
  let (_, group) ← pattern.names.find? (·.1 = name)
  (found.spans[group - 1]?).join

end Pattern

end DocAudit
