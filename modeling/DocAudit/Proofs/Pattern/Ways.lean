import DocAudit.Pattern.Matcher

/-!
# Ways of matching

The matcher works on positions in an array and on a memory that outlives failure. For the nodes
that the built-in patterns are made of, this module says what it finds without either: the ways
of matching a node at the beginning of a text form a list in order of preference, and a search
gives the first way at the first suffix that has one.

A way keeps the text that was ahead at every mark it set, so that what a group took is the part of
the text between two marks. Nodes are covered as long as their groups are numbered in the order in
which they are entered and stand neither in a loop nor inside of each other. This is not a
semantics of all patterns: a pattern given by options may hold any node.
-/

namespace DocAudit.Pattern

/-- A way of matching: the texts ahead at the marks that were set, in order, and the text that
remains. -/
structure Way where
  marks : List Text
  rest : Text
  deriving DecidableEq, Repr

/-- One way behind another. -/
def Way.append (first second : Way) : Way :=
  ⟨first.marks ++ second.marks, second.rest⟩

/-- What remains of a text behind a repeated test, the longest repetition first. -/
def runRests (test : CharTest) : Nat → Text → List Text
  | 0, [] => [[]]
  | 0, c :: rest =>
    if test.accepts c then runRests test 0 rest ++ [c :: rest] else [c :: rest]
  | _ + 1, [] => []
  | least + 1, c :: rest => if test.accepts c then runRests test least rest else []

/-- Everything that the second function finds behind what the first one finds. -/
def andThen (first second : Text → List Way) (text : Text) : List Way :=
  (first text).flatMap fun way => (second way.rest).map way.append

/-- The ways of matching a node at the beginning of a text, in order of preference. -/
def Node.ways : Node → Text → List Way
  | empty, text => [⟨[], text⟩]
  | one _, [] => []
  | one test, c :: rest => if test.accepts c then [⟨[], rest⟩] else []
  | many _ least _ test, text => (runRests test least text).map fun rest => ⟨[], rest⟩
  | seq first second, text => andThen first.ways second.ways text
  | capture _ body, text =>
    (body.ways text).map fun way => ⟨text :: way.marks ++ [way.rest], way.rest⟩
  | _, _ => []

/-- The number of marks behind a node that is entered with a number of them, if the node is one of
those that ways are for. -/
def Node.marksAfter? : Node → Nat → Option Nat
  | empty, count => some count
  | one _, count => some count
  | many .greedy _ none _, count => some count
  | seq first second, count => (first.marksAfter? count).bind second.marksAfter?
  | capture group body, count =>
    if count + 2 = 2 * group ∧ body.marksAfter? (count + 1) = some (count + 1) then
      some (count + 2)
    else none
  | _, _ => none

/-! ## Ways and suffixes -/

@[simp]
theorem Way.append_rest (first second : Way) : (first.append second).rest = second.rest := rfl

theorem Way.append_eq (first : Way) :
    first.append = fun second => ⟨first.marks ++ second.marks, second.rest⟩ := rfl

theorem Way.append_append (first second : Way) :
    (first.append second).append = first.append ∘ second.append := by
  funext third
  simp only [Function.comp_apply, Way.append, List.append_assoc]

theorem Way.nil_append (rest : Text) : (Way.mk [] rest).append = id := rfl

theorem andThen_assoc (first second third : Text → List Way) :
    andThen (andThen first second) third = andThen first (andThen second third) := by
  funext text
  simp only [andThen, List.flatMap_assoc, List.flatMap_map, List.map_flatMap, List.map_map,
    Way.append_append, Way.append_rest]

theorem andThen_empty (first : Text → List Way) :
    andThen first (fun rest => [⟨[], rest⟩]) = first := by
  funext text
  simp [andThen, Way.append]

theorem andThen_eq_nil_iff {first second : Text → List Way} {text : Text} :
    andThen first second text = [] ↔ ∀ way ∈ first text, second way.rest = [] := by
  simp only [andThen, List.flatMap_eq_nil_iff, List.map_eq_nil_iff]

/-- What a repeated test leaves is a suffix of the text. -/
theorem suffix_of_mem_runRests {test : CharTest} {least : Nat} {text rest : Text}
    (mem : rest ∈ runRests test least text) : rest <:+ text := by
  fun_induction runRests test least text with
  | case1 => simp_all
  | case2 c tail accepted ih =>
      rcases List.mem_append.mp mem with mem | mem
      · exact (ih mem).trans (List.suffix_cons c tail)
      · obtain rfl := List.mem_singleton.mp mem
        exact List.suffix_refl _
  | case3 c tail rejected =>
      obtain rfl := List.mem_singleton.mp mem
      exact List.suffix_refl _
  | case4 => simp at mem
  | case5 least c tail accepted ih => exact (ih mem).trans (List.suffix_cons c tail)
  | case6 => simp at mem

/-- All that a way keeps is a suffix of the text that it began with. -/
theorem Node.suffix_of_mem_ways {node : Node} {text : Text} {way : Way}
    (mem : way ∈ node.ways text) : (∀ mark ∈ way.marks, mark <:+ text) ∧ way.rest <:+ text := by
  induction node generalizing text way with
  | empty =>
      rw [List.mem_singleton.mp mem]
      simp
  | one test =>
      cases text with
      | nil => simp [Node.ways] at mem
      | cons c rest =>
          rw [Node.ways, List.mem_ite_nil_right, List.mem_singleton] at mem
          rw [mem.2]
          simp
  | many greed least most test =>
      rw [Node.ways, List.mem_map] at mem
      obtain ⟨rest, mem, rfl⟩ := mem
      simp [suffix_of_mem_runRests mem]
  | seq first second ihFirst ihSecond =>
      rw [Node.ways, andThen, List.mem_flatMap] at mem
      obtain ⟨front, memFront, mem⟩ := mem
      obtain ⟨back, memBack, rfl⟩ := List.mem_map.mp mem
      obtain ⟨frontMarks, frontRest⟩ := ihFirst memFront
      obtain ⟨backMarks, backRest⟩ := ihSecond memBack
      refine ⟨fun mark memMark => ?_, backRest.trans frontRest⟩
      rcases List.mem_append.mp memMark with memMark | memMark
      · exact frontMarks mark memMark
      · exact (backMarks mark memMark).trans frontRest
  | capture group body ih =>
      rw [Node.ways, List.mem_map] at mem
      obtain ⟨inner, memInner, rfl⟩ := mem
      obtain ⟨innerMarks, innerRest⟩ := ih memInner
      refine ⟨fun mark memMark => ?_, innerRest⟩
      simp only [List.cons_append, List.mem_cons, List.mem_append, List.not_mem_nil,
        or_false] at memMark
      rcases memMark with rfl | memMark | rfl
      · exact List.suffix_refl _
      · exact innerMarks mark memMark
      · exact innerRest
  | loop | either | atomic | look | backref | anchor | ifGroup => simp [Node.ways] at mem

/-! ## What a continuation does -/

/-- The position of a suffix of a text. -/
def positionOf (text suffix : Text) : Nat :=
  text.length - suffix.length

theorem positionOf_drop {text : Text} {position : Nat} (inside : position ≤ text.length) :
    positionOf text (text.drop position) = position := by
  rw [positionOf, List.length_drop]
  omega

/-- The marks of a way as the matcher keeps them. -/
def marksOf (text : Text) (marks : List Text) : Marks :=
  marks.map fun suffix => some (positionOf text suffix)

@[simp]
theorem Memory.goTo_marks (memory : Memory) (position : Nat) :
    (memory.goTo position).marks = memory.marks := rfl

/-- An attempt that was entered with some marks takes the first of the given ways. If there is none
it fails and leaves those marks in place, perhaps with others behind them. -/
def Outcome.Takes (text : Text) (outcome : Outcome) (marks : Marks) : List Way → Prop
  | [] => ∃ left, outcome = .failed left ∧ left.marks.take marks.length = marks
  | way :: _ =>
      outcome = .matched ⟨positionOf text way.rest, marks ++ marksOf text way.marks⟩

/-- A continuation takes the first of the ways that the text ahead has, whenever it is entered with
the given number of marks. Its opening does not rule out any way. -/
structure Continuation.Follows (text : Text) (next : Continuation) (count : Nat)
    (ways : Text → List Way) : Prop where
  opening : ∀ position, position ≤ text.length →
    next.opening.admits text.toArray position = false → ways (text.drop position) = []
  run : ∀ position memory, position ≤ text.length → memory.marks.length = count →
    (next.run position memory).Takes text memory.marks (ways (text.drop position))

/-- What is tried after a failure has the marks that the failed part was entered with. -/
theorem Outcome.takes_orElse {text : Text} {outcome : Outcome} {other : Memory → Outcome}
    {marks : Marks} {first second : List Way} (takes : outcome.Takes text marks first)
    (otherwise : ∀ left : Memory, left.marks.take marks.length = marks →
      (other left).Takes text marks second) :
    (outcome.orElse other).Takes text marks (first ++ second) := by
  cases first with
  | nil =>
      obtain ⟨left, rfl, kept⟩ := takes
      exact otherwise left kept
  | cons way others =>
      rw [Outcome.Takes] at takes
      subst takes
      rfl

/-- Nothing behind a match takes nothing. -/
theorem Continuation.follows_success (text : Text) (count : Nat) :
    Continuation.success.Follows text count fun rest => [⟨[], rest⟩] where
  opening := by
    intro position _ refused
    exact absurd refused (by simp [Continuation.success, Opening.admits])
  run := by
    intro position memory inside _
    simp [Outcome.Takes, Continuation.success, Memory.goTo, marksOf, positionOf_drop inside]

/-! ## Repeated tests -/

section

variable {text : Text} {test : CharTest}

theorem acceptsAt_eq (text : Text) (test : CharTest) (position : Nat) :
    test.acceptsAt text.toArray position = ((text.drop position).head?).any test.accepts := by
  rw [CharTest.acceptsAt, List.head?_drop]
  split
  case isTrue inside =>
      rw [List.size_toArray] at inside
      rw [List.getElem?_eq_getElem inside, Option.any_some, List.getElem_toArray]
  case isFalse outside =>
      rw [List.size_toArray] at outside
      rw [List.getElem?_eq_none (by omega), Option.any_none]

/-- A stretch ends behind the characters at its beginning that pass the test. -/
theorem stretch_eq (text : Text) (test : CharTest) (room position : Nat)
    (enough : text.length ≤ position + room) :
    stretch text.toArray test room position =
      position + ((text.drop position).takeWhile test.accepts).length := by
  induction room generalizing position with
  | zero =>
      rw [stretch, List.drop_eq_nil_of_le (by omega), List.takeWhile_nil, List.length_nil,
        Nat.add_zero]
  | succ room ih =>
      rw [stretch, acceptsAt_eq]
      cases ahead : text.drop position with
      | nil => simp
      | cons c rest =>
          have behind : text.drop (position + 1) = rest := by
            rw [← List.tail_drop, ahead, List.tail_cons]
          rw [List.head?_cons, Option.any_some, List.takeWhile_cons, ih _ (by omega), behind]
          split
          · rw [List.length_cons]
            omega
          · simp

/-- The rests of a repeated test by the number of characters that it takes. -/
theorem runRests_eq (test : CharTest) (least : Nat) (text : Text) :
    runRests test least text =
      (List.range ((text.takeWhile test.accepts).length + 1 - least)).reverse.map
        fun further => text.drop (least + further) := by
  fun_induction runRests test least text with
  | case1 => simp
  | case2 c rest accepted ih =>
      rw [ih, List.takeWhile_cons, if_pos accepted, List.length_cons, Nat.sub_zero, Nat.sub_zero,
        List.range_succ_eq_map (n := (List.takeWhile test.accepts rest).length + 1)]
      simp [Function.comp_def, Nat.add_comm]
  | case3 c rest rejected => simp [rejected]
  | case4 => simp
  | case5 least c rest accepted ih =>
      rw [ih, List.takeWhile_cons, if_pos accepted, List.length_cons, Nat.add_sub_add_right]
      apply List.map_congr_left
      intro further _
      rw [Nat.succ_add, List.drop_succ_cons]
  | case6 least c rest rejected => simp [rejected]

/-- Trying positions from high to low takes the first way that one of them has. The marks are set
back before each further try. -/
theorem tryDown_takes {next : Continuation} {count : Nat} {ways : Text → List Way}
    (follows : next.Follows text count ways) (low tries : Nat) (memory : Memory)
    (inside : low + tries ≤ text.length + 1) (length : memory.marks.length = count) :
    (tryDown text.toArray false next memory.marks low tries memory).Takes text memory.marks
      ((List.range tries).reverse.flatMap fun further => ways (text.drop (low + further))) := by
  generalize saved : memory.marks = marks
  rw [saved] at length
  induction tries generalizing memory with
  | zero =>
      refine ⟨memory, rfl, ?_⟩
      rw [saved, List.take_length]
  | succ tries ih =>
      rw [tryDown, List.range_succ, List.reverse_append, List.reverse_singleton,
        List.singleton_append, List.flatMap_cons]
      split
      case isTrue admitted =>
          have run := follows.run (low + tries) (memory.goTo (low + tries)) (by omega)
            (by rw [Memory.goTo_marks, saved, length])
          rw [Memory.goTo_marks, saved] at run
          refine Outcome.takes_orElse run fun left kept => ?_
          exact ih (left.restore false marks) (by omega) (by simp [Memory.restore, kept])
      case isFalse refused =>
          rw [follows.opening _ (by omega) (by simpa using refused), List.nil_append]
          refine ih _ (by omega) ?_
          split
          · exact saved
          · exact saved

/-- A greedy repetition takes the first way behind one of its rests. -/
theorem attemptMany_takes {next : Continuation} {count : Nat} {ways : Text → List Way}
    (follows : next.Follows text count ways) (least position : Nat) (memory : Memory)
    (inside : position ≤ text.length) (length : memory.marks.length = count) :
    (attemptMany text.toArray false .greedy least none test next position memory).Takes text
      memory.marks ((runRests test least (text.drop position)).flatMap ways) := by
  have taken : ((text.drop position).takeWhile test.accepts).length ≤ text.length - position := by
    rw [← List.length_drop]
    exact (List.takeWhile_prefix _).length_le
  rw [attemptMany, List.size_toArray, runRests_eq, List.flatMap_map]
  split
  case isTrue short =>
      have none : (List.range (((text.drop position).takeWhile test.accepts).length + 1 - least)) =
          [] := by
        rw [List.range_eq_nil]
        omega
      rw [none]
      exact ⟨memory, rfl, List.take_length⟩
  case isFalse enough =>
      have stop := stretch_eq text test (text.length - position) position (by omega)
      have tried := tryDown_takes follows (position + least)
        (((text.drop position).takeWhile test.accepts).length + 1 - least)
        (memory.goTo (cursorAfter test position
          (position + ((text.drop position).takeWhile test.accepts).length)))
        (by omega) length
      simp only [manyGreedy, List.size_toArray, Option.getD_none, Nat.min_self, stop]
      have tries : position + ((text.drop position).takeWhile test.accepts).length + 1 -
          (position + least) =
            ((text.drop position).takeWhile test.accepts).length + 1 - least := by
        omega
      rw [tries]
      simpa only [List.drop_drop, Nat.add_assoc, Function.comp_def, Memory.goTo_marks] using tried

end

/-! ## Attempts, matches and searches -/

/-- Setting the mark behind the last one adds it at the end. -/
theorem Marks.put_length (marks : Marks) (position : Nat) :
    marks.put marks.length position = marks ++ [some position] := by
  simp [Marks.put]

/-- Ways that set a mark before anything else. -/
def setMark (ways : Text → List Way) (text : Text) : List Way :=
  (ways text).map fun way => ⟨text :: way.marks, way.rest⟩

/-- A continuation may set the next mark before it goes on. -/
theorem Continuation.Follows.mark {text : Text} {next : Continuation} {count : Nat}
    {ways : Text → List Way} (follows : next.Follows text (count + 1) ways) :
    Continuation.Follows text
      ⟨.unknown, fun position memory => next.run position (memory.mark count position)⟩ count
      (setMark ways) := by
  constructor
  · intro position _ refused
    simp [Opening.admits] at refused
  · intro position memory inside length
    have marked : (memory.mark count position).marks = memory.marks ++ [some position] := by
      rw [Memory.mark, ← length, Marks.put_length]
    have run := follows.run position (memory.mark count position) inside (by simp [marked, length])
    rw [marked] at run
    rw [setMark]
    cases found : ways (text.drop position) with
    | nil =>
        rw [found] at run
        obtain ⟨left, failed, kept⟩ := run
        refine ⟨left, failed, ?_⟩
        have shorter := congrArg (List.take memory.marks.length) kept
        rwa [List.take_take, List.length_append, Nat.min_eq_left (Nat.le_add_right _ _),
          List.take_left] at shorter
    | cons way others =>
        rw [found] at run
        simpa [Outcome.Takes, marksOf, positionOf_drop inside] using run

section

variable {text : Text} {next : Continuation} {count : Nat} {ways : Text → List Way}

/-- A test in front of a continuation takes one character, if that passes. -/
theorem Continuation.Follows.one (follows : next.Follows text count ways) (test : CharTest) :
    Continuation.Follows text
      ⟨(Node.one test).opening next.opening, (Node.one test).attempt text.toArray false next⟩ count
      (andThen (Node.one test).ways ways) := by
  have single (position : Nat) : andThen (Node.one test).ways ways (text.drop position) =
      if test.acceptsAt text.toArray position then ways (text.drop (position + 1)) else [] := by
    rw [acceptsAt_eq, ← List.tail_drop]
    cases text.drop position with
    | nil => simp [andThen, Node.ways]
    | cons c rest =>
        rw [andThen, Node.ways, List.head?_cons, Option.any_some, List.tail_cons]
        split <;> simp [Way.nil_append]
  constructor
  · intro position _ refused
    rw [single, if_neg (by simpa [Node.opening, Opening.admits] using refused)]
  · intro position memory inside length
    show ((Node.one test).attempt text.toArray false next position memory).Takes text _ _
    rw [single, Node.attempt]
    split
    case isTrue accepted =>
        refine follows.run (position + 1) memory ?_ length
        rw [CharTest.acceptsAt] at accepted
        split at accepted
        case isTrue within =>
            rw [List.size_toArray] at within
            exact within
        case isFalse => exact absurd accepted Bool.false_ne_true
    case isFalse => exact ⟨memory, rfl, List.take_length⟩

/-- A greedy repetition in front of a continuation goes on behind each of its rests. -/
theorem Continuation.Follows.many (follows : next.Follows text count ways) (least : Nat)
    (test : CharTest) :
    Continuation.Follows text
      ⟨(Node.many .greedy least none test).opening next.opening,
        (Node.many .greedy least none test).attempt text.toArray false next⟩ count
      (andThen (Node.many .greedy least none test).ways ways) := by
  have repeated (rest : Text) : andThen (Node.many .greedy least none test).ways ways rest =
      (runRests test least rest).flatMap ways := by
    simp [andThen, Node.ways, List.flatMap_map, Way.nil_append]
  constructor
  · intro position _ refused
    simp [Node.opening, Opening.admits] at refused
  · intro position memory inside length
    show ((Node.many .greedy least none test).attempt text.toArray false next position
      memory).Takes text _ _
    rw [repeated, Node.attempt]
    exact attemptMany_takes follows least position memory inside length

/-- A group sets the next mark, goes through its body and sets another mark. -/
theorem Continuation.Follows.capture {group : Nat} {body : Node} (numbered : count + 2 = 2 * group)
    (inner : Continuation.Follows text
      ⟨body.opening .unknown, body.attempt text.toArray false
        ⟨.unknown, fun position memory => next.run position (memory.mark (count + 1) position)⟩⟩
      (count + 1) (andThen body.ways (setMark ways))) :
    Continuation.Follows text
      ⟨(Node.capture group body).opening next.opening,
        (Node.capture group body).attempt text.toArray false next⟩ count
      (andThen (Node.capture group body).ways ways) := by
  have grouped : andThen (Node.capture group body).ways ways =
      setMark (andThen body.ways (setMark ways)) := by
    funext rest
    simp [andThen, setMark, Node.ways, List.flatMap_map, List.map_flatMap, List.map_map,
      Function.comp_def, Way.append_eq]
  have first : 2 * group - 2 = count := by omega
  have last : 2 * group - 1 = count + 1 := by omega
  rw [grouped]
  constructor
  · intro position _ refused
    simp [Node.opening, Opening.admits] at refused
  · intro position memory inside length
    show ((Node.capture group body).attempt text.toArray false next position memory).Takes text _ _
    rw [Node.attempt, first, last]
    exact inner.mark.run position memory inside length

end

/-- A node followed by a continuation is a continuation for the ways of the node with those of the
continuation behind them. -/
theorem Node.attempt_follows {text : Text} {node : Node} {before after : Nat}
    (counted : node.marksAfter? before = some after) {next : Continuation}
    {ways : Text → List Way} (follows : next.Follows text after ways) :
    Continuation.Follows text ⟨node.opening next.opening, node.attempt text.toArray false next⟩
      before (andThen node.ways ways) := by
  induction node generalizing before after next ways with
  | empty =>
      obtain rfl : before = after := Option.some.inj counted
      have same : andThen Node.empty.ways ways = ways := by
        funext rest
        simp [andThen, Node.ways, Way.nil_append]
      rw [same]
      exact ⟨follows.opening, follows.run⟩
  | one test =>
      obtain rfl : before = after := Option.some.inj counted
      exact follows.one test
  | many greed least most test =>
      have greedy : greed = .greedy ∧ most = none ∧ before = after := by
        cases greed <;> cases most <;> simp_all [Node.marksAfter?]
      obtain ⟨rfl, rfl, rfl⟩ := greedy
      exact follows.many least test
  | seq first second ihFirst ihSecond =>
      obtain ⟨middle, countedFirst, countedSecond⟩ := Option.bind_eq_some_iff.mp counted
      have joined : andThen (Node.seq first second).ways ways =
          andThen first.ways (andThen second.ways ways) := by
        rw [← andThen_assoc]
        rfl
      rw [joined]
      have behind := ihFirst countedFirst (ihSecond countedSecond follows)
      exact ⟨behind.opening, behind.run⟩
  | capture group body ih =>
      rw [Node.marksAfter?, Option.ite_none_right_eq_some] at counted
      obtain ⟨⟨numbered, countedBody⟩, counted⟩ := counted
      obtain rfl : before + 2 = after := Option.some.inj counted
      exact .capture numbered (ih countedBody follows.mark)
  | loop | either | atomic | look | backref | anchor | ifGroup =>
      simp [Node.marksAfter?] at counted

/-- Neighbouring marks as pairs: the beginning and the end of each group. -/
def markPairs : List Text → List (Text × Text)
  | start :: stop :: others => (start, stop) :: markPairs others
  | _ => []

/-- What the groups of a way took. -/
def Way.groups (way : Way) : List Text :=
  (markPairs way.marks).map fun ends => ends.1.take (ends.1.length - ends.2.length)

/-- The first suffix of a text that has a way, with its first way. -/
def Node.firstWay? (node : Node) : Text → Option (Text × Way)
  | [] => (node.ways []).head?.map ([], ·)
  | c :: rest => ((node.ways (c :: rest)).head?.map (c :: rest, ·)).or (node.firstWay? rest)

/-- The match that a way stands for. -/
def matchOf (text start : Text) (way : Way) : Match where
  start := positionOf text start
  stop := positionOf text way.rest
  spans := (markPairs way.marks).map fun ends =>
    some (positionOf text ends.1, positionOf text ends.2)

/-- The marks of the matcher give the spans that the pairs of marks stand for. -/
theorem map_span?_marksOf (text : Text) (marks : List Text) (count : Nat)
    (length : marks.length = 2 * count) :
    (List.range count).map (fun index => (marksOf text marks).span? (index + 1)) =
      (markPairs marks).map fun ends => some (positionOf text ends.1, positionOf text ends.2) := by
  induction count generalizing marks with
  | zero =>
      obtain rfl : marks = [] := List.eq_nil_of_length_eq_zero length
      rfl
  | succ count ih =>
      match marks, length with
      | start :: stop :: others, length =>
          have shift : ∀ index, (marksOf text (start :: stop :: others)).span? (index + 1 + 1) =
              (marksOf text others).span? (index + 1) := by
            intro index
            have even : 2 * (index + 1 + 1) - 2 = 2 * (index + 1) - 2 + 2 := by omega
            have odd : 2 * (index + 1 + 1) - 1 = 2 * (index + 1) - 1 + 2 := by omega
            rw [Marks.span?, Marks.span?, even, odd]
            rfl
          have tail := ih others (by simp only [List.length_cons] at length; omega)
          rw [List.range_succ_eq_map, List.map_cons, List.map_map, markPairs, List.map_cons, ← tail]
          simp [Function.comp_def, shift]
          simp [Marks.span?, marksOf]

theorem markPairs_append (first second : List Text) (even : first.length % 2 = 0) :
    markPairs (first ++ second) = markPairs first ++ markPairs second := by
  fun_induction markPairs first with
  | case1 start stop others ih =>
      simp only [List.length_cons] at even
      rw [List.cons_append, List.cons_append, markPairs, ih (by omega), List.cons_append]
  | case2 first short =>
      match first, short, even with
      | [], _, _ => rfl
      | [_], _, even => simp at even
      | start :: stop :: others, short, _ => exact absurd rfl (short start stop others)

/-- A way sets as many marks as the node counts, two for each group, and a group ends behind its
beginning. -/
theorem Node.markPairs_of_mem_ways {node : Node} {before after : Nat}
    (counted : node.marksAfter? before = some after) {text : Text} {way : Way}
    (mem : way ∈ node.ways text) :
    before + way.marks.length = after ∧ way.marks.length % 2 = 0 ∧
      ∀ ends ∈ markPairs way.marks, ends.2 <:+ ends.1 ∧ ends.1 <:+ text := by
  induction node generalizing before after text way with
  | empty =>
      rw [List.mem_singleton.mp mem]
      simp_all [Node.marksAfter?, markPairs]
  | one test =>
      cases text with
      | nil => simp [Node.ways] at mem
      | cons c rest =>
          rw [Node.ways, List.mem_ite_nil_right, List.mem_singleton] at mem
          rw [mem.2]
          simp_all [Node.marksAfter?, markPairs]
  | many greed least most test =>
      rw [Node.ways, List.mem_map] at mem
      obtain ⟨rest, -, rfl⟩ := mem
      cases greed <;> cases most <;> simp_all [Node.marksAfter?, markPairs]
  | seq first second ihFirst ihSecond =>
      obtain ⟨middle, countedFirst, countedSecond⟩ := Option.bind_eq_some_iff.mp counted
      rw [Node.ways, andThen, List.mem_flatMap] at mem
      obtain ⟨front, memFront, mem⟩ := mem
      obtain ⟨back, memBack, rfl⟩ := List.mem_map.mp mem
      obtain ⟨frontLength, frontEven, frontPairs⟩ := ihFirst countedFirst memFront
      obtain ⟨backLength, backEven, backPairs⟩ := ihSecond countedSecond memBack
      have frontRest := (Node.suffix_of_mem_ways memFront).2
      rw [Way.append, List.length_append, markPairs_append _ _ frontEven]
      refine ⟨by omega, by omega, fun ends memEnds => ?_⟩
      rcases List.mem_append.mp memEnds with memEnds | memEnds
      · exact frontPairs ends memEnds
      · obtain ⟨ordered, inside⟩ := backPairs ends memEnds
        exact ⟨ordered, inside.trans frontRest⟩
  | capture group body ih =>
      rw [Node.marksAfter?, Option.ite_none_right_eq_some] at counted
      obtain ⟨⟨-, countedBody⟩, counted⟩ := counted
      rw [Node.ways, List.mem_map] at mem
      obtain ⟨inner, memInner, rfl⟩ := mem
      have innerLength := (ih countedBody memInner).1
      have unmarked : inner.marks = [] := List.eq_nil_of_length_eq_zero (by omega)
      have shorter := (Node.suffix_of_mem_ways memInner).2
      simp_all [markPairs]
  | loop | either | atomic | look | backref | anchor | ifGroup => simp [Node.ways] at mem

/-- Whether a pattern is made of the nodes that ways are for and searched at every position. -/
def IsPlain (pattern : Pattern) : Prop :=
  pattern.root.marksAfter? 0 = some (2 * pattern.groups) ∧ pattern.startsAnywhere ∧
    pattern.least = 0

section

variable {pattern : Pattern} {text : Text}

/-- A match at a position is the first way of the text from there on. -/
theorem matchAt?_eq (plain : pattern.IsPlain) {position : Nat} (inside : position ≤ text.length) :
    pattern.matchAt? text.toArray position =
      ((pattern.root.ways (text.drop position)).head?).map (matchOf text (text.drop position)) := by
  have follows := Node.attempt_follows plain.1
    (Continuation.follows_success text (2 * pattern.groups))
  have run := follows.run position ⟨position, []⟩ inside rfl
  rw [andThen_empty] at run
  rw [matchAt?]
  cases found : pattern.root.ways (text.drop position) with
  | nil =>
      rw [found] at run
      obtain ⟨left, failed, -⟩ := run
      have failed : pattern.root.attempt text.toArray false .success position ⟨position, []⟩ =
          .failed left := failed
      simp only [failed, List.head?_nil, Option.map_none]
  | cons way others =>
      rw [found] at run
      have matched : pattern.root.attempt text.toArray false .success position ⟨position, []⟩ =
          .matched ⟨positionOf text way.rest, marksOf text way.marks⟩ := run
      have length := (Node.markPairs_of_mem_ways plain.1 (found ▸ List.mem_cons_self)).1
      simp only [matched, List.head?_cons, Option.map_some, matchOf, positionOf_drop inside,
        map_span?_marksOf text way.marks pattern.groups (by omega)]

theorem searchFrom_eq (plain : pattern.IsPlain) (ahead position : Nat)
    (whole : position + ahead = text.length) :
    pattern.searchFrom text.toArray ahead position =
      (pattern.root.firstWay? (text.drop position)).map
        fun found => matchOf text found.1 found.2 := by
  induction ahead generalizing position with
  | zero =>
      rw [searchFrom, matchAt?_eq plain (by omega), List.drop_eq_nil_of_le (by omega),
        Node.firstWay?, Option.map_map]
      rfl
  | succ ahead ih =>
      obtain ⟨c, rest, cut⟩ : ∃ c rest, text.drop position = c :: rest := by
        apply List.exists_cons_of_ne_nil
        rw [Ne, List.drop_eq_nil_iff]
        omega
      have tail : text.drop (position + 1) = rest := by
        rw [← List.tail_drop, cut, List.tail_cons]
      rw [searchFrom, matchAt?_eq plain (by omega), plain.2.1, Bool.true_or, if_pos rfl,
        ih (position + 1) (by omega), tail, cut, Node.firstWay?]
      cases (pattern.root.ways (c :: rest)).head? <;> simp

/-- A search gives the match of the first way at the first suffix that has one. -/
theorem search?_eq (plain : pattern.IsPlain) (text : Text) :
    pattern.search? text =
      (pattern.root.firstWay? text).map fun found => matchOf text found.1 found.2 := by
  rw [search?, plain.2.2]
  simp only [List.size_toArray, Nat.not_lt_zero, if_false]
  rw [searchFrom_eq plain text.length 0 (Nat.zero_add _), List.drop_zero]

/-- The part of a text between the positions of two suffixes. -/
theorem slice_positionOf {start stop : Text} (ordered : stop <:+ start) (inside : start <:+ text) :
    slice text (positionOf text start) (positionOf text stop) =
      start.take (start.length - stop.length) := by
  obtain ⟨front, rfl⟩ := inside
  have shorter := ordered.length_le
  rw [slice, positionOf, positionOf, List.length_append, Nat.add_sub_cancel, List.drop_left]
  congr 1
  omega

/-- The suffix at which a search succeeds, and one of its ways. -/
theorem Node.mem_of_firstWay? {node : Node} {start : Text} {way : Way}
    (found : node.firstWay? text = some (start, way)) : start <:+ text ∧ way ∈ node.ways start := by
  induction text with
  | nil =>
      rw [Node.firstWay?, Option.map_eq_some_iff] at found
      obtain ⟨first, head, equal⟩ := found
      obtain ⟨rfl, rfl⟩ := Prod.mk.inj equal
      exact ⟨List.suffix_refl _, List.mem_of_head? head⟩
  | cons c rest ih =>
      rw [Node.firstWay?, Option.or_eq_some_iff] at found
      rcases found with found | ⟨-, found⟩
      · obtain ⟨first, head, equal⟩ := Option.map_eq_some_iff.mp found
        obtain ⟨rfl, rfl⟩ := Prod.mk.inj equal
        exact ⟨List.suffix_refl _, List.mem_of_head? head⟩
      · obtain ⟨suffix, mem⟩ := ih found
        exact ⟨suffix.trans (List.suffix_cons c rest), mem⟩

/-- What the groups of a search took. -/
theorem groups_search? (plain : pattern.IsPlain) (text : Text) :
    (pattern.search? text).map (Match.groups text) =
      (pattern.root.firstWay? text).map fun found => found.2.groups.map some := by
  rw [search?_eq plain, Option.map_map]
  apply Option.map_congr
  rintro ⟨start, way⟩ found
  obtain ⟨suffix, mem⟩ := Node.mem_of_firstWay? found
  have pairs := (Node.markPairs_of_mem_ways plain.1 mem).2.2
  simp only [Function.comp_apply, Match.groups, matchOf, Way.groups, List.map_map]
  apply List.map_congr_left
  intro ends memEnds
  obtain ⟨ordered, inside⟩ := pairs ends memEnds
  simp only [Function.comp_apply, Option.map_some,
    slice_positionOf ordered (inside.trans suffix)]

/-- No group of a plain pattern ends before it begins. -/
theorem isOrdered_of_search? (plain : pattern.IsPlain) {found : Match}
    (searched : pattern.search? text = some found) : found.isOrdered := by
  rw [search?_eq plain, Option.map_eq_some_iff] at searched
  obtain ⟨⟨start, way⟩, first, rfl⟩ := searched
  obtain ⟨-, mem⟩ := Node.mem_of_firstWay? first
  have pairs := (Node.markPairs_of_mem_ways plain.1 mem).2.2
  simp only [Match.isOrdered, matchOf, List.all_map, List.all_eq_true]
  intro ends memEnds
  have shorter := (pairs ends memEnds).1.length_le
  simp only [Function.comp_apply, Option.all_some, decide_eq_true_eq, positionOf]
  omega

end

end DocAudit.Pattern
