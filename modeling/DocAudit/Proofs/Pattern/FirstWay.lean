import DocAudit.Proofs.Pattern.Ways

/-!
# The first way of a sequence

Rules by which the first way of a sequence of nodes is found on a text that is put together from
known parts, one rule for each kind of node. A repeated test takes the longest part that what
follows can live with; where that is not the longest part at all, the rule asks why the longer
ones fail. A pattern that needs a certain character finds nothing in a text without it.
-/

namespace DocAudit.Pattern

/-! ## Sequences -/

/-- The first node of a sequence comes before the others, also if there are none. -/
theorem Node.ways_sequence_cons (node : Node) (nodes : List Node) :
    (Node.sequence (node :: nodes)).ways = andThen node.ways (Node.sequence nodes).ways := by
  cases nodes with
  | nil => exact (andThen_empty node.ways).symm
  | cons second others => rfl

/-- The first way of matching nodes one after the other. -/
def FirstWay (nodes : List Node) (text : Text) (way : Way) : Prop :=
  ((Node.sequence nodes).ways text).head? = some way

theorem firstWay_nil (text : Text) : FirstWay [] text ⟨[], text⟩ := rfl

theorem ways_ne_nil_iff {nodes : List Node} {text : Text} :
    (Node.sequence nodes).ways text ≠ [] ↔ ∃ way, FirstWay nodes text way := by
  rw [Ne, ← List.head?_eq_none_iff, ← Ne, Option.ne_none_iff_exists']
  rfl

/-- A node with a single way is followed by the others behind that way. -/
theorem firstWay_of_ways_eq {node : Node} {nodes : List Node} {text : Text} {front back : Way}
    (single : node.ways text = [front]) (behind : FirstWay nodes front.rest back) :
    FirstWay (node :: nodes) text (front.append back) := by
  rw [FirstWay, Node.ways_sequence_cons, andThen, single, List.flatMap_singleton, List.head?_map,
    behind, Option.map_some]

theorem firstWay_one {test : CharTest} {nodes : List Node} {c : Char} {rest : Text} {way : Way}
    (accepted : test.accepts c) (behind : FirstWay nodes rest way) :
    FirstWay (.one test :: nodes) (c :: rest) way :=
  have single : (Node.one test).ways (c :: rest) = [⟨[], rest⟩] := by
    rw [Node.ways, if_pos accepted]
  firstWay_of_ways_eq single behind

/-- A literal has exactly one way of matching a text that begins with it. -/
theorem Node.ways_literal (expected rest : Text) :
    (Node.literal expected).ways (expected ++ rest) = [⟨[], rest⟩] := by
  induction expected with
  | nil => rfl
  | cons c expected ih =>
      rw [Node.literal, List.map_cons, Node.ways_sequence_cons, ← Node.literal, List.cons_append,
        andThen, Node.ways, if_pos (by simp [CharTest.accepts]), List.flatMap_singleton, ih]
      rfl

/-- A literal does not match a text that begins otherwise. -/
theorem Node.ways_sequence_literal_eq_nil {c d : Char} (other : d ≠ c) (expected rest : Text)
    (nodes : List Node) :
    (Node.sequence (.literal (c :: expected) :: nodes)).ways (d :: rest) = [] := by
  rw [Node.ways_sequence_cons, Node.literal, List.map_cons, Node.ways_sequence_cons, andThen_assoc,
    andThen, Node.ways, if_neg (by simpa [CharTest.accepts] using other), List.flatMap_nil]

theorem firstWay_literal {expected : Text} {nodes : List Node} {rest : Text} {way : Way}
    (behind : FirstWay nodes rest way) :
    FirstWay (.literal expected :: nodes) (expected ++ rest) way :=
  firstWay_of_ways_eq (Node.ways_literal expected rest) behind

/-! ## Repeated tests -/

section

variable {test : CharTest} {least : Nat} {front rest : Text} {nodes : List Node} {way : Way}

theorem runRests_zero_of_refused (refused : (rest.head?).all fun c => !test.accepts c) :
    runRests test 0 rest = [rest] := by
  cases rest with
  | nil => rfl
  | cons c tail =>
      rw [runRests, if_neg (by simpa using refused)]

theorem mem_runRests_zero (rest : Text) : rest ∈ runRests test 0 rest := by
  cases rest with
  | nil => simp [runRests]
  | cons c tail =>
      rw [runRests]
      split <;> simp

/-- A repetition that takes all of the front goes on as one that starts behind it; shorter ones come
later. -/
theorem exists_runRests_append (rest : Text) (accepted : ∀ c ∈ front, test.accepts c)
    (enough : least ≤ front.length) :
    ∃ shorter, runRests test least (front ++ rest) = runRests test 0 rest ++ shorter := by
  induction front generalizing least with
  | nil =>
      obtain rfl : least = 0 := Nat.le_zero.mp enough
      exact ⟨[], by simp⟩
  | cons c front ih =>
      have first : test.accepts c := accepted c (by simp)
      have others : ∀ d ∈ front, test.accepts d := fun d mem => accepted d (by simp [mem])
      cases least with
      | zero =>
          obtain ⟨shorter, longer⟩ := ih others (Nat.zero_le _)
          refine ⟨shorter ++ [c :: front ++ rest], ?_⟩
          rw [List.cons_append, runRests, if_pos first, longer, List.append_assoc]
      | succ least =>
          obtain ⟨shorter, longer⟩ := ih others (Nat.le_of_succ_le_succ enough)
          exact ⟨shorter, by rw [List.cons_append, runRests, if_pos first, longer]⟩

/-- Among alternatives of which only one gives anything, that one comes first. -/
theorem head?_flatMap_of_unique {α : Type} {rests : List Text} {ways : Text → List α} {found : α}
    (mem : rest ∈ rests) (unique : ∀ other ∈ rests, other = rest ∨ ways other = [])
    (head : (ways rest).head? = some found) : (rests.flatMap ways).head? = some found := by
  induction rests with
  | nil => exact absurd mem List.not_mem_nil
  | cons first others ih =>
      rw [List.flatMap_cons, List.head?_append]
      rcases unique first (by simp) with rfl | none
      · rw [head, Option.some_or]
      · rw [none, List.head?_nil, Option.none_or]
        rcases List.mem_cons.mp mem with rfl | mem
        · rw [none] at head
          exact absurd head (by simp)
        · exact ih mem fun other memOther => unique other (by simp [memOther])

/-- A repeated test, inside a group or not, ends in front of `rest` if what follows fails at every
later position. -/
theorem firstWay_of_runRests {node : Node} (wayTo : Text → Way)
    (ways : node.ways (front ++ rest) = (runRests test least (front ++ rest)).map wayTo)
    (ends : ∀ other, (wayTo other).rest = other) (accepted : ∀ c ∈ front, test.accepts c)
    (enough : least ≤ front.length)
    (fails : ∀ other ∈ runRests test 0 rest, other = rest ∨ (Node.sequence nodes).ways other = [])
    (behind : FirstWay nodes rest way) :
    FirstWay (node :: nodes) (front ++ rest) ((wayTo rest).append way) := by
  obtain ⟨shorter, split⟩ := exists_runRests_append rest accepted enough
  rw [FirstWay, Node.ways_sequence_cons, andThen, ways, split, List.map_append,
    List.flatMap_append, List.head?_append, List.flatMap_map]
  have head : ((runRests test 0 rest).flatMap fun other =>
      ((Node.sequence nodes).ways (wayTo other).rest).map (wayTo other).append).head? =
        some ((wayTo rest).append way) := by
    refine head?_flatMap_of_unique (mem_runRests_zero rest) (fun other mem => ?_) ?_
    · rcases fails other mem with same | none
      · exact .inl same
      · rw [ends, none]
        exact .inr rfl
    · rw [ends, List.head?_map, behind, Option.map_some]
  rw [head, Option.some_or]

/-- What follows is tried behind the longest run first, so a run that cannot go on is taken. -/
theorem firstWay_run (accepted : ∀ c ∈ front, test.accepts c) (enough : least ≤ front.length)
    (refused : (rest.head?).all fun c => !test.accepts c) (behind : FirstWay nodes rest way) :
    FirstWay (.many .greedy least none test :: nodes) (front ++ rest) way := by
  refine firstWay_of_runRests (fun other => ⟨[], other⟩) rfl (fun _ => rfl) accepted
    enough (fun other mem => .inl ?_) behind
  rwa [runRests_zero_of_refused refused, List.mem_singleton] at mem

/-- A run that may be empty and cannot begin is passed over. -/
theorem firstWay_skip (refused : (rest.head?).all fun c => !test.accepts c)
    (behind : FirstWay nodes rest way) :
    FirstWay (.many .greedy 0 none test :: nodes) rest way := by
  have skipped : FirstWay (.many .greedy 0 none test :: nodes) ([] ++ rest) way :=
    firstWay_run (by simp) (Nat.zero_le _) refused behind
  exact skipped

theorem firstWay_capture_run {group : Nat} (accepted : ∀ c ∈ front, test.accepts c)
    (enough : least ≤ front.length) (refused : (rest.head?).all fun c => !test.accepts c)
    (behind : FirstWay nodes rest way) :
    FirstWay (.capture group (.many .greedy least none test) :: nodes) (front ++ rest)
      ⟨(front ++ rest) :: rest :: way.marks, way.rest⟩ := by
  refine firstWay_of_runRests (fun other => ⟨[front ++ rest, other], other⟩)
    (by simp [Node.ways]) (fun _ => rfl) accepted enough (fun other mem => .inl ?_) behind
  rwa [runRests_zero_of_refused refused, List.mem_singleton] at mem

/-- A run that could go on is cut back to the last place where what follows matches. -/
theorem firstWay_capture_back {group : Nat} {c : Char} (accepted : ∀ d ∈ front, test.accepts d)
    (enough : least ≤ front.length)
    (fails : ∀ other, other <:+ rest → (Node.sequence nodes).ways other = [])
    (behind : FirstWay nodes (c :: rest) way) :
    FirstWay (.capture group (.many .greedy least none test) :: nodes) (front ++ c :: rest)
      ⟨(front ++ c :: rest) :: (c :: rest) :: way.marks, way.rest⟩ := by
  refine firstWay_of_runRests (fun other => ⟨[front ++ c :: rest, other], other⟩)
    (by simp [Node.ways]) (fun _ => rfl) accepted enough (fun other mem => ?_) behind
  rcases List.suffix_cons_iff.mp (suffix_of_mem_runRests mem) with same | shorter
  · exact .inl same
  · exact .inr (fails other shorter)

end

/-- What two groups of a sequence took. -/
theorem Way.groups_pair (first second : Text) {afterFirst afterSecond rest : Text} :
    (Way.mk [first ++ afterFirst, afterFirst, second ++ afterSecond, afterSecond] rest).groups =
      [first, second] := by
  simp [Way.groups, markPairs]

/-! ## Searches -/

theorem Node.firstWay?_of_head? {node : Node} {text : Text} {way : Way}
    (head : (node.ways text).head? = some way) : node.firstWay? text = some (text, way) := by
  cases text <;> simp [Node.firstWay?, head]

theorem Node.firstWay?_cons_of_nil {node : Node} {c : Char} {rest : Text}
    (none : node.ways (c :: rest) = []) : node.firstWay? (c :: rest) = node.firstWay? rest := by
  simp [Node.firstWay?, none]

theorem Node.firstWay?_eq_none {node : Node} {text : Text}
    (none : ∀ rest, rest <:+ text → node.ways rest = []) : node.firstWay? text = .none := by
  induction text with
  | nil => simp [Node.firstWay?, none [] (List.suffix_refl _)]
  | cons c rest ih =>
      rw [Node.firstWay?_cons_of_nil (none _ (List.suffix_refl _))]
      exact ih fun other suffix => none other (suffix.trans (List.suffix_cons c rest))

/-- Whether every way of matching a node takes a character that passes the given test. -/
def Node.needs (wanted : CharTest) : Node → Bool
  | one test => test = wanted
  | seq first second => first.needs wanted || second.needs wanted
  | capture _ body => body.needs wanted
  | _ => false

/-- Without a character that it needs a node does not match. -/
theorem Node.ways_eq_nil_of_needs {node : Node} (wanted : CharTest) (needs : node.needs wanted)
    {text : Text} (absent : ∀ c ∈ text, wanted.accepts c = false) : node.ways text = [] := by
  induction node generalizing text with
  | one test =>
      obtain rfl : test = wanted := by simpa [Node.needs] using needs
      cases text with
      | nil => rfl
      | cons c rest => simp [Node.ways, absent c]
  | seq first second ihFirst ihSecond =>
      rw [Node.ways, andThen_eq_nil_iff]
      rcases Bool.or_eq_true_iff.mp needs with needs | needs
      · rw [ihFirst needs absent]
        simp
      · intro way mem
        have suffix := (Node.suffix_of_mem_ways mem).2
        exact ihSecond needs fun c memRest => absent c (suffix.subset memRest)
  | capture group body ih => rw [Node.ways, ih needs absent, List.map_nil]
  | empty | many | loop | either | atomic | look | backref | anchor | ifGroup =>
      simp [Node.needs] at needs

/-- A search for something that needs a character finds nothing in a text without it. -/
theorem search?_eq_none_of_needs {pattern : Pattern} (plain : pattern.IsPlain)
    (wanted : CharTest) (needs : pattern.root.needs wanted) {text : Text}
    (absent : ∀ c ∈ text, wanted.accepts c = false) : pattern.search? text = none := by
  rw [search?_eq plain, Node.firstWay?_eq_none, Option.map_none]
  intro rest suffix
  exact Node.ways_eq_nil_of_needs wanted needs fun c mem => absent c (suffix.subset mem)

end DocAudit.Pattern
