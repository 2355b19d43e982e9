import DocAudit.Proofs.Pattern.FirstWay

/-!
# Repeated tests in front of a sequence

A repeated test has a way for every place at which it can stop. This module says which texts these
places leave, and what becomes of a sequence of nodes behind it. Where the nodes behind cannot begin
with a character of the run, the run has to take all of its characters, so that neither its length
nor its characters show in what is found. Where they can, a run that is longer by one leaves them
one more place to begin.
-/

namespace DocAudit.Pattern

section

variable {test : CharTest} {least : Nat} {nodes : List Node} {front rest text : Text} {c : Char}

/-- What a repeated test may leave: a text behind a front that passes the test and is long enough. -/
theorem mem_runRests_iff : rest ∈ runRests test least text ↔
    ∃ front, text = front ++ rest ∧ (∀ c ∈ front, test.accepts c) ∧ least ≤ front.length := by
  rw [runRests_eq, List.mem_map]
  have whole := (List.takeWhile_prefix test.accepts (l := text)).length_le
  constructor
  · rintro ⟨further, few, rfl⟩
    rw [List.mem_reverse, List.mem_range] at few
    have length : (text.take (least + further)).length = least + further := by
      rw [List.length_take]
      omega
    have within : text.take (least + further) <+: text.takeWhile test.accepts := by
      apply List.prefix_of_prefix_length_le (List.take_prefix _ text) (List.takeWhile_prefix _)
      omega
    refine ⟨text.take (least + further), (List.take_append_drop _ text).symm, ?_, by omega⟩
    intro c mem
    exact List.all_eq_true.mp List.all_takeWhile c (within.subset mem)
  · rintro ⟨front, rfl, passes, enough⟩
    refine ⟨front.length - least, ?_, ?_⟩
    · rw [List.mem_reverse, List.mem_range, List.takeWhile_append_of_pos passes, List.length_append]
      omega
    · rw [Nat.add_sub_of_le enough, List.drop_left]

/-- A test in front of a sequence takes one character. -/
theorem exists_cons_of_ways_one (found : (Node.sequence (.one test :: nodes)).ways text ≠ []) :
    ∃ c rest, text = c :: rest ∧ test.accepts c ∧ (Node.sequence nodes).ways rest ≠ [] := by
  rw [Node.ways_sequence_cons] at found
  cases text with
  | nil => exact absurd rfl found
  | cons c rest =>
      by_cases accepted : test.accepts c
      · refine ⟨c, rest, rfl, accepted, ?_⟩
        intro none
        apply found
        rw [andThen, Node.ways, if_pos accepted, List.flatMap_singleton, none, List.map_nil]
      · apply absurd _ found
        rw [andThen, Node.ways, if_neg accepted, List.flatMap_nil]

/-- A literal in front of a sequence takes its characters. -/
theorem exists_append_of_ways_literal {expected : Text}
    (found : (Node.sequence (.literal expected :: nodes)).ways text ≠ []) :
    ∃ rest, text = expected ++ rest ∧ (Node.sequence nodes).ways rest ≠ [] := by
  induction expected generalizing text with
  | nil =>
      refine ⟨text, rfl, ?_⟩
      intro none
      apply found
      rw [Node.ways_sequence_cons, andThen_eq_nil_iff]
      intro way mem
      obtain rfl := List.mem_singleton.mp mem
      exact none
  | cons c expected ih =>
      have shape : (Node.sequence (.literal (c :: expected) :: nodes)).ways =
          (Node.sequence (.one (.char c) :: .literal expected :: nodes)).ways := by
        rw [Node.ways_sequence_cons, Node.literal, List.map_cons, Node.ways_sequence_cons,
          andThen_assoc, Node.ways_sequence_cons, Node.ways_sequence_cons, Node.literal]
      rw [shape] at found
      obtain ⟨d, rest, rfl, same, behind⟩ := exists_cons_of_ways_one found
      obtain ⟨rest, rfl, last⟩ := ih behind
      obtain rfl : d = c := by simpa [CharTest.accepts] using same
      exact ⟨rest, rfl, last⟩

/-- A sequence behind a repeated test is tried at every place at which the test can stop. -/
theorem ways_many_sequence (test : CharTest) (least : Nat) (nodes : List Node) (text : Text) :
    (Node.sequence (.many .greedy least none test :: nodes)).ways text =
      (runRests test least text).flatMap (Node.sequence nodes).ways := by
  rw [Node.ways_sequence_cons, andThen, Node.ways, List.flatMap_map]
  simp only [Way.nil_append, List.map_id]

/-- A sequence behind a captured repeated test is tried at the same places. -/
theorem ways_capture_sequence (group : Nat) (test : CharTest) (least : Nat) (nodes : List Node)
    (text : Text) :
    (Node.sequence (.capture group (.many .greedy least none test) :: nodes)).ways text =
      (runRests test least text).flatMap fun rest =>
        ((Node.sequence nodes).ways rest).map fun way =>
          ⟨text :: rest :: way.marks, way.rest⟩ := by
  rw [Node.ways_sequence_cons, andThen, Node.ways, Node.ways, List.flatMap_map, List.flatMap_map]
  rfl

/-- Nodes that cannot begin with a character of the run are only reached behind all of it. -/
theorem flatMap_runRests_of_refused {α : Type} {ways : Text → List α}
    (refused : ∀ c rest, test.accepts c → ways (c :: rest) = [])
    (accepted : ∀ c ∈ front, test.accepts c) (enough : least ≤ front.length)
    (stop : (rest.head?).all fun c => !test.accepts c) :
    (runRests test least (front ++ rest)).flatMap ways = ways rest := by
  induction front generalizing least with
  | nil =>
      obtain rfl : least = 0 := Nat.le_zero.mp enough
      rw [List.nil_append, runRests_zero_of_refused stop, List.flatMap_singleton]
  | cons c front ih =>
      obtain ⟨first, others⟩ := List.forall_mem_cons.mp accepted
      cases least with
      | zero =>
          rw [List.cons_append, runRests, if_pos first, List.flatMap_append,
            ih others (Nat.zero_le _), List.flatMap_singleton, refused c _ first, List.append_nil]
      | succ least =>
          rw [List.cons_append, runRests, if_pos first, ih others (Nat.le_of_succ_le_succ enough)]

/-- A search succeeds exactly if some suffix of the text has a way. -/
theorem Node.isSome_firstWay?_iff {node : Node} :
    (node.firstWay? text).isSome ↔ ∃ rest, rest <:+ text ∧ node.ways rest ≠ [] := by
  constructor
  · intro found
    obtain ⟨⟨start, way⟩, first⟩ := Option.isSome_iff_exists.mp found
    obtain ⟨suffix, mem⟩ := Node.mem_of_firstWay? first
    exact ⟨start, suffix, List.ne_nil_of_mem mem⟩
  · rintro ⟨rest, ⟨front, rfl⟩, found⟩
    obtain ⟨way, others, ways⟩ := List.exists_cons_of_ne_nil found
    induction front with
    | nil =>
        have head : (node.ways rest).head? = some way := by rw [ways, List.head?_cons]
        rw [List.nil_append, Node.firstWay?_of_head? head, Option.isSome_some]
    | cons c front ih =>
        rw [List.cons_append, Node.firstWay?, Option.isSome_or, ih, Bool.or_true]

/-- A search passes over a front at which nothing begins. -/
theorem Node.firstWay?_append_of_nil {node : Node}
    (none : ∀ late, late ≠ [] → late <:+ front → node.ways (late ++ rest) = []) :
    node.firstWay? (front ++ rest) = node.firstWay? rest := by
  induction front with
  | nil => rfl
  | cons c front ih =>
      have here := none (c :: front) (List.cons_ne_nil c front) (List.suffix_refl _)
      rw [List.cons_append] at here ⊢
      rw [Node.firstWay?_cons_of_nil here]
      apply ih
      intro late filled suffix
      exact none late filled (suffix.trans (List.suffix_cons c front))

/-- A search for a run of characters and nodes that cannot begin with one of them: the run is passed
over as a whole, and if nothing is found behind it, the search goes on there. -/
theorem map_firstWay?_of_refused
    (refused : ∀ c rest, test.accepts c → (Node.sequence nodes).ways (c :: rest) = [])
    (accepted : ∀ c ∈ front, test.accepts c) (filled : front ≠ [])
    (stop : (rest.head?).all fun c => !test.accepts c) :
    ((Node.sequence (.many .greedy 1 none test :: nodes)).firstWay? (front ++ rest)).map
        Prod.snd =
      (((Node.sequence nodes).ways rest).head?).or
        (((Node.sequence (.many .greedy 1 none test :: nodes)).firstWay? rest).map Prod.snd) := by
  induction front with
  | nil => exact absurd rfl filled
  | cons c front ih =>
      have others := (List.forall_mem_cons.mp accepted).2
      have enough : 1 ≤ (c :: front).length := by simp
      have here := flatMap_runRests_of_refused refused accepted enough stop
      rw [List.cons_append, Node.firstWay?, ways_many_sequence, ← List.cons_append, here,
        Option.map_or, Option.map_map]
      have snd : (Prod.snd ∘ fun way : Way => (c :: front ++ rest, way)) = id := rfl
      rw [snd, Option.map_id_fun, id_eq]
      cases front with
      | nil => rfl
      | cons d front =>
          rw [ih others (List.cons_ne_nil d front)]
          cases ((Node.sequence nodes).ways rest).head? <;> rfl

end

end DocAudit.Pattern
