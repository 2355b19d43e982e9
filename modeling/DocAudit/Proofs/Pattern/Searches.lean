import DocAudit.Proofs.Pattern.Leads
import DocAudit.Proofs.Text.Positions

/-!
# Searches by position

A search for a run of characters and some nodes behind it, where the nodes cannot begin with a
character of the run. Whichever character of the run a match begins with, the nodes begin behind the
last one. So the search comes down to the positions directly behind such a character: it finds what
the nodes find at the first of them at which they match.
-/

namespace DocAudit.Pattern

open Text

/-- A search takes the first way of a position if every earlier position has the same one or none. -/
theorem Node.map_firstWay?_of_early {node : Node} {text : Text} {place : Nat} {way : Way}
    (here : (node.ways (text.drop place)).head? = some way)
    (early : ∀ before, before < place → node.ways (text.drop before) ≠ [] →
      (node.ways (text.drop before)).head? = some way) :
    (node.firstWay? text).map Prod.snd = some way := by
  induction text generalizing place with
  | nil =>
      rw [List.drop_nil] at here
      rw [Node.firstWay?_of_head? here, Option.map_some]
  | cons c rest ih =>
      cases place with
      | zero =>
          rw [List.drop_zero] at here
          rw [Node.firstWay?_of_head? here, Option.map_some]
      | succ place =>
          by_cases none : node.ways (c :: rest) = []
          · rw [Node.firstWay?_cons_of_nil none]
            refine ih here fun before earlier => ?_
            exact early (before + 1) (Nat.succ_lt_succ earlier)
          · have first := early 0 (Nat.succ_pos place) none
            rw [List.drop_zero] at first
            rw [Node.firstWay?_of_head? first, Option.map_some]

/-- Some nodes match at a position directly behind a character that passes a test. -/
structure MatchesBehind (test : CharTest) (nodes : List Node) (text : Text) (place : Nat) :
    Prop where
  behind : IsBehind test.accepts text place
  ways : (Node.sequence nodes).ways (text.drop place) ≠ []

section

variable {test : CharTest} {nodes : List Node} {text : Text} {place : Nat}
  (refused : ∀ c rest, test.accepts c → (Node.sequence nodes).ways (c :: rest) = [])

include refused

theorem head?_of_ways_ne_nil {rest : Text} (found : (Node.sequence nodes).ways rest ≠ []) :
    (rest.head?).all fun c => !test.accepts c := by
  cases rest with
  | nil => rfl
  | cons c rest =>
      rw [List.head?_cons, Option.all_some, Bool.not_eq_true', Bool.eq_false_iff]
      intro accepted
      exact found (refused c rest accepted)

/-- A run and the nodes behind it match only if the run reaches to a position at which the nodes do. -/
theorem exists_matchesBehind_of_ways
    (found : (Node.sequence (.many .greedy 1 none test :: nodes)).ways (text.drop place) ≠ []) :
    ∃ stop, place < stop ∧ MatchesBehind test nodes text stop ∧
      (∀ c ∈ slice text place stop, test.accepts c) ∧
      (Node.sequence (.many .greedy 1 none test :: nodes)).ways (text.drop place) =
        (Node.sequence nodes).ways (text.drop stop) := by
  rw [ways_many_sequence] at found ⊢
  have reached := found
  rw [Ne, List.flatMap_eq_nil_iff] at reached
  simp only [Classical.not_forall, exists_prop, mem_runRests_iff] at reached
  obtain ⟨rest, ⟨front, split, accepted, filled⟩, reached⟩ := reached
  have same : (runRests test 1 (text.drop place)).flatMap (Node.sequence nodes).ways =
      (Node.sequence nodes).ways rest := by
    rw [split]
    exact flatMap_runRests_of_refused refused accepted filled (head?_of_ways_ne_nil refused reached)
  have inside : place + front.length ≤ text.length := by
    have lengths := congrArg List.length split
    rw [List.length_drop, List.length_append] at lengths
    omega
  rw [← slice_of_drop_eq_append split] at accepted
  rw [drop_of_drop_eq_append split] at same reached
  refine ⟨place + front.length, by omega, ⟨?_, reached⟩, accepted, same⟩
  have last := List.getElem?_eq_getElem (by omega : place + front.length - 1 < text.length)
  refine ⟨_, _, by omega, last, accepted _ ?_⟩
  exact mem_slice_iff.mpr ⟨_, by omega, by omega, last⟩

/-- A search for a run and the nodes behind it finds what the nodes find at the first position behind
a character of such a run. -/
theorem map_firstWay?_of_first (first : MatchesBehind test nodes text place)
    (least : ∀ other, MatchesBehind test nodes text other → place ≤ other) :
    ((Node.sequence (.many .greedy 1 none test :: nodes)).firstWay? text).map Prod.snd =
      ((Node.sequence nodes).ways (text.drop place)).head? := by
  obtain ⟨way, others, ways⟩ := List.exists_cons_of_ne_nil first.ways
  obtain ⟨before, c, rfl, found, accepted⟩ := first.behind
  have head : ((Node.sequence nodes).ways (text.drop (before + 1))).head? = some way := by
    rw [ways, List.head?_cons]
  have stopped := head?_of_ways_ne_nil refused first.ways
  have last : (Node.sequence (.many .greedy 1 none test :: nodes)).ways (text.drop before) =
      (Node.sequence nodes).ways (text.drop (before + 1)) := by
    have single : ∀ d ∈ [c], test.accepts d := by simpa using accepted
    rw [ways_many_sequence, drop_eq_cons found]
    exact flatMap_runRests_of_refused refused single (Nat.le_refl 1) stopped
  rw [head]
  refine Node.map_firstWay?_of_early (last ▸ head) fun early earlier ways => ?_
  obtain ⟨stop, behind, there, run, same⟩ := exists_matchesBehind_of_ways refused ways
  have reached := least stop there
  obtain ⟨late, d, rfl, ends, -⟩ := there.behind
  rcases Nat.lt_or_eq_of_le reached with further | equal
  · -- The run would take the character at which the nodes begin.
    have within := (List.getElem?_eq_some_iff.mp ends).1
    have next := List.getElem?_eq_getElem (by omega : before + 1 < text.length)
    have taken := run _ (mem_slice_iff.mpr ⟨before + 1, by omega, further, next⟩)
    rw [drop_eq_cons next, List.head?_cons, Option.all_some, taken] at stopped
    exact absurd stopped Bool.false_ne_true
  · rw [same, ← equal, head]

/-- A search for a run and the nodes behind it finds nothing if they match nowhere behind a character
of such a run. -/
theorem firstWay?_eq_none_of_never (never : ∀ place, ¬ MatchesBehind test nodes text place) :
    (Node.sequence (.many .greedy 1 none test :: nodes)).firstWay? text = .none := by
  apply Node.firstWay?_eq_none
  intro rest suffix
  by_contra found
  rw [List.suffix_iff_eq_drop.mp suffix] at found
  obtain ⟨stop, -, there, -⟩ := exists_matchesBehind_of_ways refused found
  exact never stop there

end

end DocAudit.Pattern
