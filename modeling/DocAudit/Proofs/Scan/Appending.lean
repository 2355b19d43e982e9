import DocAudit.Proofs.Scan.Specification

/-!
# Scanning a text that goes on

What is appended to a text never changes what has been found in it. If the text leaves nothing
behind, neither an open block nor a closed one that still waits for its line, then the appended
lines are scanned as a text of their own and only their numbers are moved.

Both facts are proved for the walk over the lines, first without any condition and then by the
invariant that links the open block to the indices. Findings and the blocks in front of signatures
are two instances of the walk.
-/

namespace DocAudit

/-- A finding that is moved down by a number of lines. -/
def Finding.shift (offset : Nat) (finding : Finding) : Finding :=
  { finding with line := finding.line + offset }

namespace Scan

/-- Lines that leave nothing behind: every block that they open is closed among them, and the last
line closes none, so that the line behind them is not consumed. -/
structure Settled (lines : List Text) : Prop where
  outside : ∀ start < lines.length, Opens lines start →
    ∃ stop, start < stop ∧ stop < lines.length ∧ Closes lines stop
  last : ¬ Closes lines (lines.length - 1)

/-! ## Walks over more lines -/

section

variable {α : Type} {plain : Nat → Text → List α} {closed : Text → Nat → Text → List α}
variable {lines more : List Text}

/-- A walk over more lines begins with what it gives on the first of them. -/
theorem walk_prefix_append (block : Option Text) (index : Nat) (lines more : List Text) :
    walk plain closed block index lines <+: walk plain closed block index (lines ++ more) := by
  fun_induction walk plain closed block index lines with
  | case1 => exact List.nil_prefix
  | case2 index line rest ih =>
      rw [List.cons_append, walk]
      exact (List.prefix_append_right_inj _).mpr ih
  | case3 block index line marked => exact List.nil_prefix
  | case4 block index line marked next rest ih =>
      rw [List.cons_append, List.cons_append, walk, if_pos marked]
      exact (List.prefix_append_right_inj _).mpr ih
  | case5 block index line rest unmarked ih =>
      rw [List.cons_append, walk_cons_of_not_closesBlock _ _ unmarked]
      exact (List.prefix_append_right_inj _).mpr ih

/-- At the end of settled lines no block is open. -/
theorem Settled.eq_none_of_tracks (settled : Settled lines) {block : Option Text}
    (tracks : Tracks lines lines.length block) : block = none := by
  cases block with
  | none => rfl
  | some text =>
      obtain ⟨start, below, opens, between, -⟩ := tracks
      obtain ⟨stop, after, before, closes⟩ := settled.outside start below opens
      exact absurd closes (between stop after before).2

/-- A walk goes on behind settled lines as if it began there. The induction is the one over the
remaining lines, with the invariant on the open block. -/
theorem walk_append_of_settled (settled : Settled lines) (block : Option Text) (index : Nat)
    (rest : List Text) (ahead : lines.drop index = rest) (inside : index ≤ lines.length)
    (free : ¬ Consumed lines index) (tracks : Tracks lines index block) :
    walk plain closed block index (rest ++ more) =
      walk plain closed block index rest ++ walk plain closed none lines.length more := by
  fun_induction walk plain closed block index rest with
  | case1 block index =>
      have ended : index = lines.length :=
        Nat.le_antisymm inside (List.drop_eq_nil_iff.mp ahead)
      subst ended
      rw [settled.eq_none_of_tracks tracks, List.nil_append, List.nil_append]
  | case2 index line rest ih =>
      have found := getElem?_of_drop_eq_cons ahead
      have stays := not_closes_of_tracks_none tracks
      have further : index + 1 ≤ lines.length := (List.getElem?_eq_some_iff.mp found).1
      rw [List.cons_append, walk, List.append_assoc,
        ih (drop_succ_of_drop_eq_cons ahead) further (by rwa [consumed_succ])
          (tracks_succ tracks free stays found)]
  | case3 block index line marked =>
      -- A block that is closed on the last line would consume the first of the new ones.
      have found := getElem?_of_drop_eq_cons ahead
      have closes := (closes_iff_of_tracks_some tracks free found).mpr marked
      have last : index = lines.length - 1 := by
        have remaining := congrArg List.length ahead
        rw [List.length_drop, List.length_singleton] at remaining
        omega
      exact absurd (last ▸ closes) settled.last
  | case4 block index line marked next rest ih =>
      have found := getElem?_of_drop_eq_cons ahead
      have behind := drop_succ_of_drop_eq_cons ahead
      have closes := (closes_iff_of_tracks_some tracks free found).mpr marked
      have further : index + 2 ≤ lines.length :=
        (List.getElem?_eq_some_iff.mp (getElem?_of_drop_eq_cons behind)).1
      rw [List.cons_append, List.cons_append, walk, if_pos marked, List.append_assoc,
        ih (drop_succ_of_drop_eq_cons behind) further (not_consumed_of_closes_before closes)
          (tracks_none_of_closes closes)]
  | case5 block index line rest unmarked ih =>
      have found := getElem?_of_drop_eq_cons ahead
      have stays : ¬ Closes lines index := by
        rwa [closes_iff_of_tracks_some tracks free found]
      have further : index + 1 ≤ lines.length := (List.getElem?_eq_some_iff.mp found).1
      rw [List.cons_append, walk_cons_of_not_closesBlock _ _ unmarked, List.append_assoc,
        ih (drop_succ_of_drop_eq_cons ahead) further (by rwa [consumed_succ])
          (tracks_succ tracks free stays found)]

end

/-! ## Findings on later lines -/

section

variable (settings : Settings) (offset : Nat)

theorem undocumented_add (index : Nat) (line : Text) :
    undocumented (index + offset) line = (undocumented index line).map (Finding.shift offset) := by
  rw [undocumented, undocumented]
  cases Signature.declared? line with
  | none => rfl
  | some signature => simp [Finding.shift]

/-- No rule looks at the number of the line. -/
theorem method_add (doc : MethodDoc) (line : Int) (name : Text) :
    Check.method settings doc (line + offset) name =
      (Check.method settings doc line name).map (Finding.shift offset) := by
  have short : Check.shortDescription doc (line + offset) name =
      (Check.shortDescription doc line name).map (Finding.shift offset) := by
    rw [Check.shortDescription, Check.shortDescription]
    split <;> rfl
  have count : Check.argumentCount doc (line + offset) name =
      (Check.argumentCount doc line name).map (Finding.shift offset) := by
    rw [Check.argumentCount, Check.argumentCount]
    split <;> rfl
  have types : Check.invalidTypes doc (line + offset) name =
      (Check.invalidTypes doc line name).map (Finding.shift offset) := by
    rw [Check.invalidTypes, Check.invalidTypes, List.map_map]
    rfl
  rw [Check.method, Check.method, short, count, types, List.map_append, List.map_append]
  congr 1
  · congr 1
    split <;> rfl
  · split <;> rfl

theorem documented_add (block : Text) (index : Nat) (line : Text) :
    documented settings block (index + offset) line =
      (documented settings block index line).map (Finding.shift offset) := by
  rw [documented, documented]
  cases Signature.documented? line with
  | none => rfl
  | some signature =>
      rw [Int.natCast_add]
      exact method_add settings offset _ _ _

end

/-! ## Texts -/

theorem sourceLines_append (text more : Text) :
    sourceLines (text ++ '\n' :: more) = sourceLines text ++ sourceLines more := by
  rw [sourceLines, Text.splitOn_append_separator, List.map_append, ← sourceLines, ← sourceLines]

variable {text : Text}

theorem findings_append_of_settled (settings : Settings) (settled : Settled (sourceLines text))
    (more : Text) :
    findings settings (text ++ '\n' :: more) =
      findings settings text ++
        (findings settings more).map (Finding.shift (sourceLines text).length) := by
  have moved := walk_map undocumented (documented settings) List.map_nil (fun _ _ => List.map_append)
    (sourceLines text).length (undocumented_add (sourceLines text).length)
    (documented_add settings (sourceLines text).length) none 0 (sourceLines more)
  rw [Nat.zero_add] at moved
  rw [findings, sourceLines_append, findingsFrom_eq_walk,
    walk_append_of_settled settled none 0 _ List.drop_zero (Nat.zero_le _) not_consumed_zero
      tracks_zero, moved, ← findingsFrom_eq_walk, ← findingsFrom_eq_walk, ← findings, ← findings]

theorem documentedBlocks_append_of_settled (settled : Settled (sourceLines text)) (more : Text) :
    documentedBlocks none (sourceLines (text ++ '\n' :: more)) =
      documentedBlocks none (sourceLines text) ++ documentedBlocks none (sourceLines more) := by
  rw [sourceLines_append, documentedBlocks_eq_walk none 0,
    walk_append_of_settled settled none 0 _ List.drop_zero (Nat.zero_le _) not_consumed_zero
      tracks_zero, ← documentedBlocks_eq_walk, ← documentedBlocks_eq_walk]

/-- Appending lines to a text keeps all that was found in it, in its order and at its lines. If
the text leaves no block open and closes none on its last line, then the appended lines add what
they give as a text of their own, moved down by the number of lines in front of them. The same
holds for the blocks that make a text impossible to scan. -/
theorem findings_append_lines (settings : Settings) (text more : Text) :
    let whole := text ++ '\n' :: more
    (findings settings text <+: findings settings whole ∧
      (isTangled settings text → isTangled settings whole)) ∧
    (Settled (sourceLines text) →
      findings settings whole = findings settings text ++
        (findings settings more).map (Finding.shift (sourceLines text).length) ∧
      (isTangled settings whole ↔ isTangled settings text ∨ isTangled settings more)) := by
  intro whole
  refine ⟨⟨?_, ?_⟩, ?_⟩
  · rw [findings, findings, sourceLines_append, findingsFrom_eq_walk, findingsFrom_eq_walk]
    exact walk_prefix_append none 0 _ _
  · rw [isTangled, isTangled, sourceLines_append, documentedBlocks_eq_walk none 0,
      documentedBlocks_eq_walk none 0, List.any_eq_true, List.any_eq_true]
    rintro ⟨block, mem, tangled⟩
    exact ⟨block, (walk_prefix_append none 0 _ _).subset mem, tangled⟩
  · intro settled
    refine ⟨findings_append_of_settled settings settled more, ?_⟩
    rw [isTangled, documentedBlocks_append_of_settled settled, List.any_append, Bool.or_eq_true,
      ← isTangled, ← isTangled]

/-- A text that ends with a documented function, and one with an undocumented one behind it. -/
theorem findings_append_lines_documented :
    let text : Text := " /**\n */\n a: function(x)"
    let more : Text := " b = function()"
    Settled (sourceLines text) ∧
      findings Settings.default (text ++ '\n' :: more) = findings Settings.default text ++
        (findings Settings.default more).map (Finding.shift 3) := by
  intro text more
  have lines : sourceLines text = ([" /**", " */", " a: function(x)"] : List Text) := by decide
  have settled : Settled (sourceLines text) := by
    rw [lines]
    have opens : Opens [" /**", " */", " a: function(x)"] 0 :=
      (opens_iff rfl).mpr ⟨by decide, not_consumed_zero⟩
    have closes : Closes [" /**", " */", " a: function(x)"] 1 := by
      rw [closes_iff rfl, consumed_succ]
      exact ⟨by decide, not_closes_of_opens opens, 0, by decide, opens, by omega⟩
    constructor
    · intro start below opensStart
      have first : start = 0 := by
        match start, below with
        | 0, _ => rfl
        | 1, _ => exact absurd closes (not_closes_of_opens opensStart)
        | 2, _ => exact absurd (consumed_succ.mpr closes) (not_consumed_of_opens opensStart)
      exact ⟨1, by omega, by decide, closes⟩
    · exact fun last => not_consumed_of_closes last (consumed_succ.mpr closes)
  obtain ⟨-, appended⟩ := findings_append_lines Settings.default text more
  obtain ⟨found, -⟩ := appended settled
  rw [lines] at found
  exact ⟨settled, found⟩

end Scan

end DocAudit
