import DocAudit.Proofs.Settings.Reachable
import DocAudit.Scan.GroupAccess

/-!
# Groups that are asked for are there

A match has a span for each group of its pattern, so with two groups both look-ups of a parameter
tag succeed. Looking groups up by number then gives what the scan gives that takes the first two
spans as they come, and the only fault left is a group that ends before it begins. All settings that
merges lead to have such a pattern.

Two results are followed side by side through segments, blocks and lines: the one with look-ups is
the other one, unless something on the way is tangled (`unlessTangled`).
-/

namespace DocAudit

/-- A value that is only there if nothing is tangled. -/
def unlessTangled {α : Type} (tangled : Bool) (value : α) : Except GroupFault α :=
  if tangled then .error .tangled else .ok value

section

variable {α β : Type}

theorem unlessTangled_bind {tangled more : Bool} {value : α} {result : β}
    {next : α → Except GroupFault β} (rest : next value = unlessTangled more result) :
    unlessTangled tangled value >>= next = unlessTangled (tangled || more) result := by
  cases tangled with
  | true => rfl
  | false => exact rest

theorem unlessTangled_bind_ok {tangled : Bool} {value : α} {result : β}
    {next : α → Except GroupFault β} (rest : next value = .ok result) :
    unlessTangled tangled value >>= next = unlessTangled tangled result := by
  cases tangled with
  | true => rfl
  | false => exact rest

theorem unlessTangled_bind_pure (tangled : Bool) (value : α) (f : α → β) :
    (do let own ← unlessTangled tangled value; return f own) =
      unlessTangled tangled (f value) :=
  unlessTangled_bind_ok rfl

/-- A step over all items is tangled if it is for one of them. -/
theorem mapM_eq_unlessTangled {step : α → Except GroupFault β} {tangled : α → Bool} {value : α → β}
    (each : ∀ item, step item = unlessTangled (tangled item) (value item)) (items : List α) :
    items.mapM step = unlessTangled (items.any tangled) (items.map value) := by
  induction items with
  | nil => rfl
  | cons item rest ih =>
      rw [List.mapM_cons, each, ih, List.any_cons, List.map_cons]
      apply unlessTangled_bind
      apply unlessTangled_bind_pure

end

namespace Pattern

variable {pattern : Pattern} {found : Match}

theorem searchChecked_eq (pattern : Pattern) (text : Text) :
    pattern.searchChecked text =
      unlessTangled ((pattern.search? text).any fun found => !found.isOrdered)
        (pattern.search? text) := by
  rw [searchChecked]
  cases pattern.search? text with
  | none => rfl
  | some found =>
      rw [Option.any_some]
      cases ordered : found.isOrdered <;> simp [ordered, unlessTangled]

theorem length_spans_of_matchAt? {input : Array Char} {position : Nat}
    (matched : pattern.matchAt? input position = some found) :
    found.spans.length = pattern.groups := by
  rw [matchAt?] at matched
  split at matched
  · cases matched
  · obtain rfl := Option.some.inj matched
    rw [List.length_map, List.length_range]

theorem length_spans_of_searchFrom {input : Array Char} {ahead position : Nat}
    (matched : pattern.searchFrom input ahead position = some found) :
    found.spans.length = pattern.groups := by
  fun_induction searchFrom pattern input ahead position with
  | case1 position => exact length_spans_of_matchAt? matched
  | case2 ahead position first here =>
      obtain rfl := Option.some.inj matched
      exact length_spans_of_matchAt? here
  | case3 ahead position none later ih => exact ih matched
  | case4 => cases matched

/-- A match has a span for each group of its pattern, whether the group took part or not. -/
theorem length_groups_of_search? {text : Text} (matched : pattern.search? text = some found) :
    (found.groups text).length = pattern.groups := by
  rw [search?] at matched
  split at matched
  · cases matched
  · rw [Match.groups, List.length_map]
    exact length_spans_of_searchFrom matched

end Pattern

namespace DocBlock

variable {pattern : Pattern}

/-- With two groups a match gives the same tag. -/
theorem tagOfChecked_eq {segment : Text} {found : Pattern.Match}
    (two : 2 ≤ (found.groups segment).length) :
    tagOfChecked segment found = .ok (tagOf (found.groups segment)) := by
  rw [tagOfChecked, Pattern.Match.group, Pattern.Match.group]
  match found.groups segment, two with
  | none :: _ :: _, _ => rfl
  | some typeName :: second :: _, _ => rfl

/-- With two groups a segment is classified alike, unless its match is tangled. -/
theorem classifyChecked_eq (two : 2 ≤ pattern.groups) (segment : Text) :
    classifyChecked pattern segment =
      unlessTangled ((pattern.search? segment).any fun found => !found.isOrdered)
        (classify pattern segment) := by
  rw [classifyChecked, Pattern.searchChecked_eq]
  apply unlessTangled_bind_ok
  rw [classify]
  cases matched : pattern.search? segment with
  | none => rfl
  | some found =>
      rw [← Pattern.length_groups_of_search? matched] at two
      exact tagOfChecked_eq two

/-- A pattern with one group is asked for a second one. -/
example : classifyChecked ⟨"(x)", .capture 1 (.one (.char 'x')), 1, [], 0, true⟩ "x" =
    .error (.missing 2) := by
  rfl

/-- With two groups a block is extracted alike, unless it is tangled. -/
theorem extractChecked_eq (two : 2 ≤ pattern.groups) (block parameters : Text) :
    extractChecked pattern block parameters =
      unlessTangled (isTangled pattern block) (extract pattern block parameters) := by
  rw [extractChecked, mapM_eq_unlessTangled (classifyChecked_eq two), unlessTangled_bind_pure]
  rfl

end DocBlock

namespace Scan

variable {settings : Settings}

theorem documentedChecked_eq (two : 2 ≤ settings.paramPattern.groups) (block : Text) (index : Nat)
    (line : Text) :
    documentedChecked settings block index line =
      unlessTangled
        ((Signature.documented? line).isSome && DocBlock.isTangled settings.paramPattern block)
        (documented settings block index line) := by
  rw [documentedChecked, documented]
  cases Signature.documented? line with
  | none => rfl
  | some signature =>
      rw [Option.isSome_some, Bool.true_and]
      dsimp only
      rw [DocBlock.extractChecked_eq two, unlessTangled_bind_pure]

theorem findingsCheckedFrom_of_not_closesBlock {block line : Text} (unmarked : ¬ closesBlock line)
    (index : Nat) (rest : List Text) :
    findingsCheckedFrom settings (some block) index (line :: rest) = (do
      let others ← findingsCheckedFrom settings (blockAfter (some block) line) (index + 1) rest
      return undocumented index line ++ others) := by
  cases rest <;> simp [findingsCheckedFrom, unmarked]

theorem documentedBlocks_of_not_closesBlock {block line : Text} (unmarked : ¬ closesBlock line)
    (rest : List Text) :
    documentedBlocks (some block) (line :: rest) =
      documentedBlocks (blockAfter (some block) line) rest := by
  cases rest <;> simp [documentedBlocks, unmarked]

/-- With two groups lines give the same findings, unless a block in front of a signature is
tangled. -/
theorem findingsCheckedFrom_eq (two : 2 ≤ settings.paramPattern.groups) (block : Option Text)
    (index : Nat) (lines : List Text) :
    findingsCheckedFrom settings block index lines =
      unlessTangled
        ((documentedBlocks block lines).any (DocBlock.isTangled settings.paramPattern))
        (findingsFrom settings block index lines) := by
  fun_induction findingsFrom settings block index lines with
  | case1 => simp [findingsCheckedFrom, documentedBlocks, unlessTangled, pure, Except.pure]
  | case2 index line rest ih =>
      rw [findingsCheckedFrom, documentedBlocks, ih, unlessTangled_bind_pure]
  | case3 block index line marked =>
      rw [findingsCheckedFrom, documentedBlocks, if_pos marked, if_pos marked]
      rfl
  | case4 block index line marked next rest ih =>
      have own : (if (Signature.documented? next).isSome then [block ++ line] else []).any
            (DocBlock.isTangled settings.paramPattern) =
          ((Signature.documented? next).isSome &&
            DocBlock.isTangled settings.paramPattern (block ++ line)) := by
        cases (Signature.documented? next).isSome <;> simp
      rw [findingsCheckedFrom, documentedBlocks, if_pos marked, if_pos marked, ih,
        documentedChecked_eq two, List.any_append, own]
      apply unlessTangled_bind
      apply unlessTangled_bind_pure
  | case5 block index line rest unmarked ih =>
      rw [findingsCheckedFrom_of_not_closesBlock unmarked,
        documentedBlocks_of_not_closesBlock unmarked, ih, unlessTangled_bind_pure]

theorem findingsChecked_eq (two : 2 ≤ settings.paramPattern.groups) (text : Text) :
    findingsChecked settings text =
      if isTangled settings text then .error .tangled else .ok (findings settings text) :=
  findingsCheckedFrom_eq two none 0 (sourceLines text)

/-- Attempts to merge options over the default settings, of which any may fail, always leave valid
settings. A scan with them never asks for a group that the pattern does not have: looking groups up
by number gives the findings of the scan, or ends with a match that has a tangled group. -/
theorem no_missing_group_after (steps : List ValueOptions) :
    (Settings.after steps).Valid steps ∧
      ∀ text,
        findingsChecked (Settings.after steps) text =
            (if isTangled (Settings.after steps) text then .error .tangled
              else .ok (findings (Settings.after steps) text)) ∧
          ∀ number, findingsChecked (Settings.after steps) text ≠ .error (.missing number) := by
  have valid := Settings.valid_after steps
  refine ⟨valid, fun text => ?_⟩
  have found := findingsChecked_eq valid.groups text
  refine ⟨found, fun number missing => ?_⟩
  rw [found] at missing
  split at missing <;> cases missing

end Scan

end DocAudit
