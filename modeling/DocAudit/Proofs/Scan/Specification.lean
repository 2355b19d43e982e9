import DocAudit.Proofs.Text.Cutting
import DocAudit.Scan
import Mathlib.Data.Nat.Find

/-!
# What a scan says about each line

A scan carries the text of the open block along. This module says what it finds without any such
memory: for every index, whether the line there opens a block, closes one, or is consumed by the
block that was closed on the line before, and from this what is found on that line. The scan is
the concatenation of these findings over all indices.

The state of the scan is linked to the indices by `Tracks`, which every step of the scan
preserves. Both recursions over the lines, the one for findings and the one for the blocks in front
of signatures, are instances of one walk, so that the invariant is used once.
-/

namespace DocAudit.Scan

/-! ## The lines of a block by their indices -/

mutual

/-- The line at an index is taken by the block that the line before it closes. -/
def Consumed (lines : List Text) : Nat → Prop
  | 0 => False
  | index + 1 => Closes lines index
termination_by index => (index, 0)

/-- The line at an index opens a block. -/
def Opens (lines : List Text) (index : Nat) : Prop :=
  (lines[index]?).any opensBlock ∧ ¬ Consumed lines index
termination_by (index, 1)

/-- The line at an index closes a block that was opened above it and not closed since. -/
def Closes (lines : List Text) (index : Nat) : Prop :=
  (lines[index]?).any closesBlock ∧ ¬ Consumed lines index ∧
    ∃ start, ∃ _ : start < index, Opens lines start ∧
      ∀ between, start < between → ∀ _ : between < index, ¬ Closes lines between
termination_by (index, 2)

end

/-- The greatest index below a bound at which a block is opened. -/
noncomputable def lastOpening (lines : List Text) (bound : Nat) : Nat := by
  classical
  exact Nat.findGreatest (Opens lines) (bound - 1)

/-- The text of the block that consumes the line at an index: the lines from the last opening
above the closing line up to the closing line, joined without separators. -/
noncomputable def blockBefore (lines : List Text) (index : Nat) : Text :=
  ((lines.take index).drop (lastOpening lines (index - 1))).flatten

section

variable {lines : List Text} {index : Nat} {line block : Text}

@[simp]
theorem not_consumed_zero : ¬ Consumed lines 0 := by
  simp [Consumed]

@[simp]
theorem consumed_succ : Consumed lines (index + 1) ↔ Closes lines index := by
  rw [Consumed]

theorem opens_iff (found : lines[index]? = some line) :
    Opens lines index ↔ opensBlock line ∧ ¬ Consumed lines index := by
  rw [Opens, found, Option.any_some]

theorem closes_iff (found : lines[index]? = some line) :
    Closes lines index ↔ closesBlock line ∧ ¬ Consumed lines index ∧
      ∃ start, start < index ∧ Opens lines start ∧
        ∀ between, start < between → between < index → ¬ Closes lines between := by
  rw [Closes, found, Option.any_some]
  simp only [exists_prop]

/-- A consumed line is neither an opening nor a closing one. -/
theorem not_consumed_of_opens (opens : Opens lines index) : ¬ Consumed lines index := by
  rw [Opens] at opens
  exact opens.2

theorem not_consumed_of_closes (closes : Closes lines index) : ¬ Consumed lines index := by
  rw [Closes] at closes
  exact closes.2.1

/-- A line is a mark exactly if blanks stand around the mark, and at least one of them in front of
it. Marks begin with a visible character. -/
theorem isMark_iff {first : Char} {mark : Text} (visible : Text.isBlank first = false) :
    isMark (first :: mark) line ↔
      ∃ before after, before ≠ [] ∧ Text.allBlank before ∧ Text.allBlank after ∧
        line = before ++ first :: mark ++ after := by
  simp only [isMark, Bool.and_eq_true, decide_eq_true_eq, Text.startsWith_iff]
  constructor
  · rintro ⟨⟨shorter, after, content⟩, blank⟩
    have whole := Text.takeWhile_append_trimStart line
    refine ⟨line.takeWhile Text.isBlank, after, ?_, Text.allBlank_takeWhile line, ?_, ?_⟩
    · intro empty
      rw [empty, List.nil_append] at whole
      rw [whole] at shorter
      exact absurd shorter (lt_irrefl _)
    · rwa [← content, List.drop_left] at blank
    · rw [List.append_assoc, content, whole]
  · rintro ⟨before, after, nonempty, blankBefore, blankAfter, rfl⟩
    have content : Text.trimStart (before ++ first :: mark ++ after) = first :: mark ++ after := by
      rw [List.append_assoc, Text.trimStart_append_of_allBlank blankBefore, List.cons_append,
        Text.trimStart_cons_of_not_isBlank visible]
    have filled : 0 < before.length := List.length_pos_iff.mpr nonempty
    rw [content, List.drop_left]
    refine ⟨⟨?_, List.prefix_append _ _⟩, blankAfter⟩
    simp only [List.length_append]
    omega

theorem opensBlock_iff : opensBlock line ↔
    ∃ before after, before ≠ [] ∧ Text.allBlank before ∧ Text.allBlank after ∧
      line = before ++ ['/', '*', '*'] ++ after :=
  isMark_iff (by decide)

theorem closesBlock_iff : closesBlock line ↔
    ∃ before after, before ≠ [] ∧ Text.allBlank before ∧ Text.allBlank after ∧
      line = before ++ ['*', '/'] ++ after :=
  isMark_iff (by decide)

/-- The two marks begin with different characters, so no line is both. -/
theorem not_closesBlock_of_opensBlock (opens : opensBlock line) : ¬ closesBlock line := by
  rw [opensBlock_iff] at opens
  rw [closesBlock_iff]
  obtain ⟨before, after, -, blank, -, rfl⟩ := opens
  rintro ⟨other, rest, -, otherBlank, -, equal⟩
  have trimmed := congrArg Text.trimStart equal
  rw [List.append_assoc, List.append_assoc, Text.trimStart_append_of_allBlank blank,
    Text.trimStart_append_of_allBlank otherBlank] at trimmed
  exact absurd (List.head_eq_of_cons_eq trimmed) (by decide)

theorem not_closes_of_opens (opens : Opens lines index) : ¬ Closes lines index := by
  rw [Opens] at opens
  rw [Closes]
  obtain ⟨line, found, marked⟩ := (Option.any_eq_true _ _).mp opens.1
  rw [found, Option.any_some]
  exact fun closes => not_closesBlock_of_opensBlock marked closes.1

end

/-! ## One walk over the lines -/

section

variable {α : Type} (plain : Nat → Text → List α) (closed : Text → Nat → Text → List α)

/-- Walk over lines with the text of the open block, if there is one: `plain` says what a line
gives that does not close a block, `closed` what the line behind a closed block gives. -/
def walk : Option Text → Nat → List Text → List α
  | _, _, [] => []
  | none, index, line :: rest => plain index line ++ walk (blockAfter none line) (index + 1) rest
  | some block, index, line :: rest =>
    if closesBlock line then
      match rest with
      | [] => []
      | next :: rest => closed (block ++ line) (index + 1) next ++ walk none (index + 2) rest
    else plain index line ++ walk (blockAfter (some block) line) (index + 1) rest

theorem walk_cons_of_not_closesBlock {block line : Text} (unmarked : ¬ closesBlock line)
    (index : Nat) (rest : List Text) :
    walk plain closed (some block) index (line :: rest) =
      plain index line ++ walk plain closed (blockAfter (some block) line) (index + 1) rest := by
  cases rest <;> simp [walk, unmarked]

/-- What respects joining lists may be done to what a whole walk gives or to what each line gives. The
index of the lines may be moved at the same time. -/
theorem walk_map {β : Type} {otherPlain : Nat → Text → List β}
    {otherClosed : Text → Nat → Text → List β} {f : List α → List β} (empty : f [] = [])
    (append : ∀ first second, f (first ++ second) = f first ++ f second) (offset : Nat)
    (onPlain : ∀ index line, otherPlain (index + offset) line = f (plain index line))
    (onClosed : ∀ block index line,
      otherClosed block (index + offset) line = f (closed block index line))
    (block : Option Text) (index : Nat) (lines : List Text) :
    walk otherPlain otherClosed block (index + offset) lines =
      f (walk plain closed block index lines) := by
  fun_induction walk plain closed block index lines with
  | case1 => rw [walk, empty]
  | case2 index line rest ih =>
      rw [walk, onPlain, Nat.add_right_comm, ih, append]
  | case3 block index line marked => rw [walk, if_pos marked, empty]
  | case4 block index line marked next rest ih =>
      rw [walk, if_pos marked, Nat.add_right_comm, onClosed, Nat.add_right_comm index offset 2,
        ih, append]
  | case5 block index line rest unmarked ih =>
      rw [walk_cons_of_not_closesBlock _ _ unmarked, onPlain, Nat.add_right_comm, ih, append]

/-- What a walk gives on the line at an index. -/
noncomputable def atLine (lines : List Text) (index : Nat) : List α := by
  classical
  exact
    match lines[index]? with
    | none => []
    | some line =>
      if Consumed lines index then closed (blockBefore lines index) index line
      else plain index line

/-- The open block of a scan in front of an index: none if every opened block has been closed,
otherwise the lines from the last opening on. -/
def Tracks (lines : List Text) (index : Nat) : Option Text → Prop
  | none => ∀ start < index, Opens lines start →
      ∃ stop, start < stop ∧ stop < index ∧ Closes lines stop
  | some block => ∃ start < index, Opens lines start ∧
      (∀ between, start < between → between < index →
        ¬ Opens lines between ∧ ¬ Closes lines between) ∧
      block = ((lines.take index).drop start).flatten

variable {lines : List Text} {index : Nat} {line text : Text} {block : Option Text}

theorem tracks_zero : Tracks lines 0 none := by
  intro start below
  exact absurd below (Nat.not_lt_zero start)

/-- Without an open block a line closes nothing, whatever it looks like. -/
theorem not_closes_of_tracks_none (tracks : Tracks lines index none) : ¬ Closes lines index := by
  rw [Closes]
  rintro ⟨-, -, start, below, opens, unclosed⟩
  obtain ⟨stop, after, before, closes⟩ := tracks start below opens
  exact unclosed stop after before closes

/-- With an open block exactly the closing marks close it. -/
theorem closes_iff_of_tracks_some (tracks : Tracks lines index (some text))
    (free : ¬ Consumed lines index) (found : lines[index]? = some line) :
    Closes lines index ↔ closesBlock line := by
  rw [closes_iff found]
  obtain ⟨start, below, opens, between, -⟩ := tracks
  constructor
  · exact fun closes => closes.1
  · exact fun marked => ⟨marked, free, start, below, opens,
      fun middle after before => (between middle after before).2⟩

/-- The lines of a block grow by the line that is read. -/
theorem flatten_drop_take_succ {start : Nat} (below : start ≤ index)
    (found : lines[index]? = some line) :
    ((lines.take (index + 1)).drop start).flatten =
      ((lines.take index).drop start).flatten ++ line := by
  have inside : index < lines.length := (List.getElem?_eq_some_iff.mp found).1
  have short : start ≤ (lines.take index).length := by
    rw [List.length_take]
    omega
  rw [List.take_add_one, found, Option.toList_some, List.drop_append_of_le_length short,
    List.flatten_append, List.flatten_singleton]

/-- A line that closes nothing keeps the invariant: it may open a new block, else it is added to
the open one. -/
theorem tracks_succ (tracks : Tracks lines index block) (free : ¬ Consumed lines index)
    (stays : ¬ Closes lines index) (found : lines[index]? = some line) :
    Tracks lines (index + 1) (blockAfter block line) := by
  rw [blockAfter]
  split
  case isTrue marked =>
      have opens : Opens lines index := (opens_iff found).mpr ⟨marked, free⟩
      refine ⟨index, Nat.lt_succ_self index, opens, fun between after before => by omega, ?_⟩
      rw [flatten_drop_take_succ (Nat.le_refl index) found]
      simp
  case isFalse unmarked =>
      have opensNot : ¬ Opens lines index := fun opens => unmarked ((opens_iff found).mp opens).1
      cases block with
      | none =>
          intro start below opens
          have earlier : start < index := by
            refine Nat.lt_of_le_of_ne (Nat.le_of_lt_succ below) fun equal => ?_
            exact opensNot (equal ▸ opens)
          obtain ⟨stop, after, before, closes⟩ := tracks start earlier opens
          exact ⟨stop, after, Nat.lt_succ_of_lt before, closes⟩
      | some content =>
          obtain ⟨start, below, opens, between, rfl⟩ := tracks
          refine ⟨start, Nat.lt_succ_of_lt below, opens, fun middle after before => ?_, ?_⟩
          · rcases Nat.lt_succ_iff_lt_or_eq.mp before with earlier | rfl
            · exact between middle after earlier
            · exact ⟨opensNot, stays⟩
          · exact (flatten_drop_take_succ (Nat.le_of_lt below) found).symm

/-- Behind a closed block and the line it consumes nothing is open. -/
theorem tracks_none_of_closes (closes : Closes lines index) : Tracks lines (index + 2) none := by
  intro start below opens
  have other : start ≠ index + 1 := by
    rintro rfl
    exact not_consumed_of_opens opens (consumed_succ.mpr closes)
  have another : start ≠ index := by
    rintro rfl
    exact not_closes_of_opens opens closes
  exact ⟨index, by omega, by omega, closes⟩

theorem not_consumed_of_closes_before (closes : Closes lines index) :
    ¬ Consumed lines (index + 2) := by
  rw [consumed_succ]
  exact fun again => not_consumed_of_closes again (consumed_succ.mpr closes)

/-- The block that the invariant holds is the one that reaches from the last opening to the closing
line. -/
theorem blockBefore_succ (tracks : Tracks lines index (some text))
    (found : lines[index]? = some line) :
    blockBefore lines (index + 1) = text ++ line := by
  obtain ⟨start, below, opens, between, rfl⟩ := tracks
  have last : lastOpening lines index = start := by
    classical
    rw [lastOpening, Nat.findGreatest_eq_iff]
    refine ⟨by omega, fun _ => opens, fun middle after before => ?_⟩
    exact (between middle after (by omega)).1
  rw [blockBefore, Nat.add_sub_cancel, last, flatten_drop_take_succ (Nat.le_of_lt below) found]

theorem atLine_of_not_consumed (found : lines[index]? = some line)
    (free : ¬ Consumed lines index) : atLine plain closed lines index = plain index line := by
  simp only [atLine, found, if_neg free]

theorem atLine_of_consumed (found : lines[index]? = some line) (taken : Consumed lines index) :
    atLine plain closed lines index = closed (blockBefore lines index) index line := by
  simp only [atLine, found, if_pos taken]

theorem getElem?_of_drop_eq_cons {rest : List Text} (ahead : lines.drop index = line :: rest) :
    lines[index]? = some line := by
  rw [← List.head?_drop, ahead, List.head?_cons]

theorem drop_succ_of_drop_eq_cons {rest : List Text} (ahead : lines.drop index = line :: rest) :
    lines.drop (index + 1) = rest := by
  rw [← List.tail_drop, ahead, List.tail_cons]

/-- The walk from an index on gives what each index gives by itself, provided that a closing line
gives nothing. The invariant says which block is open in front of the index. -/
theorem walk_eq_flatMap_atLine (quiet : ∀ index line, closesBlock line → plain index line = [])
    (block : Option Text) (index : Nat) (rest : List Text) (ahead : lines.drop index = rest)
    (free : ¬ Consumed lines index) (tracks : Tracks lines index block) :
    walk plain closed block index rest =
      (List.range' index rest.length).flatMap (atLine plain closed lines) := by
  fun_induction walk plain closed block index rest with
  | case1 => simp
  | case2 index line rest ih =>
      have found := getElem?_of_drop_eq_cons ahead
      have stays := not_closes_of_tracks_none tracks
      rw [ih (drop_succ_of_drop_eq_cons ahead) (by rwa [consumed_succ])
          (tracks_succ tracks free stays found),
        List.length_cons, List.range'_succ, List.flatMap_cons,
        atLine_of_not_consumed plain closed found free]
  | case3 block index line marked =>
      have found := getElem?_of_drop_eq_cons ahead
      rw [List.length_singleton, List.range'_one, List.flatMap_singleton,
        atLine_of_not_consumed plain closed found free, quiet index line marked]
  | case4 block index line marked next rest ih =>
      have found := getElem?_of_drop_eq_cons ahead
      have behind := drop_succ_of_drop_eq_cons ahead
      have closes := (closes_iff_of_tracks_some tracks free found).mpr marked
      have taken : Consumed lines (index + 1) := consumed_succ.mpr closes
      rw [ih (drop_succ_of_drop_eq_cons behind) (not_consumed_of_closes_before closes)
          (tracks_none_of_closes closes),
        List.length_cons, List.length_cons, List.range'_succ, List.flatMap_cons,
        List.range'_succ, List.flatMap_cons, atLine_of_not_consumed plain closed found free,
        quiet index line marked, List.nil_append,
        atLine_of_consumed plain closed (getElem?_of_drop_eq_cons behind) taken,
        blockBefore_succ tracks found]
  | case5 block index line rest unmarked ih =>
      have found := getElem?_of_drop_eq_cons ahead
      have stays : ¬ Closes lines index := by
        rwa [closes_iff_of_tracks_some tracks free found]
      rw [ih (drop_succ_of_drop_eq_cons ahead) (by rwa [consumed_succ])
          (tracks_succ tracks free stays found),
        List.length_cons, List.range'_succ, List.flatMap_cons,
        atLine_of_not_consumed plain closed found free]

end

/-! ## Findings and blocks as walks -/

/-- What is found on the line at an index: a consumed line is checked against its block, any other
one is reported if it declares a function. -/
noncomputable def lineFindings (settings : Settings) (lines : List Text) : Nat → List Finding :=
  atLine undocumented (documented settings) lines

theorem findingsFrom_eq_walk (settings : Settings) (block : Option Text) (index : Nat)
    (lines : List Text) :
    findingsFrom settings block index lines =
      walk undocumented (documented settings) block index lines := by
  fun_induction findingsFrom settings block index lines with
  | case1 => simp [walk]
  | case2 index line rest ih => rw [walk, ih]
  | case3 block index line marked => simp [walk, marked]
  | case4 block index line marked next rest ih => simp [walk, marked, ih]
  | case5 block index line rest unmarked ih =>
      rw [walk_cons_of_not_closesBlock _ _ unmarked, ih]

/-- The block in front of a line, if the line is a documented signature. -/
def signatureBlock (block : Text) (_index : Nat) (line : Text) : List Text :=
  if (Signature.documented? line).isSome then [block] else []

theorem documentedBlocks_eq_walk (block : Option Text) (index : Nat) (lines : List Text) :
    documentedBlocks block lines = walk (fun _ _ => []) signatureBlock block index lines := by
  fun_induction documentedBlocks block lines generalizing index with
  | case1 => simp [walk]
  | case2 line rest ih => rw [walk, ih (index + 1), List.nil_append]
  | case3 block line marked => simp [walk, marked]
  | case4 block line marked next rest ih =>
      simp [walk, marked, signatureBlock, ih (index + 2)]
  | case5 block line rest unmarked ih =>
      rw [walk_cons_of_not_closesBlock _ _ unmarked, ih (index + 1), List.nil_append]

/-- A closing line continues a comment, so that nothing is declared on it. -/
theorem undocumented_of_closesBlock (index : Nat) (line : Text) (marked : closesBlock line) :
    undocumented index line = [] := by
  obtain ⟨before, after, -, blank, -, rfl⟩ := closesBlock_iff.mp marked
  have content : Text.trimStart (before ++ ['*', '/'] ++ after) = '*' :: '/' :: after := by
    rw [List.append_assoc, Text.trimStart_append_of_allBlank blank]
    exact Text.trimStart_cons_of_not_isBlank (by decide)
  have comment : Signature.isComment (before ++ ['*', '/'] ++ after) = true := by
    rw [Signature.isComment, content]
    simp [Text.startsWith]
  rw [undocumented, Signature.declared?, Signature.find?, if_pos comment]

theorem head?_undocumentedMessage : undocumentedMessage.head? = some 'M' := by
  unfold undocumentedMessage
  simp

theorem head?_countMessage (documented actual : Nat) :
    (Check.countMessage documented actual).head? = some 'D' := by
  unfold Check.countMessage
  simp

theorem head?_invalidTypeMessage (typeName : Text) :
    (Check.invalidTypeMessage typeName).head? = some 'D' := by
  unfold Check.invalidTypeMessage
  simp

theorem head?_shortDescriptionMessage : Check.shortDescriptionMessage.head? = some 'C' := by
  unfold Check.shortDescriptionMessage
  simp

/-- Messages are told apart by their first characters. -/
theorem ne_undocumentedMessage {message : Text} {first : Char} (head : message.head? = some first)
    (other : first ≠ 'M') : message ≠ undocumentedMessage := by
  rintro rfl
  rw [head?_undocumentedMessage] at head
  exact other (Option.some.inj head).symm

/-- Every finding of a check names the line that was checked, and none of them is that of a function
without documentation. -/
theorem line_and_message_of_mem_method {settings : Settings} {doc : MethodDoc} {line : Int}
    {name : Text} {finding : Finding} (mem : finding ∈ Check.method settings doc line name) :
    finding.line = line ∧ finding.message ≠ undocumentedMessage := by
  simp only [Check.method, Check.shortDescription, Check.argumentCount, Check.invalidTypes,
    List.mem_append, List.mem_ite_nil_right, List.mem_singleton, List.mem_map] at mem
  rcases mem with (⟨-, -, rfl⟩ | ⟨-, rfl⟩) | ⟨-, tag, -, rfl⟩
  · exact ⟨rfl, ne_undocumentedMessage head?_shortDescriptionMessage (by decide)⟩
  · exact ⟨rfl, ne_undocumentedMessage (head?_countMessage _ _) (by decide)⟩
  · exact ⟨rfl, ne_undocumentedMessage (head?_invalidTypeMessage _) (by decide)⟩

theorem line_and_message_of_mem_documented {settings : Settings} {block line : Text} {index : Nat}
    {finding : Finding} (mem : finding ∈ documented settings block index line) :
    finding.line = index ∧ finding.message ≠ undocumentedMessage := by
  rw [documented] at mem
  split at mem
  · exact line_and_message_of_mem_method mem
  · simp at mem

/-- A line that is not consumed gives at most one finding. -/
theorem undocumented_eq_singleton_of_mem {index : Nat} {line : Text} {finding : Finding}
    (mem : finding ∈ undocumented index line) :
    undocumented index line = [finding] ∧ finding.line = index := by
  rw [undocumented] at mem ⊢
  split at mem
  · rw [List.mem_singleton] at mem
    subst mem
    exact ⟨rfl, rfl⟩
  · simp at mem

/-- All findings on a line carry its index, and one of a function without documentation is the only
one there. -/
theorem line_of_mem_lineFindings {settings : Settings} {lines : List Text} {index : Nat}
    {finding : Finding} (mem : finding ∈ lineFindings settings lines index) :
    finding.line = index ∧
      (finding.message = undocumentedMessage → lineFindings settings lines index = [finding]) := by
  rw [lineFindings] at mem ⊢
  cases found : lines[index]? with
  | none => simp [atLine, found] at mem
  | some line =>
      by_cases taken : Consumed lines index
      · rw [atLine_of_consumed _ _ found taken] at mem
        obtain ⟨place, other⟩ := line_and_message_of_mem_documented mem
        exact ⟨place, fun same => absurd same other⟩
      · rw [atLine_of_not_consumed _ _ found taken] at mem ⊢
        obtain ⟨single, place⟩ := undocumented_eq_singleton_of_mem mem
        exact ⟨place, fun _ => single⟩

theorem filter_line_lineFindings (settings : Settings) (lines : List Text) (own index : Nat) :
    (lineFindings settings lines own).filter (fun finding => finding.line = (index : Int)) =
      if own = index then lineFindings settings lines own else [] := by
  split
  case isTrue same =>
      rw [List.filter_eq_self]
      intro finding mem
      rw [(line_of_mem_lineFindings mem).1, same, decide_eq_true rfl]
  case isFalse other =>
      rw [List.filter_eq_nil_iff]
      intro finding mem
      rw [(line_of_mem_lineFindings mem).1, decide_eq_true_eq, Int.natCast_inj]
      exact other

/-- The findings on one line of a scan are those that the line gives by itself. -/
theorem filter_line_flatMap_lineFindings (settings : Settings) (lines : List Text)
    {count index : Nat} (inside : index < count) :
    ((List.range count).flatMap (lineFindings settings lines)).filter
        (fun finding => finding.line = (index : Int)) =
      lineFindings settings lines index := by
  rw [List.filter_flatMap]
  induction count with
  | zero => exact absurd inside (Nat.not_lt_zero index)
  | succ count ih =>
      rw [List.range_succ, List.flatMap_append, List.flatMap_singleton,
        filter_line_lineFindings]
      rcases Nat.lt_succ_iff_lt_or_eq.mp inside with earlier | rfl
      · rw [ih earlier, if_neg (by omega), List.append_nil]
      · have none : (List.range index).flatMap (fun other =>
            (lineFindings settings lines other).filter
              fun finding => finding.line = (index : Int)) = [] := by
          rw [List.flatMap_eq_nil_iff]
          intro other mem
          rw [filter_line_lineFindings, if_neg (by rw [List.mem_range] at mem; omega)]
        rw [none, List.nil_append, if_pos rfl]

/-- Findings of one line share its index, and those of later lines have greater ones. -/
theorem pairwise_line_flatMap_lineFindings (settings : Settings) (lines : List Text)
    (count : Nat) :
    ((List.range count).flatMap (lineFindings settings lines)).Pairwise
      (fun first second => first.line ≤ second.line) := by
  rw [List.pairwise_flatMap]
  constructor
  · intro index _
    apply List.pairwise_of_forall_mem_list
    intro first memFirst second memSecond
    have sameLine : first.line = second.line := by
      rw [(line_of_mem_lineFindings memFirst).1, (line_of_mem_lineFindings memSecond).1]
    exact Int.le_of_eq sameLine
  · apply List.pairwise_lt_range.imp
    intro index later before first memFirst second memSecond
    rw [(line_of_mem_lineFindings memFirst).1, (line_of_mem_lineFindings memSecond).1]
    exact Int.ofNat_le.mpr (Nat.le_of_lt before)

theorem findings_eq_flatMap (settings : Settings) (text : Text) :
    findings settings text = (List.range (sourceLines text).length).flatMap
      (lineFindings settings (sourceLines text)) := by
  rw [findings, findingsFrom_eq_walk, List.range_eq_range']
  exact walk_eq_flatMap_atLine _ _ undocumented_of_closesBlock none 0 _ List.drop_zero
    not_consumed_zero tracks_zero

/-- The blocks in front of documented signatures, by the indices of those signatures. -/
theorem mem_documentedBlocks_iff {text block : Text} :
    block ∈ documentedBlocks none (sourceLines text) ↔
      ∃ index line, (sourceLines text)[index]? = some line ∧ Consumed (sourceLines text) index ∧
        (Signature.documented? line).isSome ∧ block = blockBefore (sourceLines text) index := by
  rw [documentedBlocks_eq_walk none 0,
    walk_eq_flatMap_atLine _ _ (fun _ _ _ => rfl) none 0 _ List.drop_zero not_consumed_zero
      tracks_zero, ← List.range_eq_range', List.mem_flatMap]
  constructor
  · rintro ⟨index, inside, mem⟩
    rw [List.mem_range] at inside
    have found := List.getElem?_eq_getElem inside
    by_cases taken : Consumed (sourceLines text) index
    · rw [atLine_of_consumed _ _ found taken, signatureBlock, List.mem_ite_nil_right,
        List.mem_singleton] at mem
      exact ⟨index, _, found, taken, mem.1, mem.2⟩
    · rw [atLine_of_not_consumed _ _ found taken] at mem
      exact absurd mem List.not_mem_nil
  · rintro ⟨index, line, found, taken, documented, rfl⟩
    refine ⟨index, List.mem_range.mpr (List.getElem?_eq_some_iff.mp found).1, ?_⟩
    rw [atLine_of_consumed _ _ found taken, signatureBlock, if_pos documented]
    exact List.mem_singleton_self _

/-- A scan is impossible exactly if some consumed signature has a block from which nothing can be
extracted. -/
theorem isTangled_iff (settings : Settings) (text : Text) :
    isTangled settings text ↔ ∃ index line, (sourceLines text)[index]? = some line ∧
      Consumed (sourceLines text) index ∧ (Signature.documented? line).isSome ∧
      DocBlock.isTangled settings.paramPattern (blockBefore (sourceLines text) index) := by
  rw [isTangled, List.any_eq_true]
  constructor
  · rintro ⟨block, mem, tangled⟩
    obtain ⟨index, line, present, taken, documented, rfl⟩ := mem_documentedBlocks_iff.mp mem
    exact ⟨index, line, present, taken, documented, tangled⟩
  · rintro ⟨index, line, present, taken, documented, tangled⟩
    have mem := mem_documentedBlocks_iff.mpr ⟨index, line, present, taken, documented, rfl⟩
    exact ⟨_, mem, tangled⟩

/-- The lines of a source text are those between line feeds, without the carriage returns at their
ends. -/
theorem sourceLines_eq_map_splitOn (text : Text) :
    sourceLines text = (List.splitOn '\n' text).map (List.rdropWhile (· == '\r')) := by
  rw [sourceLines, Text.splitOn_eq_splitOn]
  apply List.map_congr_left
  intro line _
  exact Text.dropEndWhile_eq_rdropWhile _ line

/-- A scan is told line by line: it concatenates what each index gives. The lines are the text
between line feeds, without the carriage returns at their ends, and the marks of a block stand between
blanks. A line that is consumed by the block in front of it gives what the check of this block says on
the function that it declares, if it declares one; any other line that declares a function gives one
error. So the line numbers are indices in ascending order, and a function reported as undocumented has
its line to itself. The scan is impossible exactly if some consumed signature has a block from which
nothing can be extracted. -/
theorem findings_of_lines (settings : Settings) (text : Text) :
    let lines := (List.splitOn '\n' text).map (List.rdropWhile (· == '\r'))
    let found := findings settings text
    let missing : Text := "Method is not documented, or doc block is malformed"
    found = (List.range lines.length).flatMap (lineFindings settings lines) ∧
      (∀ line, opensBlock line ↔ ∃ before after, before ≠ [] ∧ Text.allBlank before ∧
        Text.allBlank after ∧ line = before ++ ['/', '*', '*'] ++ after) ∧
      (∀ line, closesBlock line ↔ ∃ before after, before ≠ [] ∧ Text.allBlank before ∧
        Text.allBlank after ∧ line = before ++ ['*', '/'] ++ after) ∧
      (∀ index line, lines[index]? = some line →
        (Consumed lines index → lineFindings settings lines index =
          match Signature.documented? line with
          | some signature =>
            Check.method settings
              (DocBlock.extract settings.paramPattern (blockBefore lines index) signature.parameters)
              index signature.name
          | none => []) ∧
        (¬ Consumed lines index → lineFindings settings lines index =
          match Signature.declared? line with
          | some signature => [⟨.error, missing, index, signature.name⟩]
          | none => [])) ∧
      found.Pairwise (fun first second => first.line ≤ second.line) ∧
      (∀ finding ∈ found, ∃ index < lines.length, finding.line = (index : Int)) ∧
      (∀ finding ∈ found, finding.message = missing →
        found.filter (fun other => other.line = finding.line) = [finding]) ∧
      (isTangled settings text ↔ ∃ index line, lines[index]? = some line ∧
        Consumed lines index ∧ (Signature.documented? line).isSome ∧
        DocBlock.isTangled settings.paramPattern (blockBefore lines index)) := by
  intro lines found missing
  have cut : sourceLines text = lines := sourceLines_eq_map_splitOn text
  have whole : found = (List.range lines.length).flatMap (lineFindings settings lines) := by
    rw [← cut]
    exact findings_eq_flatMap settings text
  have place : ∀ finding ∈ found, ∃ index < lines.length,
      finding ∈ lineFindings settings lines index := by
    intro finding mem
    rw [whole, List.mem_flatMap] at mem
    obtain ⟨index, inside, mem⟩ := mem
    exact ⟨index, List.mem_range.mp inside, mem⟩
  refine ⟨whole, fun _ => opensBlock_iff, fun _ => closesBlock_iff,
    fun index line present => ⟨?_, ?_⟩, ?_, ?_, ?_, ?_⟩
  · intro taken
    exact atLine_of_consumed undocumented (documented settings) present taken
  · intro free
    exact atLine_of_not_consumed undocumented (documented settings) present free
  · rw [whole]
    exact pairwise_line_flatMap_lineFindings settings lines lines.length
  · intro finding mem
    obtain ⟨index, inside, own⟩ := place finding mem
    exact ⟨index, inside, (line_of_mem_lineFindings own).1⟩
  · intro finding mem undocumented
    obtain ⟨index, inside, own⟩ := place finding mem
    obtain ⟨line, alone⟩ := line_of_mem_lineFindings own
    rw [line, whole, filter_line_flatMap_lineFindings settings lines inside, alone undocumented]
  · rw [← cut]
    exact isTangled_iff settings text

end DocAudit.Scan
