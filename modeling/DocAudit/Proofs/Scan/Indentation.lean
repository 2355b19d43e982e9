import DocAudit.Proofs.DocBlock.Indentation
import DocAudit.Proofs.Scan.Specification

/-!
# Scanning and indentation

A text in which lines get another indentation has its blocks at the same places, since a mark only
asks for some blanks in front of it. What is found on a line is the same as well, except in three
situations. A line that begins with an assignment takes its left-hand side from the indentation.
Since the lines of a block are joined without separators, the indentation may be all that follows
the closing brace of a parameter tag, and it may be part of the type of a tag that goes on in the
next line. `Harmless` asks of an indentation that it avoids these three, for blocks in front of
documented signatures only; `findings_of_reindents` says that nothing else can happen.
-/

namespace DocAudit.Scan

open Text

variable {lines others : List Text} {index : Nat} {line lead other content : Text}

/-- A line and the same line with another indentation: if a line begins with blanks and is not blank,
these may be replaced by any margin. -/
inductive Shifts : Text → Text → Prop
  | same (line : Text) : Shifts line line
  | indent {lead content : Text} (leads : IsLead lead) (visible : IsVisible content)
    (margin : Margin) : Shifts (lead ++ content) (margin.text ++ content)

/-- A text and the same text with another indentation of some lines. -/
def Reindents (text other : Text) : Prop :=
  List.Forall₂ Shifts (splitOn '\n' text) (splitOn '\n' other)

/-- A block that is closed at an index and followed by a documented signature. -/
def Documents (lines : List Text) (stop : Nat) : Prop :=
  Closes lines stop ∧ ((lines[stop + 1]?).bind Signature.documented?).isSome

/-- What has to hold of another indentation of the line at an index: if the line begins with an
assignment, a single blank is not replaced by more and more are not replaced by a single one, and
inside of a block that documents a signature the indentation fits between what stands in front of it
and what follows it in the block. -/
structure Harmless (strict : Prop) (lines : List Text) (index : Nat) (lead other content : Text) :
    Prop where
  assignment : ¬ Consumed lines index → Signature.BareAssignment content →
    (lead.length = 1 ↔ other.length = 1)
  block : ∀ stop, Documents lines stop → lastOpening lines stop < index → index ≤ stop →
    DocBlock.Fits strict
      (lastPiece '*' ((lines.take index).drop (lastOpening lines stop)).flatten)
      (firstPiece '*' (content ++ ((lines.take (stop + 1)).drop (index + 1)).flatten)) lead other

/-! ## Marks -/

theorem isMark_append {mark : Text} (leads : IsLead lead) (visible : IsVisible content) :
    isMark mark (lead ++ content) =
      (startsWith content mark && allBlank (content.drop mark.length)) := by
  have shorter : content.length < (lead ++ content).length := by
    have filled := List.length_pos_iff.mpr leads.nonempty
    rw [List.length_append]
    omega
  rw [isMark, trimStart_append leads.blank visible, decide_eq_true shorter, Bool.true_and]

theorem isLead_margin (margin : Margin) : IsLead margin.text :=
  ⟨margin.nonempty, margin.allBlank, margin.not_mem (by decide)⟩

/-- The lines at an index of two lists: the same, or one with another indentation. -/
theorem getElem?_cases (shifts : List.Forall₂ Shifts lines others) (index : Nat) :
    lines[index]? = others[index]? ∨ ∃ lead other content, IsLead lead ∧ IsLead other ∧
      IsVisible content ∧ lines[index]? = some (lead ++ content) ∧
        others[index]? = some (other ++ content) := by
  induction shifts generalizing index with
  | nil => exact .inl rfl
  | cons first _ ih =>
      cases index with
      | zero =>
          cases first with
          | same line => exact .inl rfl
          | @indent lead content leads visible margin =>
              exact .inr ⟨lead, margin.text, content, leads, isLead_margin margin, visible, rfl, rfl⟩
      | succ index =>
          simp only [List.getElem?_cons_succ]
          exact ih index

theorem any_isMark_eq (shifts : List.Forall₂ Shifts lines others) (mark : Text) (index : Nat) :
    (lines[index]?).any (isMark mark) = (others[index]?).any (isMark mark) := by
  rcases getElem?_cases shifts index with equal | ⟨lead, other, content, leads, otherLeads, visible,
    found, otherFound⟩
  · rw [equal]
  · rw [found, otherFound, Option.any_some, Option.any_some, isMark_append leads visible,
      isMark_append otherLeads visible]

theorem any_opensBlock_eq (shifts : List.Forall₂ Shifts lines others) (index : Nat) :
    (lines[index]?).any opensBlock = (others[index]?).any opensBlock :=
  any_isMark_eq shifts "/**" index

theorem any_closesBlock_eq (shifts : List.Forall₂ Shifts lines others) (index : Nat) :
    (lines[index]?).any closesBlock = (others[index]?).any closesBlock :=
  any_isMark_eq shifts "*/" index

/-- Blocks are opened, closed and consumed at the same places, by induction over the places. -/
theorem marks_iff (shifts : List.Forall₂ Shifts lines others) (index : Nat) :
    (Consumed lines index ↔ Consumed others index) ∧ (Opens lines index ↔ Opens others index) ∧
      (Closes lines index ↔ Closes others index) := by
  induction index using Nat.strongRecOn with
  | ind index ih =>
      have consumed : Consumed lines index ↔ Consumed others index := by
        cases index with
        | zero => exact iff_of_false not_consumed_zero not_consumed_zero
        | succ index =>
            rw [consumed_succ, consumed_succ]
            exact (ih index (Nat.lt_succ_self index)).2.2
      refine ⟨consumed, ?_, ?_⟩
      · rw [Opens, Opens, consumed, any_opensBlock_eq shifts]
      · rw [Closes, Closes, consumed, any_closesBlock_eq shifts]
        refine and_congr_right fun _ => and_congr_right fun _ => ?_
        refine exists_congr fun start => exists_congr fun below => ?_
        refine and_congr (ih start below).2.1 (forall_congr' fun between => ?_)
        exact imp_congr_right fun _ => forall_congr' fun before => not_congr (ih between before).2.2

theorem consumed_iff (shifts : List.Forall₂ Shifts lines others) (index : Nat) :
    Consumed lines index ↔ Consumed others index :=
  (marks_iff shifts index).1

theorem lastOpening_eq (shifts : List.Forall₂ Shifts lines others) (bound : Nat) :
    lastOpening lines bound = lastOpening others bound := by
  have same : Opens lines = Opens others := by
    funext index
    exact propext (marks_iff shifts index).2.1
  rw [lastOpening, lastOpening, same]

/-! ## Blocks -/

theorem drop_take_eq_cons {stop : Nat} (below : index ≤ stop) (found : lines[index]? = some line) :
    (lines.take (stop + 1)).drop index = line :: (lines.take (stop + 1)).drop (index + 1) := by
  have kept : (lines.take (stop + 1))[index]? = some line := by
    rw [List.getElem?_take, if_pos (Nat.lt_succ_of_le below), found]
  obtain ⟨inside, rfl⟩ := List.getElem?_eq_some_iff.mp kept
  exact List.drop_eq_getElem_cons inside

/-- The lines of a block from an index on have another indentation that fits, if this holds of each
of them. -/
theorem reindented_of_fits {strict : Prop} (shifts : List.Forall₂ Shifts lines others)
    {start stop : Nat} (inside : stop < lines.length)
    (fits : ∀ index lead other content, start ≤ index → index ≤ stop → IsLead lead →
      IsLead other → IsVisible content → lines[index]? = some (lead ++ content) →
      others[index]? = some (other ++ content) →
      DocBlock.Fits strict (lastPiece '*' ((lines.take index).drop start).flatten)
        (firstPiece '*' (content ++ ((lines.take (stop + 1)).drop (index + 1)).flatten)) lead other)
    {index : Nat} (begun : start ≤ index) :
    DocBlock.Reindented strict ((lines.take index).drop start).flatten
      ((lines.take (stop + 1)).drop index) ((others.take (stop + 1)).drop index) := by
  have sameLength := shifts.length_eq
  generalize room : stop + 1 - index = left
  induction left generalizing index with
  | zero =>
      have ended : (lines.take (stop + 1)).drop index = [] := by
        rw [List.drop_eq_nil_iff, List.length_take]
        omega
      have otherEnded : (others.take (stop + 1)).drop index = [] := by
        rw [List.drop_eq_nil_iff, List.length_take]
        omega
      rw [ended, otherEnded]
      exact .nil _
  | succ left ih =>
      have below : index ≤ stop := by omega
      have later : start ≤ index + 1 := by omega
      have behind := ih later (by omega)
      have present : index < others.length := by omega
      rcases getElem?_cases shifts index with equal | ⟨lead, other, content, leads, otherLeads,
        visible, found, otherFound⟩
      · have found := List.getElem?_eq_getElem present
        rw [flatten_drop_take_succ begun (equal.trans found)] at behind
        rw [drop_take_eq_cons below (equal.trans found), drop_take_eq_cons below found]
        exact .same _ behind
      · rw [flatten_drop_take_succ begun found] at behind
        rw [drop_take_eq_cons below found, drop_take_eq_cons below otherFound]
        exact .indent leads otherLeads
          (fits index lead other content begun below leads otherLeads visible found otherFound) behind

/-- Another indentation that is harmless does not show in the check of a documented signature. -/
theorem documented_eq {settings : Settings} (shifts : List.Forall₂ Shifts lines others)
    (usual : settings.paramPattern = Settings.defaultParamPattern)
    (oneLine : ∀ line ∈ lines, '\n' ∉ line)
    (harmless : ∀ index lead other content, IsLead lead → IsLead other → IsVisible content →
      lines[index]? = some (lead ++ content) → others[index]? = some (other ++ content) →
      Harmless settings.strictTypes lines index lead other content)
    {stop : Nat} (closes : Closes lines stop) {next : Text} (found : lines[stop + 1]? = some next)
    (index : Nat) :
    documented settings (blockBefore lines (stop + 1)) index next =
      documented settings (blockBefore others (stop + 1)) index next := by
  rw [documented]
  cases signed : Signature.documented? next with
  | none => rw [documented, signed]
  | some signature =>
      have documents : Documents lines stop := by
        refine ⟨closes, ?_⟩
        rw [found, Option.bind_some, signed, Option.isSome_some]
      have inside : stop < lines.length := by
        have := (List.getElem?_eq_some_iff.mp found).1
        omega
      have fits : ∀ index lead other content, lastOpening lines stop ≤ index → index ≤ stop →
          IsLead lead → IsLead other → IsVisible content → lines[index]? = some (lead ++ content) →
          others[index]? = some (other ++ content) →
          DocBlock.Fits settings.strictTypes
            (lastPiece '*' ((lines.take index).drop (lastOpening lines stop)).flatten)
            (firstPiece '*' (content ++ ((lines.take (stop + 1)).drop (index + 1)).flatten)) lead
            other := by
        intro index lead other content begun upto leads otherLeads visible found otherFound
        rcases Nat.eq_or_lt_of_le begun with rfl | behind
        · rw [List.drop_eq_nil_of_le (List.length_take_le _ _)]
          exact DocBlock.fits_nil _ _ _
        · exact (harmless index lead other content leads otherLeads visible found otherFound).block
            stop documents behind upto
      have reindented := reindented_of_fits shifts inside fits (Nat.le_refl _)
      rw [List.drop_eq_nil_of_le (List.length_take_le _ _)] at reindented
      have agree := DocBlock.forall₂_segments_of_reindented reindented (.refl _) List.not_mem_nil
        fun line mem => oneLine line (List.mem_of_mem_take (List.mem_of_mem_drop mem))
      rw [List.flatten_nil, List.nil_append, List.nil_append, ← usual] at agree
      rw [documented, signed, blockBefore, blockBefore, Nat.add_sub_cancel,
        ← lastOpening_eq shifts]
      exact Check.method_extract_congr settings agree _ _ _

/-! ## Findings -/

section

variable (settings : Settings) (shifts : List.Forall₂ Shifts lines others)
  (usual : settings.paramPattern = Settings.defaultParamPattern)
  (oneLine : ∀ line ∈ lines, '\n' ∉ line)
  (harmless : ∀ index lead other content, IsLead lead → IsLead other → IsVisible content →
    lines[index]? = some (lead ++ content) → others[index]? = some (other ++ content) →
    Harmless settings.strictTypes lines index lead other content)

include shifts usual oneLine harmless

/-- A harmless indentation does not show in what is found on a line that a block consumes. -/
theorem lineFindings_eq_of_consumed {stop : Nat} (closes : Closes lines stop) :
    lineFindings settings lines (stop + 1) = lineFindings settings others (stop + 1) := by
  have taken : Consumed lines (stop + 1) := consumed_succ.mpr closes
  have otherTaken : Consumed others (stop + 1) := (consumed_iff shifts _).mp taken
  have checked {next : Text} (found : lines[stop + 1]? = some next) :=
    documented_eq shifts usual oneLine harmless closes found (stop + 1)
  rw [lineFindings, lineFindings]
  rcases getElem?_cases shifts (stop + 1) with equal | ⟨lead, other, content, leads, otherLeads,
    visible, found, otherFound⟩
  · cases found : lines[stop + 1]? with
    | none =>
        rw [found] at equal
        simp only [atLine, found, ← equal]
    | some next =>
        have otherFound := equal.symm.trans found
        rw [atLine_of_consumed _ _ found taken, atLine_of_consumed _ _ otherFound otherTaken,
          checked found]
  · have signature := Signature.documented?_append leads otherLeads visible
    rw [atLine_of_consumed _ _ found taken, atLine_of_consumed _ _ otherFound otherTaken,
      checked found, documented, documented, signature]

omit usual in
/-- A harmless indentation does not show in what is found on any other line. -/
theorem lineFindings_eq_of_not_consumed (free : ¬ Consumed lines index) :
    lineFindings settings lines index = lineFindings settings others index := by
  have otherFree : ¬ Consumed others index := by rwa [← consumed_iff shifts]
  rw [lineFindings, lineFindings]
  rcases getElem?_cases shifts index with equal | ⟨lead, other, content, leads, otherLeads, visible,
    found, otherFound⟩
  · cases found : lines[index]? with
    | none =>
        rw [found] at equal
        simp only [atLine, found, ← equal]
    | some line =>
        have otherFound := equal.symm.trans found
        rw [atLine_of_not_consumed _ _ found free, atLine_of_not_consumed _ _ otherFound otherFree]
  · have contentLine : '\n' ∉ content := by
      intro mem
      exact oneLine _ (List.mem_of_getElem? found) (List.mem_append_right lead mem)
    have depth := (harmless index lead other content leads otherLeads visible found
      otherFound).assignment free
    rw [atLine_of_not_consumed _ _ found free, atLine_of_not_consumed _ _ otherFound otherFree,
      undocumented, undocumented,
      Signature.declared?_append leads otherLeads visible contentLine depth]

end

/-- Lines lose their carriage returns behind the content only. -/
theorem Shifts.dropEndWhile {test : Char → Bool} (blank : ∀ c, test c → isBlank c)
    (shifts : Shifts line other) :
    Shifts (Text.dropEndWhile test line) (Text.dropEndWhile test other) := by
  cases shifts with
  | same => exact .same _
  | @indent lead content leads visible margin =>
      obtain ⟨c, rest, rfl, shown⟩ := visible
      have kept : ¬ test c := by
        intro dropped
        rw [blank c dropped] at shown
        exact Bool.noConfusion shown
      rw [dropEndWhile_append_cons kept, dropEndWhile_append_cons kept]
      exact .indent leads ⟨c, Text.dropEndWhile test rest, rfl, shown⟩ margin

theorem forall₂_sourceLines {text other : Text} (reindents : Reindents text other) :
    List.Forall₂ Shifts (sourceLines text) (sourceLines other) := by
  rw [sourceLines, sourceLines, List.forall₂_map_left_iff, List.forall₂_map_right_iff]
  refine reindents.imp fun _ _ shifts => shifts.dropEndWhile ?_
  intro c return_
  rw [beq_iff_eq] at return_
  rw [return_]
  decide

/-- No line holds a line feed. -/
theorem not_mem_of_mem_sourceLines {text : Text} (mem : line ∈ sourceLines text) : '\n' ∉ line := by
  obtain ⟨piece, cut, rfl⟩ := List.mem_map.mp mem
  intro inside
  exact not_mem_of_mem_splitOn cut ((isPrefix_dropEndWhile _ _).subset inside)

/-- Findings do not depend on the depth of the indentation, as long as other indentations are
harmless. -/
theorem findings_of_reindents (settings : Settings) {text other : Text}
    (reindents : Reindents text other)
    (harmless : ∀ index lead margin content, IsLead lead → IsLead margin → IsVisible content →
      (sourceLines text)[index]? = some (lead ++ content) →
      (sourceLines other)[index]? = some (margin ++ content) →
      Harmless settings.strictTypes (sourceLines text) index lead margin content) :
    let usual := { settings with paramPattern := Settings.defaultParamPattern }
    isTangled usual other = false ∧ isTangled usual text = false ∧
      findings usual other = findings usual text := by
  intro usual
  have shifts := forall₂_sourceLines reindents
  have untangled (text : Text) : isTangled usual text = false := by
    rw [isTangled, List.any_eq_false]
    intro block _
    rw [DocBlock.isTangled_defaultParamPattern]
    exact Bool.false_ne_true
  refine ⟨untangled other, untangled text, ?_⟩
  rw [findings_eq_flatMap, findings_eq_flatMap, ← shifts.length_eq]
  apply List.flatMap_congr
  intro index _
  have oneLine : ∀ line ∈ sourceLines text, '\n' ∉ line := fun _ => not_mem_of_mem_sourceLines
  by_cases taken : Consumed (sourceLines text) index
  · cases index with
    | zero => exact absurd taken not_consumed_zero
    | succ stop =>
        exact (lineFindings_eq_of_consumed usual shifts rfl oneLine harmless
          (consumed_succ.mp taken)).symm
  · exact (lineFindings_eq_of_not_consumed usual shifts oneLine harmless taken).symm

/-- None of the three conditions can be left out: the depth shows behind the brace of a tag, between
the braces of a tag, and in front of an assignment. -/
theorem exists_reindents_findings_ne :
    let changes (text other : String) := Reindents text.toList other.toList ∧
      findings Settings.default other.toList ≠ findings Settings.default text.toList
    changes " /**\n * @param \x7bString\x7d\n */\n a: function(x)"
        " /**\n * @param \x7bString\x7d\n  */\n a: function(x)" ∧
      changes " /**\n * @param \x7bA\n B\x7d b\n */\n a: function(x)"
        " /**\n * @param \x7bA\n  B\x7d b\n */\n a: function(x)" ∧
      changes " = function()" "  = function()" := by
  intro changes
  have space : IsLead [' '] := ⟨by simp, by decide, by decide⟩
  let deeper : Margin := ⟨⟨[' ', ' '], by simp⟩, by simp⟩
  refine ⟨⟨?_, by decide +kernel⟩, ⟨?_, by decide +kernel⟩, ⟨?_, by decide +kernel⟩⟩
  · exact .cons (.same " /**".toList) (.cons (.same " * @param \x7bString\x7d".toList)
      (.cons (.indent space ⟨'*', ['/'], rfl, rfl⟩ deeper)
        (.cons (.same " a: function(x)".toList) .nil)))
  · exact .cons (.same " /**".toList) (.cons (.same " * @param \x7bA".toList)
      (.cons (.indent space ⟨'B', "\x7d b".toList, rfl, rfl⟩ deeper)
        (.cons (.same " */".toList) (.cons (.same " a: function(x)".toList) .nil))))
  · exact .cons (.indent space ⟨'=', " function()".toList, rfl, rfl⟩ deeper) .nil

/-- The margins of a documented function may change, also behind its tag. -/
theorem findings_of_margins :
    let text := " /**\n * @param \x7bString\x7d s\n */\n a: function(x)".toList
    let other := "\t/**\n   * @param \x7bString\x7d s\n  */\n\ta: function(x)".toList
    Reindents text other ∧
      findings Settings.default other = findings Settings.default text := by
  intro text other
  have space : IsLead [' '] := ⟨by simp, by decide, by decide⟩
  have reindents : Reindents text other := by
    show List.Forall₂ Shifts [" /**".toList, " * @param \x7bString\x7d s".toList, " */".toList,
      " a: function(x)".toList] ["\t/**".toList, "   * @param \x7bString\x7d s".toList,
      "  */".toList, "\ta: function(x)".toList]
    refine .cons ?_ (.cons ?_ (.cons ?_ (.cons ?_ .nil)))
    · exact .indent space ⟨_, _, rfl, rfl⟩ ⟨⟨['\t'], by simp⟩, by simp⟩
    · exact .indent space ⟨_, _, rfl, rfl⟩ ⟨⟨"   ".toList, by simp⟩, by simp⟩
    · exact .indent space ⟨_, _, rfl, rfl⟩ ⟨⟨"  ".toList, by simp⟩, by simp⟩
    · exact .indent space ⟨_, _, rfl, rfl⟩ ⟨⟨['\t'], by simp⟩, by simp⟩
  refine ⟨reindents, (findings_of_reindents Settings.default reindents ?_).2.2⟩
  intro index lead margin content leads _ visible found _
  have own : content = trimStart (lead ++ content) := (trimStart_append leads.blank visible).symm
  have inside := (List.getElem?_eq_some_iff.mp found).1
  have named {c : Char} {rest : Text} (other : ¬ (c = '=' ∨ c = ':')) :
      ¬ Signature.BareAssignment (c :: rest) := by
    rintro ⟨sign, space, gap, parameters, behind, isSign, -, -, same⟩
    rw [(List.cons.inj same).1] at other
    exact other isSign
  match index, inside, found with
  | 0, _, found =>
      rw [← Option.some.inj found] at own
      refine ⟨fun _ bare => absurd (own ▸ bare) (named (by decide)), ?_⟩
      intro stop _ below
      exact absurd below (Nat.not_lt_zero _)
  | 1, _, found =>
      rw [← Option.some.inj found] at own
      refine ⟨fun _ bare => absurd (own ▸ bare) (named (by decide)), ?_⟩
      intro stop _ below _
      rw [Nat.lt_one_iff.mp below]
      exact DocBlock.fits_nil _ _ _
  | 2, _, found =>
      rw [← Option.some.inj found] at own
      refine ⟨fun _ bare => absurd (own ▸ bare) (named (by decide)), ?_⟩
      intro stop _ below _
      have front : lastPiece '*' ((((sourceLines text).take 2).drop
          (lastOpening (sourceLines text) stop)).flatten) = " @param \x7bString\x7d s".toList := by
        obtain first | second : lastOpening (sourceLines text) stop = 0 ∨
            lastOpening (sourceLines text) stop = 1 := by omega
        · rw [first]
          rfl
        · rw [second]
          rfl
      rw [front, own]
      constructor
      · rintro ⟨typeName, -, before, gap, -, same⟩
        have last := congrArg List.getLast? same
        have ends : before ++ "@param".toList ++ (gap ++ '\x7b' :: (typeName ++ ['\x7d'])) =
            (before ++ "@param".toList ++ (gap ++ '\x7b' :: typeName)) ++ ['\x7d'] := by simp
        rw [ends, List.getLast?_append_cons] at last
        exact absurd last (by decide)
      · rintro _ _ _ ⟨early, rest, _, same⟩
        have nothing : firstPiece '*' ("*/".toList ++ (((sourceLines text).take (stop + 1)).drop
            3).flatten) = [] := rfl
        exact absurd (nothing.symm.trans same).symm (by simp)
  | 3, _, found =>
      rw [← Option.some.inj found] at own
      refine ⟨fun _ bare => absurd (own ▸ bare) (named (by decide)), ?_⟩
      intro stop documents _ upto
      obtain ⟨signature, signed⟩ := Option.isSome_iff_exists.mp documents.2
      obtain ⟨next, present, -⟩ := Option.bind_eq_some_iff.mp signed
      have short := (List.getElem?_eq_some_iff.mp present).1
      have four : (sourceLines text).length = 4 := rfl
      omega

end DocAudit.Scan
