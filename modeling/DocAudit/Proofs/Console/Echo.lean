import DocAudit.Console.Echo
import DocAudit.Proofs.Text.Layout

/-!
# Which documents a console shows as they are

A console that echoes a document changes it at three places: it replaces the emoji codes whose
names it knows, it drops the characters that a terminal would act on, and it puts spaces in the
place of tabs. None of the three can undo another, since no emoji begins with a colon and no emoji
holds a tab or a dropped character. A document is therefore shown as it is exactly if it offers
nothing to any of them.
-/

namespace DocAudit.Console

variable {text name shown : Text}

/-- Whether a console draws a character where it stands. -/
def isDrawn (c : Char) : Bool :=
  c != '\t' && !Text.isTerminalControl c

/-- The characters that are not drawn are the tab and its neighbours other than the line feed. -/
theorem isDrawn_iff {c : Char} : isDrawn c ↔ c.toNat < 7 ∨ c.toNat = 10 ∨ 13 < c.toNat := by
  have tab : c = '\t' ↔ c.toNat = 9 := Char.toNat_inj.symm
  simp only [isDrawn, Text.isTerminalControl, Bool.and_eq_true, bne_iff_ne, ne_eq, tab,
    Bool.not_eq_true', Bool.or_eq_false_iff, beq_eq_false_iff_ne]
  omega

/-! ## Emoji -/

/-- Every emoji in the table has a code point, and none of them is a colon or below the space. -/
theorem emojiTable_codes :
    ∀ entry ∈ emojiTable, entry.2 ≠ [] ∧ ∀ code ∈ entry.2, 32 ≤ code ∧ code ≠ 58 := by
  decide +kernel

/-- A code point from the space on that is not the colon gives a drawn character other than the
colon, also where it is no scalar value. -/
theorem isDrawn_ofNat {code : Nat} (printable : 32 ≤ code) (other : code ≠ 58) :
    isDrawn (Char.ofNat code) ∧ Char.ofNat code ≠ ':' := by
  have value : (Char.ofNat code).toNat = code ∨ (Char.ofNat code).toNat = 0 := by
    by_cases valid : code.isValidChar
    · exact .inl (congrArg Char.toNat (dif_pos valid))
    · exact .inr (congrArg Char.toNat (dif_neg valid))
  have colon : (':' : Char).toNat = 58 := rfl
  rw [isDrawn_iff, ne_eq, ← Char.toNat_inj, colon]
  omega

/-- An emoji is drawn and does not begin with a colon. -/
theorem drawn_of_emoji (known : emoji? name = some shown) :
    (∃ c rest, shown = c :: rest ∧ c ≠ ':') ∧ ∀ c ∈ shown, isDrawn c := by
  obtain ⟨⟨names, codes⟩, found, rfl⟩ := Option.map_eq_some_iff.mp known
  obtain ⟨nonempty, allowed⟩ := emojiTable_codes _ (List.mem_of_find?_eq_some found)
  have drawn : ∀ code ∈ codes, isDrawn (Char.ofNat code) ∧ Char.ofNat code ≠ ':' :=
    fun code mem => isDrawn_ofNat (allowed code mem).1 (allowed code mem).2
  refine ⟨?_, List.forall_mem_map.mpr fun code mem => (drawn code mem).1⟩
  obtain ⟨code, rest, rfl⟩ := List.exists_cons_of_ne_nil nonempty
  exact ⟨_, _, rfl, (drawn code (by simp)).2⟩

/-! ## Emoji codes -/

/-- The names of the emoji codes of a text, from left to right. Fuel is the number of
characters. -/
def codeNames : Nat → Text → List Text
  | 0, _ => []
  | _ + 1, [] => []
  | fuel + 1, c :: rest =>
    if c = ':' then
      match codeTail? rest with
      | some (name, _, _, after) => name :: codeNames fuel after
      | none => codeNames fuel rest
    else codeNames fuel rest

/-- The mark of an ending is drawn, and the ending is cut off the text behind the name. -/
theorem codeTail?_eq_some {mark code after : Text}
    (found : codeTail? text = some (name, mark, code, after)) :
    code ++ after = text ∧ ∀ c ∈ mark, isDrawn c := by
  fun_induction codeTail? text generalizing name code with
  | case1 => cases found
  | case2 c rest ending _ known =>
      obtain ⟨rfl, rfl, rfl, rfl⟩ := by simpa using found
      have begins := List.find?_some known
      obtain ⟨behind, split⟩ := Text.startsWith_iff.mp begins
      have marks : ∀ ending ∈ presentations, ending.2.all isDrawn := by decide
      refine ⟨?_, List.all_eq_true.mp (marks _ (List.mem_of_find?_eq_some known))⟩
      rw [← split, List.drop_left]
  | case3 => cases found
  | case4 c rest _ _ ih =>
      obtain ⟨⟨inner, innerMark, innerCode, behind⟩, inside, same⟩ :=
        Option.map_eq_some_iff.mp found
      obtain ⟨-, rfl, rfl, rfl⟩ := by simpa using same
      obtain ⟨split, drawn⟩ := ih inside
      exact ⟨by rw [List.cons_append, split], drawn⟩

/-- Replacing codes leaves a text as it is exactly if no code has a known name. -/
theorem replaceCodes_eq_self_iff (fuel : Nat) (text : Text) :
    replaceCodes fuel text = text ↔
      ∀ name ∈ codeNames fuel text, emoji? (Text.lower name) = none := by
  fun_induction replaceCodes fuel text with
  | case1 text => simp [codeNames]
  | case2 fuel => simp [codeNames]
  | case3 fuel rest name mark code after found ih =>
      obtain ⟨split, -⟩ := codeTail?_eq_some found
      rw [codeNames, if_pos rfl, found, List.forall_mem_cons, ← ih, shownCode]
      cases known : emoji? (Text.lower name) with
      | none => simp [← split]
      | some shown =>
          obtain ⟨⟨c, more, rfl, other⟩, -⟩ := drawn_of_emoji known
          simp [other]
  | case4 fuel rest none ih => simp [codeNames, none, ih]
  | case5 fuel c rest other ih => simp [codeNames, other, ih]

/-- Emoji are drawn, so a drawn text stays drawn when its codes are replaced. -/
theorem isDrawn_of_mem_replaceCodes {fuel : Nat} (drawn : ∀ c ∈ text, isDrawn c) :
    ∀ c ∈ replaceCodes fuel text, isDrawn c := by
  fun_induction replaceCodes fuel text with
  | case1 text => exact drawn
  | case2 fuel => exact drawn
  | case3 fuel rest name mark code after found ih =>
      obtain ⟨split, marks⟩ := codeTail?_eq_some found
      rw [List.forall_mem_cons, ← split, List.forall_mem_append] at drawn
      obtain ⟨colon, inCode, inAfter⟩ := drawn
      rw [List.forall_mem_append]
      refine ⟨?_, ih inAfter⟩
      rw [shownCode]
      cases known : emoji? (Text.lower name) with
      | none => exact List.forall_mem_cons.mpr ⟨colon, inCode⟩
      | some shown => exact List.forall_mem_append.mpr ⟨(drawn_of_emoji known).2, marks⟩
  | case4 fuel rest _ ih =>
      rw [List.forall_mem_cons] at drawn ⊢
      exact ⟨drawn.1, ih drawn.2⟩
  | case5 fuel c rest _ ih =>
      rw [List.forall_mem_cons] at drawn ⊢
      exact ⟨drawn.1, ih drawn.2⟩

/-! ## Controls and tabs -/

/-- A text whose lines are shown with their tabs expanded. -/
def layOut (text : Text) : Text :=
  Text.joinWith "\n" ((Text.splitOn '\n' text).map Text.expandTabs)

theorem echo_eq (document : Text) :
    echo document = layOut (Text.showable (replaceCodes document.length document)) ++ "\n" :=
  rfl

/-- Nothing but drawn characters reaches the console. -/
theorem isDrawn_of_mem_layOut {c : Char} (mem : c ∈ layOut (Text.showable text)) : isDrawn c := by
  rcases Text.mem_of_mem_joinWith mem with between | ⟨line, memLine, mem⟩
  · obtain rfl : c = '\n' := by simpa using between
    decide
  · obtain ⟨source, cut, rfl⟩ := List.mem_map.mp memLine
    rcases Text.mem_of_mem_expandFrom mem with rfl | ⟨part, memPart, mem⟩
    · decide
    · have noTab : c ≠ '\t' := by
        rintro rfl
        exact Text.not_mem_of_mem_splitOn memPart mem
      have kept := Text.mem_of_mem_splitOn cut (Text.mem_of_mem_splitOn memPart mem)
      simpa [isDrawn, noTab] using (List.mem_filter.mp kept).2

/-- A drawn text is laid out as it is. -/
theorem layOut_showable_of_isDrawn (drawn : ∀ c ∈ text, isDrawn c) :
    layOut (Text.showable text) = text := by
  have kept : Text.showable text = text := by
    rw [Text.showable, List.filter_eq_self]
    intro c mem
    exact (Bool.and_eq_true_iff.mp (drawn c mem)).2
  have lines : (Text.splitOn '\n' text).map Text.expandTabs = Text.splitOn '\n' text := by
    refine (List.map_congr_left fun line cut => ?_).trans (List.map_id _)
    have noTab : '\t' ∉ line := fun mem => by
      have drawnTab := drawn '\t' (Text.mem_of_mem_splitOn cut mem)
      exact absurd drawnTab (by decide)
    rw [Text.expandTabs, Text.splitOn_of_not_mem noTab, Text.expandFrom, id]
  rw [kept, layOut, lines]
  exact Text.joinWith_splitOn '\n' text

/-- A console shows a document as it is exactly if all its characters are drawn and no emoji code in
it has a known name. -/
theorem echo_eq_self_iff (document : Text) :
    echo document = document ++ "\n" ↔
      (∀ c ∈ document, isDrawn c) ∧
        ∀ name ∈ codeNames document.length document, emoji? (Text.lower name) = none := by
  rw [echo_eq, List.append_left_inj, ← replaceCodes_eq_self_iff]
  constructor
  · intro same
    have drawn : ∀ c ∈ document, isDrawn c := by
      intro c mem
      rw [← same] at mem
      exact isDrawn_of_mem_layOut mem
    refine ⟨drawn, ?_⟩
    rwa [layOut_showable_of_isDrawn (isDrawn_of_mem_replaceCodes drawn)] at same
  · rintro ⟨drawn, same⟩
    rw [same, layOut_showable_of_isDrawn drawn]

end DocAudit.Console
