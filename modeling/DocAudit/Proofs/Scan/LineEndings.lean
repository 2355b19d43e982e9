import DocAudit.Proofs.Files.Content
import DocAudit.Proofs.Scan.Appending
import DocAudit.Proofs.Scan.Reports

/-!
# Line endings

A source text can be written with other line endings. The scanner cuts at line feeds and drops the
carriage returns in front of them; the reader of files turns every ending into a line feed before
anything is cut. Both are followed character by character, and they agree: what is found in a text does
not depend on the endings it is written with.
-/

namespace DocAudit

namespace Text

variable {c : Char} {text other : Text}

/-- Two texts that differ in line endings only: a line feed of the first one may have a carriage return
in front of it in the second one. -/
inductive EndsAlike : Text → Text → Prop
  | nil : EndsAlike [] []
  | keep (c : Char) {text other : Text} : EndsAlike text other → EndsAlike (c :: text) (c :: other)
  | insert {text other : Text} : EndsAlike text other →
      EndsAlike ('\n' :: text) ('\r' :: '\n' :: other)

/-- A text with a lone carriage return for every line feed. -/
def withReturns (text : Text) : Text :=
  text.map fun c => if c = '\n' then '\r' else c

/-! ## Reading -/

theorem normalizeNewlines_cons (distinct : c ≠ '\r') (rest : Text) :
    normalizeNewlines (c :: rest) = c :: normalizeNewlines rest := by
  rw [normalizeNewlines, if_neg distinct]
  intro _ same
  exact absurd same distinct

/-- Without line feeds every carriage return is an ending of its own. -/
theorem normalizeNewlines_of_not_mem_feed (absent : '\n' ∉ text) :
    normalizeNewlines text = text.map fun c => if c = '\r' then '\n' else c := by
  fun_induction normalizeNewlines text with
  | case1 => rfl
  | case2 rest ih => exact absurd (by simp) absent
  | case3 c rest other ih => rw [List.map_cons, ih (List.not_mem_of_not_mem_cons absent)]

theorem EndsAlike.normalizeNewlines_eq (alike : EndsAlike text other) (absent : '\r' ∉ text) :
    normalizeNewlines other = text := by
  induction alike with
  | nil => rfl
  | keep c _ ih =>
      rw [normalizeNewlines_cons (List.ne_of_not_mem_cons absent).symm,
        ih (List.not_mem_of_not_mem_cons absent)]
  | insert _ ih => rw [normalizeNewlines, ih (List.not_mem_of_not_mem_cons absent)]

theorem normalizeNewlines_withReturns (absent : '\r' ∉ text) :
    normalizeNewlines (withReturns text) = text := by
  have lone : '\n' ∉ withReturns text := by
    rw [withReturns, List.mem_map]
    rintro ⟨c, -, same⟩
    split at same
    · cases same
    · contradiction
  rw [normalizeNewlines_of_not_mem_feed lone, withReturns, List.map_map]
  refine (List.map_congr_left fun c mem => ?_).trans (List.map_id text)
  by_cases feed : c = '\n'
  · simp only [Function.comp_apply, feed, if_true, id_eq]
  · have distinct : c ≠ '\r' := fun same => absent (same ▸ mem)
    simp only [Function.comp_apply, if_neg feed, if_neg distinct, id_eq]

end Text

/-! ## Cutting -/

namespace Scan

open Text

variable {settings : Settings} {c : Char} {text other : Text}

theorem sourceLines_feed (rest : Text) : sourceLines ('\n' :: rest) = [] :: sourceLines rest :=
  sourceLines_append [] rest

theorem sourceLines_return_feed (rest : Text) :
    sourceLines ('\r' :: '\n' :: rest) = [] :: sourceLines rest :=
  sourceLines_append ['\r'] rest

/-- A character that has no part in an ending belongs to the first line. -/
theorem sourceLines_cons (inside : c ≠ '\n') (kept : c ≠ '\r') (rest : Text) :
    sourceLines (c :: rest) = (sourceLines rest).modifyHead (c :: ·) := by
  obtain ⟨line, lines, cut⟩ := List.exists_cons_of_ne_nil (splitOn_ne_nil '\n' rest)
  have first : dropEndWhile (· == '\r') (c :: line) = c :: dropEndWhile (· == '\r') line :=
    dropEndWhile_cons (by simpa using kept) line
  rw [sourceLines, sourceLines, splitOn, if_neg inside, cut]
  simp only [List.map_cons, first, List.modifyHead_cons]

/-- The lines of a text are the same whatever endings they have. -/
theorem sourceLines_of_endsAlike (alike : EndsAlike text other) (absent : '\r' ∉ text) :
    sourceLines other = sourceLines text := by
  induction alike with
  | nil => rfl
  | keep c _ ih =>
      have rest := ih (List.not_mem_of_not_mem_cons absent)
      have kept := (List.ne_of_not_mem_cons absent).symm
      by_cases feed : c = '\n'
      · rw [feed, sourceLines_feed, sourceLines_feed, rest]
      · rw [sourceLines_cons feed kept, sourceLines_cons feed kept, rest]
  | insert _ ih =>
      rw [sourceLines_return_feed, sourceLines_feed, ih (List.not_mem_of_not_mem_cons absent)]

/-! ## What is found -/

theorem findings_of_endsAlike (alike : EndsAlike text other) (absent : '\r' ∉ text) :
    findings settings other = findings settings text := by
  rw [findings, findings, sourceLines_of_endsAlike alike absent]

theorem isTangled_of_endsAlike (alike : EndsAlike text other) (absent : '\r' ∉ text) :
    isTangled settings other = isTangled settings text := by
  rw [isTangled, isTangled, sourceLines_of_endsAlike alike absent]

/-- Line endings do not matter. A text without carriage returns gives the same findings when any of its
line feeds have a carriage return put in front of them, and it is impossible to scan then only if it
was so before. A file that holds such a text, or the text with a carriage return for every line feed, is
reported with the findings of the text, and not at all if there are none. -/
theorem findings_under_line_endings (settings : Settings) {text : Text} (absent : '\r' ∉ text) :
    (∀ other, EndsAlike text other →
      findings settings other = findings settings text ∧
        isTangled settings other = isTangled settings text) ∧
    ∀ written, EndsAlike text written ∨ written = withReturns text →
      ∀ (tree : FileTree) (path : Path), tree.readBytes path = .ok (Utf8.encode written) →
        (ScanFiles.scanAll settings tree [path]).2 =
          if isTangled settings text then .error .tangledGroups
          else .ok (if findings settings text = [] then []
            else [⟨path.render, findings settings text⟩]) := by
  constructor
  · intro other alike
    exact ⟨findings_of_endsAlike alike absent, isTangled_of_endsAlike alike absent⟩
  · intro written endings tree path bytes
    have normal : normalizeNewlines written = text := by
      rcases endings with alike | rfl
      · exact alike.normalizeNewlines_eq absent
      · exact normalizeNewlines_withReturns absent
    have read : tree.readText path = .ok text := by
      rw [FileTree.readText_of_readBytes bytes, normal]
    exact ScanFiles.scanAll_singleton_eq (FileTree.isFile_of_readBytes bytes) read

/-- A block and the function behind it: its warning stays when two of the three line feeds have a
carriage return in front of them, and when a file has the third kind of endings. -/
theorem findings_under_line_endings_of_block :
    let text : Text := " /**\n * s\n */\n f: function()"
    let other : Text := " /**\r\n * s\n */\r\n f: function()"
    let tree : FileTree := ⟨[(["a.js"], .file (Utf8.encode (withReturns text)))], []⟩
    let path := Path.ofText "a.js"
    let found : List Finding := [⟨.warning, Check.shortDescriptionMessage, 3, "f"⟩]
    '\r' ∉ text ∧ EndsAlike text other ∧ findings .default other = found ∧
      tree.readBytes path = .ok (Utf8.encode (withReturns text)) ∧
      (ScanFiles.scanAll .default tree [path]).2 = .ok [⟨"a.js", found⟩] := by
  intro text other tree path found
  have absent : '\r' ∉ text := by decide
  have alike : EndsAlike text other := by
    -- Two line feeds get a carriage return; everything else is kept.
    repeat first | exact .nil | apply EndsAlike.insert | apply EndsAlike.keep
  have plain : isTangled .default text = false := by decide +kernel
  have own : findings .default text = found := by decide +kernel
  have bytes : tree.readBytes path = .ok (Utf8.encode (withReturns text)) := rfl
  obtain ⟨texts, files⟩ := findings_under_line_endings .default absent
  have scanned := files _ (.inr rfl) tree path bytes
  rw [plain, own] at scanned
  exact ⟨absent, alike, (texts other alike).1.trans own, bytes, scanned⟩

end Scan

end DocAudit
