import DocAudit.Proofs.Console.Sequences
import DocAudit.Proofs.Report.EchoedReport
import DocAudit.Proofs.Report.XmlReport

/-!
# Text reports with and without colours

A text report is laid out once, and colours are added to what has been laid out. The layout itself
brings in spaces, dashes, borders, titles of columns and numerals. So if the texts of a report do not
hold the character with which control sequences begin, the only sequences in a report with colours
are those of the styles, and deleting them gives the report without colours, which is also what is
written to a file.
-/

namespace DocAudit

/-- Lists side by side are made of what stands side by side in them. -/
theorem exists_of_mem_zipWith {α β γ : Type} {f : α → β → γ} {firsts : List α} {seconds : List β}
    {item : γ} (mem : item ∈ List.zipWith f firsts seconds) :
    ∃ first ∈ firsts, ∃ second ∈ seconds, item = f first second := by
  rw [← List.map_uncurry_zip_eq_zipWith] at mem
  obtain ⟨⟨first, second⟩, pair, rfl⟩ := List.mem_map.mp mem
  obtain ⟨here, there⟩ := List.of_mem_zip pair
  exact ⟨first, here, second, there, rfl⟩

namespace Report

open Console

variable {width page : Nat} {widths : List Nat} {reports : List FileReport} {report : FileReport}
  {finding : Finding} {findings : List Finding} {blocks : List (List Line)} {block : List Line}
  {line : Line} {piece : Piece} {border : Border} {side : Char}

/-- A finding whose texts do not hold the character that begins a control sequence. -/
structure IsPlainFinding (finding : Finding) : Prop where
  message : escape ∉ finding.message
  method : escape ∉ finding.method

/-- A report whose texts do not hold that character. -/
structure IsPlainReport (report : FileReport) : Prop where
  file : escape ∉ report.file
  findings : ∀ finding ∈ report.findings, IsPlainFinding finding

/-! ## Titles of files -/

theorem escape_not_mem_dashes (n : Nat) : escape ∉ dashes n := by
  intro mem
  exact absurd (List.eq_of_mem_replicate mem) (by decide)

theorem escape_not_mem_fit {text : Text} (width : Nat) (plain : escape ∉ text) :
    escape ∉ Text.fit width text :=
  escape_not_mem_of_subset (Text.fit_subset width text) plain

/-- A title on one line, without tabs. -/
theorem escape_not_mem_cleaned {title : Text} (plain : escape ∉ title) :
    escape ∉ Text.expandTabs ((Text.showable title).map fun c => if c = '\n' then ' ' else c) := by
  refine escape_not_mem_of_subset (Text.expandTabs_subset _) fun mem => ?_
  obtain ⟨c, kept, replaced⟩ := List.mem_map.mp mem
  split at replaced
  · exact absurd replaced (by decide)
  · rw [replaced] at kept
    exact plain (Text.showable_subset title kept)

/-- A title that is cut where it leaves no room. -/
theorem escape_not_mem_shortened {title : Text} (plain : escape ∉ title) (width : Nat) :
    escape ∉ if width - 4 < Text.cells title then Text.fit (width - 5) title ++ "…" else title := by
  have dots : escape ∉ ("…" : Text) := by decide
  split
  · exact List.not_mem_append (escape_not_mem_fit _ plain) dots
  · exact plain

theorem isPlain_ruleLine (width : Nat) {title : Text} (plain : escape ∉ title) :
    IsPlain (ruleLine width title) := by
  have space : escape ∉ (" " : Text) := by decide
  have cleaned := escape_not_mem_cleaned plain
  rw [ruleLine]
  generalize Text.expandTabs _ = title at cleaned
  dsimp only
  split
  case isTrue => exact List.forall_mem_singleton.mpr (escape_not_mem_dashes width)
  case isFalse =>
    have shown := escape_not_mem_shortened cleaned width
    -- From here on only the characters of the title matter, not how it was cut or where it stands.
    generalize (if width - 4 < Text.cells title then _ else _ : Text) = title at shown
    generalize (width - Text.cells title) / 2 = side
    have left := List.not_mem_append (escape_not_mem_dashes (side - 1)) space
    have line := List.not_mem_append (List.not_mem_append (List.not_mem_append left shown) space)
      (escape_not_mem_dashes (side + 1))
    refine List.forall_mem_cons.mpr ⟨left, List.forall_mem_cons.mpr ⟨shown,
      List.forall_mem_singleton.mpr fun mem => ?_⟩⟩
    exact escape_not_mem_fit width line (List.mem_of_mem_drop mem)

/-! ## Borders -/

theorem isPlain_border_line (plain : escape ∉ [border.left, border.fill, border.cross, border.right])
    (widths : List Nat) : IsPlain (border.line widths) := by
  refine List.forall_mem_singleton.mpr fun mem => plain ?_
  simp only [List.mem_append, List.mem_cons, List.not_mem_nil, or_false] at mem ⊢
  rcases mem with (left | mem) | right
  · exact .inl left
  · rcases Text.mem_of_mem_joinWith mem with cross | ⟨filled, inside, mem⟩
    · exact .inr (.inr (.inl (List.mem_singleton.mp cross)))
    · obtain ⟨width, -, rfl⟩ := List.mem_map.mp inside
      exact .inr (.inl (List.eq_of_mem_replicate mem))
  · exact .inr (.inr (.inr right))

/-! ## Cells -/

theorem isPlain_blankLine (style : Style) (width : Nat) : IsPlain (blankLine style width) :=
  List.forall_mem_singleton.mpr
    (escape_not_mem_of_subset (Text.spaces_subset width []) List.not_mem_nil)

theorem isPlain_of_mem_cellLines {column : Column} {around : Style} (plain : escape ∉ piece.text)
    (mem : line ∈ cellLines column width around piece) : IsPlain line := by
  rw [cellLines] at mem
  split at mem
  · cases mem
  · obtain ⟨text, wrapped, rfl⟩ := List.mem_map.mp mem
    have space : escape ∉ (" " : Text) := by decide
    have kept := escape_not_mem_of_subset (Text.subset_of_mem_wrap wrapped) plain
    have content : IsPlain (shape around (width - 2) [⟨piece.style, text⟩]) :=
      isPlain_shape around _ (List.forall_mem_singleton.mpr kept)
    refine isPlain_shape around width (List.forall_mem_cons.mpr ⟨space, ?_⟩)
    exact List.forall_mem_append.mpr ⟨content, List.forall_mem_singleton.mpr space⟩

/-! ## Rows -/

theorem isPlain_besides (other : side ≠ escape) {cells : List Line}
    (plain : ∀ cell ∈ cells, IsPlain cell) : IsPlain (besides side cells) := by
  have bar : escape ∉ [side] := fun mem => other (List.mem_singleton.mp mem).symm
  induction cells with
  | nil => exact List.forall_mem_singleton.mpr bar
  | cons cell rest ih =>
      obtain ⟨first, others⟩ := List.forall_mem_cons.mp plain
      exact List.forall_mem_cons.mpr ⟨bar, List.forall_mem_append.mpr ⟨first, ih others⟩⟩

theorem isPlain_of_mem_rowLines (other : side ≠ escape) {height : Nat}
    (plain : ∀ block ∈ blocks, ∀ line ∈ block, IsPlain line)
    (mem : line ∈ rowLines side height blocks) : IsPlain line := by
  obtain ⟨index, -, rfl⟩ := List.mem_map.mp mem
  refine isPlain_besides other fun cell inside => ?_
  obtain ⟨block, listed, rfl⟩ := List.mem_map.mp inside
  rw [List.getD_eq_getElem?_getD]
  cases found : block[index]? with
  | none => exact List.forall_mem_nil _
  | some line => exact plain block listed line (List.mem_of_getElem? found)

theorem isPlain_of_mem_emptyRow (other : side ≠ escape) (mem : line ∈ emptyRow side widths) :
    IsPlain line := by
  rw [List.mem_singleton.mp mem]
  refine isPlain_besides other fun cell inside => ?_
  obtain ⟨width, -, rfl⟩ := List.mem_map.mp inside
  exact isPlain_blankLine .plain width

theorem isPlain_of_mem_headLines (mem : line ∈ headLines widths) : IsPlain line := by
  have titles : ∀ column ∈ columns, escape ∉ column.title := by decide
  simp only [headLines] at mem
  split at mem
  · exact isPlain_of_mem_emptyRow (by decide) mem
  · refine isPlain_of_mem_rowLines (by decide) (fun block inside line mem => ?_) mem
    obtain ⟨cell, listed, width, -, rfl⟩ := exists_of_mem_zipWith inside
    obtain ⟨column, known, other, -, rfl⟩ := exists_of_mem_zipWith listed
    rcases List.mem_append.mp mem with blank | mem
    · rw [List.eq_of_mem_replicate blank]
      exact isPlain_blankLine .bold width
    · exact isPlain_of_mem_cellLines (titles column known) mem

/-- The texts of a row are a label, a numeral and the texts of the finding. -/
theorem escape_not_mem_of_mem_rowTexts (plain : IsPlainFinding finding)
    (mem : piece ∈ rowTexts finding) : escape ∉ piece.text := by
  have label : escape ∉ severityLabel finding.severity := by
    cases finding.severity <;> decide
  have number : escape ∉ Text.ofInt finding.line := by
    intro inside
    rcases Text.isAsciiDigit_or_eq_of_mem_ofInt inside with digit | sign
    · exact absurd digit (by decide)
    · exact absurd sign (by decide)
  simp only [rowTexts, List.mem_cons, List.not_mem_nil, or_false] at mem
  rcases mem with rfl | rfl | rfl | rfl
  · exact label
  · exact number
  · exact plain.method
  · exact plain.message

theorem isPlain_of_mem_findingLines (plain : IsPlainFinding finding)
    (mem : line ∈ findingLines widths finding) : IsPlain line := by
  simp only [findingLines] at mem
  split at mem
  · exact isPlain_of_mem_emptyRow (by decide) mem
  · refine isPlain_of_mem_rowLines (by decide) (fun block inside line mem => ?_) mem
    obtain ⟨cell, listed, width, -, rfl⟩ := exists_of_mem_zipWith inside
    obtain ⟨column, -, ⟨other, piece⟩, pair, rfl⟩ := exists_of_mem_zipWith listed
    rcases List.mem_append.mp mem with mem | blank
    · exact isPlain_of_mem_cellLines
        (escape_not_mem_of_mem_rowTexts plain (List.of_mem_zip pair).2) mem
    · rw [List.eq_of_mem_replicate blank]
      exact isPlain_blankLine .plain width

/-! ## Tables -/

theorem isPlain_of_mem_bodyLines (plain : ∀ finding ∈ findings, IsPlainFinding finding)
    (mem : line ∈ bodyLines widths findings) : IsPlain line := by
  fun_induction bodyLines widths findings with
  | case1 => cases mem
  | case2 finding => exact isPlain_of_mem_findingLines (plain finding (by simp)) mem
  | case3 finding rest more ih =>
      obtain ⟨first, others⟩ := List.forall_mem_cons.mp plain
      rcases List.mem_append.mp mem with mem | mem
      · exact isPlain_of_mem_findingLines first mem
      · rcases List.mem_cons.mp mem with rfl | mem
        · exact isPlain_border_line (by decide) widths
        · exact ih others mem

theorem isPlain_of_mem_tableLines (plain : ∀ finding ∈ findings, IsPlainFinding finding)
    (mem : line ∈ tableLines page findings) : IsPlain line := by
  have borders : ∀ border ∈ [topBorder, headBorder, bottomBorder],
      IsPlain (border.line (Report.widths page)) := by
    intro border listed
    refine isPlain_border_line ?_ _
    revert border
    decide
  simp only [tableLines, List.mem_append, List.mem_cons, List.not_mem_nil, or_false] at mem
  rcases mem with ((rfl | mem) | rfl | mem) | rfl
  · exact borders topBorder (by simp)
  · exact isPlain_of_mem_headLines mem
  · exact borders headBorder (by simp)
  · exact isPlain_of_mem_bodyLines plain mem
  · exact borders bottomBorder (by simp)

/-- The lines of a report do not hold that character if no text in it does. -/
theorem isPlain_of_mem_textLines (plain : ∀ report ∈ reports, IsPlainReport report)
    (mem : line ∈ textLines page reports) : IsPlain line := by
  obtain ⟨whole, inside, rfl⟩ := List.mem_map.mp mem
  obtain ⟨report, listed, shown⟩ := List.mem_flatMap.mp inside
  refine isPlain_crop page ?_
  rcases List.mem_cons.mp shown with rfl | shown
  · exact isPlain_ruleLine page (plain report listed).file
  · exact isPlain_of_mem_tableLines (plain report listed).findings shown

/-! ## Reports -/

theorem withoutSequences_printText_eq (plain : ∀ report ∈ reports, IsPlainReport report)
    (page : Nat) :
    withoutSequences (printText page true reports) = printText page false reports ∧
      escape ∉ printText page false reports := by
  have lines : ∀ line ∈ textLines page reports, IsPlain line :=
    fun _ mem => isPlain_of_mem_textLines plain mem
  rw [printText, printText]
  split
  · exact ⟨by rw [withoutSequences], List.not_mem_nil⟩
  · exact ⟨withoutSequences_render lines, escape_not_mem_render_false lines⟩

/-- Colours add nothing but control sequences to a text report. If no file name, message or name of a
method holds the character with which sequences begin, then on a console of any width the report with
colours gives the report without colours when its sequences are deleted, and in the latter none
begins. If a text report is delivered and echoed on a console as wide as the file, then the echo
without its sequences is the report; and where the delivery succeeds, this is what it gives and what
is read from its file. -/
theorem withoutSequences_printText (plain : ∀ report ∈ reports, IsPlainReport report) :
    (∀ page, withoutSequences (printText page true reports) = printText page false reports ∧
      escape ∉ printText page false reports) ∧
    escape ∉ renderText reports ∧
    ∀ (settings : Settings) (summary : Summary) (tree : FileTree),
      settings.reporter = .text → settings.verbose = true →
      let delivery := deliver settings 160 reports summary tree
      withoutSequences delivery.echo = renderText reports ∧
        ∀ output, delivery.result = .ok output →
          withoutSequences delivery.echo = output ∧
            delivery.tree.readBytes settings.output = .ok (Text.Utf8.encode output) := by
  have same := withoutSequences_printText_eq plain
  refine ⟨same, (same fileWidth).2, ?_⟩
  intro settings summary tree format verbose delivery
  have echoed : withoutSequences delivery.echo = renderText reports := by
    rw [show delivery.echo = _ from echo_deliver verbose, format]
    exact (same fileWidth).1
  refine ⟨echoed, fun output written => ?_⟩
  have rendered : output = renderText reports := by
    rw [output_of_deliver written, format]
    rfl
  refine ⟨echoed.trans rendered.symm, ?_⟩
  rw [readBytes_of_deliver written, ← output_of_deliver written]

/-- A report whose texts are wide, have tabs and line feeds, and are cut on a narrow console, where it
has colours. -/
theorem withoutSequences_printText_of_wide_texts :
    let reports : List FileReport :=
      [⟨"源/a\tb.js", [⟨.error, "one\ntwo", 12, "名"⟩, ⟨.warning, "", -1, "\t"⟩]⟩]
    let delivery := deliver Settings.default 160 reports (Summary.ofReports reports 1) ⟨[], []⟩
    (∀ report ∈ reports, IsPlainReport report) ∧
      escape ∈ printText 24 true reports ∧
      withoutSequences (printText 24 true reports) = printText 24 false reports ∧
      escape ∉ renderText reports ∧
      Settings.default.reporter = .text ∧ Settings.default.verbose = true ∧
      ∃ output, delivery.result = .ok output ∧ withoutSequences delivery.echo = output ∧
        delivery.tree.readBytes Settings.default.output = .ok (Text.Utf8.encode output) := by
  intro reports delivery
  have plain : ∀ report ∈ reports, IsPlainReport report := by
    refine List.forall_mem_singleton.mpr ⟨by decide, ?_⟩
    refine List.forall_mem_cons.mpr ⟨⟨by decide, by decide⟩, ?_⟩
    exact List.forall_mem_singleton.mpr ⟨by decide, by decide⟩
  obtain ⟨same, clean, echoed⟩ := withoutSequences_printText plain
  have written : delivery.result = .ok (renderText reports) := rfl
  obtain ⟨-, stored⟩ := echoed Settings.default (Summary.ofReports reports 1) ⟨[], []⟩ rfl rfl
  exact ⟨plain, by decide +kernel, (same 24).1, clean, rfl, rfl, _, written, stored _ written⟩

end Report

end DocAudit
