import DocAudit.Proofs.Console.Echo
import DocAudit.Proofs.Report.Delivery
import DocAudit.Proofs.Report.JsonReport

/-!
# Echoed reports and written reports

A report for machines is echoed without wrapping or colours, but through a console, which has its
own reading of emoji codes, tabs and controls. The echo equals the written report exactly where the
console finds nothing to change. Reports in JSON escape tabs and controls, so only emoji codes can
tell their echo from their file.
-/

namespace DocAudit.Report

variable {settings : Settings} {width : Nat} {reports : List FileReport} {summary : Summary}
  {tree : FileTree} {output : Text}

/-- The echo does not depend on whether the report could be written. -/
theorem echo_deliver (verbose : settings.verbose = true) :
    (deliver settings width reports summary tree).echo =
      echoAs settings.reporter width reports summary := by
  rw [deliver]
  rcases stored : store tree settings.output (renderAs settings.reporter reports summary)
    with ⟨after, error | done⟩ <;> exact if_pos verbose

theorem echoAs_of_ne_text {reporter : Reporter} (machine : reporter ≠ .text) :
    echoAs reporter width reports summary =
      if width = 0 then [] else Console.echo (renderAs reporter reports summary) := by
  cases reporter with
  | text => exact absurd rfl machine
  | json => rfl
  | xml => rfl

/-- The characters of a report in JSON are all drawn. -/
theorem isDrawn_of_mem_renderJson (short : ShortNumbers reports (some summary)) :
    ∀ c ∈ renderJson reports (some summary), Console.isDrawn c := by
  intro c mem
  have written := isWritten_of_mem_renderJson short c mem
  rw [Json.isWritten, Bool.or_eq_true, beq_iff_eq, Bool.and_eq_true, decide_eq_true_eq] at written
  rw [Console.isDrawn_iff]
  rcases written with rfl | ⟨printable, -⟩
  · decide
  · omega

/-- The echo of a report for machines is the written report with a line feed exactly if the console
has cells, draws all characters of the report and knows no name of an emoji code in it. Of a report
in JSON all characters are drawn. -/
theorem echo_eq_written_iff (verbose : settings.verbose = true)
    (machine : settings.reporter ≠ .text)
    (written : (deliver settings width reports summary tree).result = .ok output) :
    ((deliver settings width reports summary tree).echo = output ++ "\n" ↔
      0 < width ∧ (∀ c ∈ output, Console.isDrawn c) ∧
        ∀ name ∈ Console.codeNames output.length output, Console.emoji? (Text.lower name) = none) ∧
    (settings.reporter = .json → ShortNumbers reports (some summary) →
      ∀ c ∈ output, Console.isDrawn c) := by
  obtain rfl := output_of_deliver written
  constructor
  · rw [echo_deliver verbose, echoAs_of_ne_text machine]
    by_cases none : width = 0
    · simp [none]
    · rw [if_neg none, Console.echo_eq_self_iff]
      simp [Nat.pos_of_ne_zero none]
  · intro json short
    rw [json]
    exact isDrawn_of_mem_renderJson short

/-- A report in XML is written to a new file, whatever it holds. -/
theorem deliver_xml_of_empty (reports : List FileReport) (summary : Summary) :
    (deliver { Settings.default with reporter := .xml } 80 reports summary ⟨[], []⟩).result =
      .ok (renderXml reports (some summary)) :=
  rfl

/-- A report with colons but no emoji codes, which is echoed as it is written. -/
theorem echo_eq_written_of_codeless :
    let settings := { Settings.default with reporter := .xml }
    let reports : List FileReport := [⟨"c:a.js", [⟨.error, "m: n", 0, "f"⟩]⟩]
    let summary := Summary.ofReports reports 1
    let delivery := deliver settings 80 reports summary ⟨[], []⟩
    settings.verbose = true ∧ settings.reporter ≠ .text ∧
      ∃ output, delivery.result = .ok output ∧ delivery.echo = output ++ "\n" := by
  intro settings reports summary delivery
  have written : delivery.result = .ok (renderXml reports (some summary)) :=
    deliver_xml_of_empty reports summary
  have drawn : ∀ c ∈ renderXml reports (some summary), Console.isDrawn c :=
    List.all_eq_true.mp (by decide +kernel)
  have codeless : Console.codeNames (renderXml reports (some summary)).length
      (renderXml reports (some summary)) = [] := by
    decide +kernel
  refine ⟨rfl, by decide, _, written, ?_⟩
  refine (echo_eq_written_iff rfl (by decide) written).1.mpr ⟨by decide, drawn, ?_⟩
  rw [codeless]
  exact List.forall_mem_nil _

/-- A method whose name is an emoji code is echoed under another name than it is written. -/
theorem exists_echo_ne_written :
    let settings := { Settings.default with reporter := .xml }
    let reports : List FileReport := [⟨"a.js", [⟨.error, "m", 0, ":100:"⟩]⟩]
    let summary := Summary.ofReports reports 1
    let delivery := deliver settings 80 reports summary ⟨[], []⟩
    settings.verbose = true ∧ settings.reporter ≠ .text ∧
      ∃ output, delivery.result = .ok output ∧ delivery.echo ≠ output ++ "\n" := by
  intro settings reports summary delivery
  have written : delivery.result = .ok (renderXml reports (some summary)) :=
    deliver_xml_of_empty reports summary
  have named : ("100" : Text) ∈ Console.codeNames (renderXml reports (some summary)).length
      (renderXml reports (some summary)) := by
    decide +kernel
  have known : Console.emoji? (Text.lower "100") ≠ none := by decide +kernel
  refine ⟨rfl, by decide, _, written, fun same => ?_⟩
  have shown : delivery.echo = Console.echo (renderXml reports (some summary)) := rfl
  rw [shown, Console.echo_eq_self_iff] at same
  exact known (same.2 _ named)

end DocAudit.Report
