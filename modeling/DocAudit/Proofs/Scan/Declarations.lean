import DocAudit.Proofs.Scan.Indentation
import DocAudit.Proofs.Signature.Agreement

/-!
# Findings and declarations

Two recognisers decide which lines of a source text have findings: one for a line behind a closed
block, the other one for every other line. The first is stricter, so that a finding of either kind
sits on a line that declares a function. A function that is checked where it is documented is
therefore reported where it is not.
-/

namespace DocAudit.Scan

open Text Signature

variable {settings : Settings} {lines : List Text} {index : Nat} {line : Text} {finding : Finding}

theorem isSome_documented?_of_mem_documented {block : Text}
    (mem : finding ∈ documented settings block index line) : (documented? line).isSome := by
  rw [documented] at mem
  split at mem
  case h_1 signature found => rw [found, Option.isSome_some]
  case h_2 => exact absurd mem List.not_mem_nil

theorem isSome_declared?_of_mem_undocumented (mem : finding ∈ undocumented index line) :
    (declared? line).isSome := by
  rw [undocumented] at mem
  split at mem
  case h_1 signature found => rw [found, Option.isSome_some]
  case h_2 => exact absurd mem List.not_mem_nil

theorem isSome_declared?_of_isSome_documented? (oneLine : '\n' ∉ line)
    (documented : (documented? line).isSome) : (declared? line).isSome := by
  obtain ⟨signature, found⟩ := Option.isSome_iff_exists.mp documented
  obtain ⟨declared, same, -⟩ := exists_declared?_of_documented? oneLine found
  rw [same, Option.isSome_some]

/-- What is found on a line is found on a declaration, whether or not the line is consumed by a
block. -/
theorem isSome_declared?_of_mem_lineFindings (oneLine : '\n' ∉ line)
    (found : lines[index]? = some line) (mem : finding ∈ lineFindings settings lines index) :
    (declared? line).isSome := by
  rw [lineFindings] at mem
  by_cases taken : Consumed lines index
  · rw [atLine_of_consumed _ _ found taken] at mem
    exact isSome_declared?_of_isSome_documented? oneLine (isSome_documented?_of_mem_documented mem)
  · rw [atLine_of_not_consumed _ _ found taken] at mem
    exact isSome_declared?_of_mem_undocumented mem

theorem exists_declaration_of_mem_findings {text : Text} (mem : finding ∈ findings settings text) :
    ∃ (index : Nat) (line : Text), (sourceLines text)[index]? = some line ∧
      finding.line = index ∧ (declared? line).isSome := by
  rw [findings_eq_flatMap, List.mem_flatMap] at mem
  obtain ⟨index, inside, own⟩ := mem
  have found := List.getElem?_eq_getElem (List.mem_range.mp inside)
  have oneLine := not_mem_of_mem_sourceLines (List.mem_of_getElem? found)
  exact ⟨index, _, found, (line_of_mem_lineFindings own).1,
    isSome_declared?_of_mem_lineFindings oneLine found own⟩

/-- The recognisers agree in one direction: a line that documents a signature declares one, and the two
have parameters and names in common. Every finding of a scan sits on a line that declares a
function, and a text without such a line has no findings, whatever blocks it contains. -/
theorem findings_on_declarations :
    (∀ (line : Text) (signature : Signature), '\n' ∉ line →
      documented? line = some signature →
        ∃ declared, declared? line = some declared ∧ Agrees signature declared) ∧
    ∀ settings text,
      (∀ finding ∈ findings settings text, ∃ (index : Nat) (line : Text),
        (sourceLines text)[index]? = some line ∧ finding.line = index ∧ (declared? line).isSome) ∧
      ((∀ line ∈ sourceLines text, declared? line = none) → findings settings text = []) := by
  refine ⟨fun line signature oneLine found => exists_declared?_of_documented? oneLine found, ?_⟩
  intro settings text
  refine ⟨fun finding mem => exists_declaration_of_mem_findings mem, fun none => ?_⟩
  rw [List.eq_nil_iff_forall_not_mem]
  intro finding mem
  obtain ⟨index, line, found, -, declared⟩ := exists_declaration_of_mem_findings mem
  rw [none line (List.mem_of_getElem? found)] at declared
  exact Bool.false_ne_true declared

/-- A documented variable in a longer statement, a text with a function that is not documented, and a
block in front of a line that declares nothing. -/
theorem findings_on_declarations_of_variable :
    let line := " a = 1, var f = function(b)".toList
    let text := " f: function(b)".toList
    let commented := " /**\n */\n f(b)".toList
    ('\n' ∉ line ∧ documented? line = some ⟨"f".toList, "b".toList, .varAssignment⟩ ∧
      ∃ declared, declared? line = some declared ∧
        Agrees ⟨"f".toList, "b".toList, .varAssignment⟩ declared) ∧
    (∃ finding ∈ findings .default text, ∃ (index : Nat) (line : Text),
      (sourceLines text)[index]? = some line ∧ finding.line = index ∧ (declared? line).isSome) ∧
    (∀ line ∈ sourceLines commented, declared? line = none) ∧ findings .default commented = [] := by
  intro line text commented
  have oneLine : '\n' ∉ line := by decide
  have documented : documented? line = some ⟨"f".toList, "b".toList, .varAssignment⟩ := by
    decide +kernel
  have mem : ⟨.error, undocumentedMessage, 0, "f".toList⟩ ∈ findings .default text := by
    decide +kernel
  have none : ∀ line ∈ sourceLines commented, declared? line = none := by decide +kernel
  exact ⟨⟨oneLine, documented, findings_on_declarations.1 line _ oneLine documented⟩,
    ⟨_, mem, (findings_on_declarations.2 .default text).1 _ mem⟩,
    none, (findings_on_declarations.2 .default commented).2 none⟩

end DocAudit.Scan
