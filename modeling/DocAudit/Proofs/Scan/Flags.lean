import DocAudit.Proofs.Scan.Specification

/-!
# What the flags of the checks do

Two of the three checks of a documented function can be switched off. A scan with a check switched off
finds what the scan with both checks finds, without the warnings of that check. The flags have no part
in anything else: neither the places of blocks nor the signatures depend on them, and the warnings of
the two checks are told apart by their messages, whatever a type may say.
-/

namespace DocAudit

namespace Check

/-- Whether a finding is the warning about a description of one line. -/
def isShortDescription (finding : Finding) : Bool :=
  finding.severity = .warning && finding.message = shortDescriptionMessage

/-- Whether a finding is a warning about a type that is not accepted. -/
def isInvalidType (finding : Finding) : Bool :=
  finding.severity = .warning &&
    Text.startsWith finding.message "Documented argument is not a valid type"

/-- Whether a finding does not come from a check that is switched off. -/
def isAsked (settings : Settings) (finding : Finding) : Bool :=
  (settings.shortDocWarnings || !isShortDescription finding) &&
    (settings.strictTypes || !isInvalidType finding)

variable {settings full : Settings} {doc : MethodDoc} {line : Int} {name : Text} {finding : Finding}

/-! ## The findings of each check -/

theorem isInvalidType_invalidTypeMessage (typeName : Text) :
    isInvalidType ⟨.warning, invalidTypeMessage typeName, line, name⟩ := by
  have begins : Text.startsWith (invalidTypeMessage typeName)
      "Documented argument is not a valid type" := by
    rw [Text.startsWith_iff]
    unfold invalidTypeMessage
    exact ⟨" ( ".toList ++ typeName ++ " )".toList, by simp⟩
  rw [isInvalidType, begins]
  rfl

theorem isShortDescription_invalidTypeMessage (typeName : Text) :
    isShortDescription ⟨.warning, invalidTypeMessage typeName, line, name⟩ = false := by
  have other : invalidTypeMessage typeName ≠ shortDescriptionMessage := by
    intro same
    have heads := congrArg List.head? same
    rw [Scan.head?_invalidTypeMessage, Scan.head?_shortDescriptionMessage] at heads
    exact absurd heads (by decide)
  rw [isShortDescription, decide_eq_false other, Bool.and_false]

/-- An error is kept under all settings. -/
theorem isAsked_of_error (grave : finding.severity = .error) : isAsked settings finding := by
  simp [isAsked, isShortDescription, isInvalidType, grave]

theorem isAsked_of_mem_shortDescription (mem : finding ∈ shortDescription doc line name) :
    isAsked settings finding = settings.shortDocWarnings := by
  rw [shortDescription, List.mem_ite_nil_right, List.mem_singleton] at mem
  obtain ⟨-, rfl⟩ := mem
  have short : isShortDescription ⟨.warning, shortDescriptionMessage, line, name⟩ := by
    simp [isShortDescription]
  have untyped : isInvalidType ⟨.warning, shortDescriptionMessage, line, name⟩ = false := by
    have begins : Text.startsWith shortDescriptionMessage
        "Documented argument is not a valid type" = false := by decide
    rw [isInvalidType, begins, Bool.and_false]
  simp [isAsked, short, untyped]

theorem severity_of_mem_argumentCount (mem : finding ∈ argumentCount doc line name) :
    finding.severity = .error := by
  rw [argumentCount, List.mem_ite_nil_right, List.mem_singleton] at mem
  rw [mem.2]

theorem isAsked_of_mem_invalidTypes (mem : finding ∈ invalidTypes doc line name) :
    isAsked settings finding = settings.strictTypes := by
  rw [invalidTypes, List.mem_map] at mem
  obtain ⟨tag, -, rfl⟩ := mem
  simp [isAsked, isInvalidType_invalidTypeMessage, isShortDescription_invalidTypeMessage]

/-- Filtering findings that are all alike keeps all of them or none. -/
theorem filter_of_forall_eq {findings : List Finding} {keep : Finding → Bool} {kept : Bool}
    (alike : ∀ finding ∈ findings, keep finding = kept) :
    findings.filter keep = if kept then findings else [] := by
  rw [List.filter_congr alike]
  cases kept <;> simp

/-- A check with some rules switched off gives what the check with all rules gives, without the
findings of those rules. -/
theorem method_eq_filter (short : full.shortDocWarnings) (strict : full.strictTypes)
    (doc : MethodDoc) (line : Int) (name : Text) :
    method settings doc line name = (method full doc line name).filter (isAsked settings) := by
  have counted : (argumentCount doc line name).filter (isAsked settings) =
      argumentCount doc line name := by
    rw [List.filter_eq_self]
    exact fun finding mem => isAsked_of_error (severity_of_mem_argumentCount mem)
  rw [method, method, if_pos short, if_pos strict, List.filter_append, List.filter_append,
    filter_of_forall_eq fun finding mem => isAsked_of_mem_shortDescription mem, counted,
    filter_of_forall_eq fun finding mem => isAsked_of_mem_invalidTypes mem]

end Check

namespace Scan

theorem undocumented_eq_filter (settings : Settings) (index : Nat) (line : Text) :
    undocumented index line = (undocumented index line).filter (Check.isAsked settings) := by
  symm
  rw [List.filter_eq_self, undocumented]
  intro finding mem
  split at mem
  · rw [List.mem_singleton] at mem
    exact Check.isAsked_of_error (by rw [mem])
  · exact absurd mem List.not_mem_nil

theorem documented_eq_filter (settings full : Settings)
    (pattern : full.paramPattern = settings.paramPattern) (short : full.shortDocWarnings)
    (strict : full.strictTypes) (block : Text) (index : Nat) (line : Text) :
    documented settings block index line =
      (documented full block index line).filter (Check.isAsked settings) := by
  rw [documented, documented]
  cases Signature.documented? line with
  | none => rfl
  | some signature =>
      dsimp only
      rw [pattern]
      exact Check.method_eq_filter short strict _ _ _

/-- A scan finds what a scan with both flags set and the same pattern for parameter tags finds, without
the warnings about descriptions of one line if these are switched off, and without those about types
if strict types are. All other findings stay in their order, among them all errors, and the flags have
no part in whether a text is impossible to scan. -/
theorem findings_eq_filter (settings others : Settings) (text : Text) :
    let full := { others with
      paramPattern := settings.paramPattern, shortDocWarnings := true, strictTypes := true }
    findings settings text = (findings full text).filter (fun finding =>
        (settings.shortDocWarnings || !Check.isShortDescription finding) &&
          (settings.strictTypes || !Check.isInvalidType finding)) ∧
      (findings settings text).filter (fun finding => finding.severity = .error) =
        (findings full text).filter (fun finding => finding.severity = .error) ∧
      isTangled settings text = isTangled full text := by
  intro full
  have checked (block : Text) (index : Nat) (line : Text) :
      documented settings block index line =
        (documented full block index line).filter (Check.isAsked settings) :=
    documented_eq_filter settings full rfl rfl rfl block index line
  have filtered : findings settings text =
      (findings full text).filter (Check.isAsked settings) := by
    rw [findings, findings, findingsFrom_eq_walk, findingsFrom_eq_walk]
    exact walk_map undocumented (documented full) List.filter_nil (fun _ _ => List.filter_append _ _)
      0 (undocumented_eq_filter settings) checked none 0 (sourceLines text)
  refine ⟨filtered, ?_, rfl⟩
  rw [filtered, List.filter_filter]
  apply List.filter_congr
  intro finding _
  cases grave : finding.severity with
  | warning => rfl
  | error => rw [Check.isAsked_of_error grave, Bool.and_true]

end Scan

end DocAudit
