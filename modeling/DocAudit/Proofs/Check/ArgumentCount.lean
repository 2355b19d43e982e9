import DocAudit.Proofs.Results
import DocAudit.Proofs.Scan.GroupAccess
import DocAudit.Proofs.Text.Cutting

/-!
# Counting arguments

The error about the number of arguments compares two numbers. One is read off the text between the
parentheses of a signature, which is cut at its commas once its first space is removed. A signature
without parameters is told from one with a parameter by that text alone: it is empty or a single
space. The other number is that of the segments of a block in which the pattern for parameter tags
finds a match with a type. The error is there exactly if the two differ and the signature has
parameters, and it names both.
-/

namespace DocAudit

open Text

namespace Text

variable {separator : Char} {text : Text}

theorem eraseFirst_eq_erase (target : Char) (text : Text) :
    eraseFirst target text = text.erase target := by
  induction text with
  | nil => rfl
  | cons c rest ih =>
      by_cases same : c = target
      · rw [eraseFirst, if_pos same, same, List.erase_cons_head]
      · rw [eraseFirst, if_neg same, ih, List.erase_cons_tail (by simpa using same)]

/-- Only the empty text is cut into a single empty piece. -/
theorem splitOn_eq_singleton_nil_iff : splitOn separator text = [[]] ↔ text = [] := by
  constructor
  · intro cut
    rw [← joinWith_splitOn separator text, cut, joinWith]
  · rintro rfl
    rfl

end Text

namespace Pattern

variable {pattern : Pattern} {text : Text}

/-- The first group is looked up where the groups of the match are listed. -/
theorem head?_groups_of_group {found : Match} {taken : Option Text}
    (looked : found.group text 1 = .ok taken) : (found.groups text).head? = some taken := by
  rw [Match.group] at looked
  rw [List.head?_eq_getElem?]
  split at looked
  · next first listed =>
    rw [listed, Except.ok.inj looked]
  · cases looked

theorem search?_of_searchChecked {found : Option Match}
    (searched : pattern.searchChecked text = .ok found) : pattern.search? text = found := by
  rw [searchChecked_eq, unlessTangled] at searched
  split at searched
  · cases searched
  · exact Except.ok.inj searched

end Pattern

namespace DocBlock

variable {pattern : Pattern} {segment block parameters : Text} {doc : MethodDoc}

/-! ## Parameters of a signature -/

theorem length_splitArguments_eq_count (parameters : Text) :
    (splitArguments parameters).length = parameters.count ',' + 1 := by
  rw [splitArguments, length_splitOn, count_eraseFirst (by decide)]

/-- Joining the parameters gives the text back, without its first space. -/
theorem joinWith_splitArguments (parameters : Text) :
    joinWith [','] (splitArguments parameters) = parameters.erase ' ' := by
  rw [splitArguments, joinWith_splitOn, eraseFirst_eq_erase]

theorem declaresNone_splitArguments_iff :
    declaresNone (splitArguments parameters) ↔ parameters = [] ∨ parameters = [' '] := by
  rw [declaresNone, decide_eq_true_iff, splitArguments, splitOn_eq_singleton_nil_iff,
    eraseFirst_eq_erase, List.erase_eq_nil_iff]

/-! ## Tags of a block -/

/-- Whether a pattern for parameter tags has a match in a segment in which its first group, that of
the type, took part. -/
def namesType (pattern : Pattern) (segment : Text) : Bool :=
  (pattern.search? segment).any fun found => (found.groups segment).head?.any Option.isSome

/-- The number of segments of a block that name a type. -/
def typeCount (pattern : Pattern) (block : Text) : Nat :=
  (splitOn '*' block).countP (namesType pattern)

/-- A segment gives a tag exactly if it names a type, as long as nothing is wrong with the groups of
its match. -/
theorem isSome_tag?_of_classifyChecked {part : Segment}
    (classified : classifyChecked pattern segment = .ok part) :
    part.tag?.isSome = namesType pattern segment := by
  obtain ⟨searched, search, next⟩ := exists_of_bind_eq_ok classified
  rw [namesType, Pattern.search?_of_searchChecked search]
  cases searched with
  | none =>
      obtain rfl := Except.ok.inj next
      split <;> rfl
  | some found =>
      obtain ⟨taken, looked, next⟩ := exists_of_bind_eq_ok next
      rw [Option.any_some, Pattern.head?_groups_of_group looked, Option.any_some]
      cases taken with
      | none =>
          obtain rfl := Except.ok.inj next
          rfl
      | some typeName =>
          obtain ⟨summary, -, next⟩ := exists_of_bind_eq_ok next
          obtain rfl := Except.ok.inj next
          rfl

/-- Segments give as many tags as there are among them that name a type. -/
theorem length_filterMap_tag?_of_mapM {segments : List Text} {parts : List Segment}
    (classified : segments.mapM (classifyChecked pattern) = .ok parts) :
    (parts.filterMap Segment.tag?).length = segments.countP (namesType pattern) := by
  rw [List.length_filterMap_eq_countP]
  induction segments generalizing parts with
  | nil =>
      obtain rfl := Except.ok.inj classified
      rfl
  | cons segment rest ih =>
      rw [List.mapM_cons] at classified
      obtain ⟨part, first, classified⟩ := exists_of_bind_eq_ok classified
      obtain ⟨others, behind, classified⟩ := exists_of_bind_eq_ok classified
      obtain rfl := Except.ok.inj classified
      rw [List.countP_cons, List.countP_cons, ih behind, isSome_tag?_of_classifyChecked first]

theorem counts_of_extractChecked (extracted : extractChecked pattern block parameters = .ok doc) :
    doc.tags.length = typeCount pattern block ∧ doc.arguments = splitArguments parameters := by
  obtain ⟨parts, classified, extracted⟩ := exists_of_bind_eq_ok extracted
  obtain rfl := Except.ok.inj extracted
  exact ⟨length_filterMap_tag?_of_mapM classified, rfl⟩

end DocBlock

namespace Check

open DocBlock

variable {settings : Settings} {doc : MethodDoc} {line : Int} {name : Text} {finding : Finding}

/-- Whether a finding is the error about the number of arguments. -/
def isCountError (finding : Finding) : Bool :=
  finding.severity = .error &&
    startsWith finding.message "Documented arguments don't match method signature"

theorem isCountError_countMessage (documented actual : Nat) :
    isCountError ⟨.error, countMessage documented actual, line, name⟩ := by
  have begins : startsWith (countMessage documented actual)
      "Documented arguments don't match method signature" := by
    rw [startsWith_iff]
    unfold countMessage
    exact ⟨", ".toList ++ ofNat documented ++ " documented, ".toList ++ ofNat actual ++
      " actual".toList, by simp⟩
  rw [isCountError, begins]
  rfl

theorem not_isCountError_of_warning (light : finding.severity = .warning) :
    ¬ isCountError finding := by
  simp [isCountError, light]

/-- The error about the number of arguments is all that a check says about it. -/
theorem filter_isCountError_method (settings : Settings) (doc : MethodDoc) (line : Int)
    (name : Text) :
    (method settings doc line name).filter isCountError = argumentCount doc line name := by
  have short : (shortDescription doc line name).filter isCountError = [] := by
    rw [List.filter_eq_nil_iff]
    intro finding mem
    rw [shortDescription, List.mem_ite_nil_right, List.mem_singleton] at mem
    exact not_isCountError_of_warning (by rw [mem.2])
  have typed : (invalidTypes doc line name).filter isCountError = [] := by
    rw [List.filter_eq_nil_iff]
    intro finding mem
    obtain ⟨tag, -, rfl⟩ := List.mem_map.mp mem
    exact not_isCountError_of_warning rfl
  have counted : (argumentCount doc line name).filter isCountError =
      argumentCount doc line name := by
    rw [List.filter_eq_self]
    intro finding mem
    rw [argumentCount, List.mem_ite_nil_right, List.mem_singleton] at mem
    rw [mem.2]
    exact isCountError_countMessage _ _
  rw [method, List.filter_append, List.filter_append, counted]
  split <;> split <;> simp [short, typed]

/-- The text between the parentheses of a signature is cut into one argument more than it has commas.
Joined again they are that text without its first space, and they stand for no parameters exactly if
it is empty or a single space. If a block can be extracted under a pattern for parameter tags, its
check has an error about the number of arguments exactly if the text is neither and the number of
segments that name a type is not that of the commas and one. There is only one such error then, and
it states these two numbers. Under a pattern with two groups every block can be extracted that is not
tangled. -/
theorem count_error_of_extract (parameters : Text) :
    (splitArguments parameters).length = parameters.count ',' + 1 ∧
      joinWith [','] (splitArguments parameters) = parameters.erase ' ' ∧
      (declaresNone (splitArguments parameters) ↔ parameters = [] ∨ parameters = [' ']) ∧
      ∀ (pattern : Pattern) (block : Text),
        (∀ doc, extractChecked pattern block parameters = .ok doc →
          ∀ (settings : Settings) (line : Int) (name : Text),
            (method settings doc line name).filter isCountError =
              if parameters ≠ [] ∧ parameters ≠ [' '] ∧
                  typeCount pattern block ≠ parameters.count ',' + 1 then
                [⟨.error, countMessage (typeCount pattern block) (parameters.count ',' + 1), line,
                  name⟩]
              else []) ∧
        (2 ≤ pattern.groups → extractChecked pattern block parameters =
          if isTangled pattern block then .error .tangled
          else .ok (extract pattern block parameters)) := by
  refine ⟨length_splitArguments_eq_count parameters, joinWith_splitArguments parameters,
    declaresNone_splitArguments_iff, fun pattern block => ⟨?_, fun two => ?_⟩⟩
  · intro doc extracted settings line name
    obtain ⟨tags, arguments⟩ := counts_of_extractChecked extracted
    have filled : (!declaresNone (splitArguments parameters)) ↔
        parameters ≠ [] ∧ parameters ≠ [' '] := by
      rw [Bool.not_eq_true', ← Bool.not_eq_true, declaresNone_splitArguments_iff, not_or]
    rw [filter_isCountError_method, argumentCount, tags, arguments,
      length_splitArguments_eq_count]
    refine if_congr ?_ rfl rfl
    rw [filled, and_comm, and_assoc]
  · exact extractChecked_eq two block parameters

/-- A block with a match without a type and one with a type, in front of two parameters. -/
theorem count_error_of_optional_type :
    let pattern : Pattern :=
      { source := "(x)?(y)"
        root := .seq (.loop .greedy 0 (some 1) (.capture 1 (.one (.char 'x'))))
          (.capture 2 (.one (.char 'y')))
        groups := 2 }
    let block : Text := "/** y* xy* a */"
    2 ≤ pattern.groups ∧
      ∃ doc, extractChecked pattern block " a, b" = .ok doc ∧
        (method Settings.default doc 3 "f").filter isCountError =
          [⟨.error, "Documented arguments don't match method signature, 1 documented, 2 actual", 3,
            "f"⟩] := by
  intro pattern block
  have two : 2 ≤ pattern.groups := by decide
  obtain ⟨-, -, -, counts⟩ := count_error_of_extract " a, b"
  obtain ⟨counted, complete⟩ := counts pattern block
  have extracted : extractChecked pattern block " a, b" = .ok (extract pattern block " a, b") := by
    rw [complete two, if_neg (by decide +kernel)]
  refine ⟨two, _, extracted, ?_⟩
  rw [counted _ extracted]
  decide +kernel

end Check

end DocAudit
