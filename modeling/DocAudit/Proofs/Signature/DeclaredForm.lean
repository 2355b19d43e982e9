import DocAudit.Proofs.Signature.Assignments

/-!
# Declarations in closed form

What a line declares is told by positions alone. Its name begins at the first blank and reaches to
the last position, two or more behind it, at which a function is assigned; its parameters reach to
the last closing parenthesis. The search passes over everything in front of the first blank. Then
the blanks take as much as they can, and the left-hand side takes the rest; only if nothing is left
in front of the sign do the blanks give back one of theirs, which makes a name of no characters.
-/

namespace DocAudit.Signature

open Pattern Text

variable {text : Text} {start side sign opening closing : Nat}

/-! ## The first blank -/

/-- A search passes over what stands in front of the first blank. -/
theorem firstWay?_drop_of_findIdx? (first : text.findIdx? isBlank = some start) :
    assignmentPattern.root.firstWay? text =
      assignmentPattern.root.firstWay? (text.drop start) := by
  have passed : ∀ late, late ≠ [] → late <:+ text.take start →
      assignmentPattern.root.ways (late ++ text.drop start) = [] := by
    intro late filled suffix
    obtain ⟨c, rest, rfl⟩ := List.exists_cons_of_ne_nil filled
    obtain ⟨place, inside⟩ := List.mem_iff_getElem?.mp (suffix.subset List.mem_cons_self)
    rw [List.getElem?_take, Option.ite_none_right_eq_some] at inside
    have visible : ¬ blank.accepts c := by
      rw [accepts_blank]
      intro blank
      have later := le_of_findIdx? first inside.2 blank
      omega
    rw [ways_assignmentPattern, List.cons_append, runRests, if_neg visible, List.flatMap_nil]
  have whole := Node.firstWay?_append_of_nil passed
  rwa [List.take_append_drop] at whole

/-- From a position on there are blanks, perhaps none, and then a visible character, at the latest
where one is known to stand. -/
theorem exists_content {place : Nat} {c : Char} (ordered : start ≤ place)
    (found : text[place]? = some c) (visible : isBlank c = false) :
    ∃ content, start ≤ content ∧ content ≤ place ∧ allBlank (slice text start content) ∧
      IsVisible (text.drop content) := by
  obtain ⟨content, before, ⟨reached, d, there, shown⟩, first⟩ :=
    exists_first (p := fun place => start ≤ place ∧ ∃ d, text[place]? = some d ∧
      isBlank d = false) ⟨ordered, c, found, visible⟩
  refine ⟨content, reached, before, ?_, d, _, drop_eq_cons there, shown⟩
  rw [allBlank, List.all_eq_true]
  intro e mem
  obtain ⟨other, after, earlier, found⟩ := mem_slice_iff.mp mem
  by_contra seen
  have later := first other ⟨after, e, found, by simpa using seen⟩
  omega

/-! ## The last assignment -/

section

variable {content : Nat} (oneLine : '\n' ∉ text)
  (leads : IsLead (slice text start content)) (visible : IsVisible (text.drop content))

include oneLine leads visible

/-- A left-hand side that begins visibly takes all characters up to the last assignment. -/
theorem firstWay?_drop_of_visible_side (ordered : start ≤ content)
    (last : LastAssignment text (content + 1) sign opening closing) :
    (assignmentPattern.root.firstWay? (text.drop start)).map Prod.snd =
      some ⟨[text.drop content, text.drop sign, text.drop (opening + 1), text.drop closing],
        text.drop (closing + 1)⟩ := by
  have way := last.firstWay_assignment oneLine
  rw [drop_eq_slice_append text ordered,
    firstWay?_of_ways leads visible (ways_ne_nil_iff.mpr ⟨_, way⟩), way]

/-- Where the sign of the last assignment is the first visible character, the last blank in front of it
is given back and becomes the left-hand side. -/
theorem firstWay?_drop_of_blank_side (depth : start + 2 ≤ content)
    (last : LastAssignment text (start + 2) content opening closing) :
    (assignmentPattern.root.firstWay? (text.drop start)).map Prod.snd =
      some ⟨[text.drop (content - 1), text.drop content, text.drop (opening + 1),
        text.drop closing], text.drop (closing + 1)⟩ := by
  have inside := last.assigns.lt_length
  obtain ⟨c, found⟩ : ∃ c, text[content - 1]? = some c :=
    ⟨_, List.getElem?_eq_getElem (by omega)⟩
  have single := drop_eq_cons found
  rw [Nat.sub_add_cancel (by omega)] at single
  have accepted : ∀ d ∈ slice text start content, blank.accepts d := accepted_of_isLead leads
  have front : ∀ d ∈ slice text start (content - 1), blank.accepts d := by
    intro d mem
    obtain ⟨place, after, before, there⟩ := mem_slice_iff.mp mem
    exact accepted d (mem_slice_iff.mpr ⟨place, after, by omega, there⟩)
  have spaced : blank.accepts c :=
    accepted c (mem_slice_iff.mpr ⟨content - 1, by omega, by omega, found⟩)
  have none : (Node.sequence assignment).ways (text.drop content) = [] := by
    by_contra ways
    obtain ⟨other, another, later, assigns⟩ := exists_assignsAt_of_ways_assignment ways
    have earlier := last.last other another (by omega) assigns
    omega
  have way := firstWay?_append_of_rightSide visible (slice_ne_nil (by omega) (by omega)) front
    spaced (fun equal => oneLine (equal ▸ List.mem_of_getElem? found))
    (fun mem => oneLine (List.mem_of_mem_drop mem)) none
    (last.assigns.firstWay_rightSide oneLine last.closing)
  rw [drop_eq_slice_append text (by omega : start ≤ content - 1), single, way]

end

/-- On a line with an assignment far enough behind the first blank the search finds the last one. The
left-hand side begins behind some blanks. -/
theorem firstWay?_of_lastAssignment (oneLine : '\n' ∉ text)
    (first : text.findIdx? isBlank = some start)
    (last : LastAssignment text (start + 2) sign opening closing) :
    ∃ side, start ≤ side ∧ side ≤ sign ∧ allBlank (slice text start side) ∧
      (assignmentPattern.root.firstWay? text).map Prod.snd =
        some ⟨[text.drop side, text.drop sign, text.drop (opening + 1), text.drop closing],
          text.drop (closing + 1)⟩ := by
  obtain ⟨c, found, spaced⟩ := exists_of_findIdx? first
  obtain ⟨d, there, isSign⟩ := last.assigns.exists_sign
  have behind := last.behind
  have shown : isBlank d = false := by rcases isSign with rfl | rfl <;> rfl
  obtain ⟨content, reached, before, blanks, visible⟩ :=
    exists_content (by omega : start ≤ sign) there shown
  have filled : content ≠ start := by
    rintro rfl
    obtain ⟨e, rest, same, shown⟩ := visible
    rw [drop_eq_cons found] at same
    obtain rfl := (List.cons.inj same).1
    rw [spaced] at shown
    exact Bool.noConfusion shown
  have leads : IsLead (slice text start content) := by
    refine ⟨slice_ne_nil (by omega) (List.getElem?_eq_some_iff.mp found).1, blanks, fun mem => ?_⟩
    exact oneLine (List.mem_of_mem_drop (List.mem_of_mem_take mem))
  rw [firstWay?_drop_of_findIdx? first]
  rcases Nat.lt_or_eq_of_le before with inside | rfl
  · have further : LastAssignment text (content + 1) sign opening closing :=
      ⟨last.assigns, inside, fun other another _ => last.last other another (by omega),
        last.closing⟩
    exact ⟨content, reached, before, blanks,
      firstWay?_drop_of_visible_side oneLine leads visible reached further⟩
  · refine ⟨content - 1, by omega, by omega, ?_,
      firstWay?_drop_of_blank_side oneLine leads visible behind last⟩
    rw [← slice_append_slice text (by omega : start ≤ content - 1) (Nat.sub_le content 1),
      allBlank_append, Bool.and_eq_true] at blanks
    exact blanks.1

theorem declared?_of_lastAssignment (oneLine : '\n' ∉ text) (code : isComment text = false)
    (first : text.findIdx? isBlank = some start)
    (last : LastAssignment text (start + 2) sign opening closing) :
    declared? text =
      some ⟨trim (slice text start sign), slice text (opening + 1) closing, .assignment⟩ := by
  obtain ⟨side, reached, before, blanks, way⟩ := firstWay?_of_lastAssignment oneLine first last
  have named : trim (slice text side sign) = trim (slice text start sign) := by
    rw [← slice_append_slice text reached before, trim, trim,
      trimStart_append_of_allBlank blanks]
  rw [declared?, find?_eq isPlain_assignmentPattern, code, way, Option.bind_some, groups_drop,
    ofGroups, named]
  rfl

/-! ## No assignment -/

/-- Somewhere on a line a function is assigned, two positions behind the first blank or later. -/
def IsAssigned (text : Text) : Prop :=
  ∃ start sign opening, text.findIdx? isBlank = some start ∧ start + 2 ≤ sign ∧
    AssignsAt text sign opening

theorem not_isAssigned_iff : ¬ IsAssigned text ↔ (∀ c ∈ text, isBlank c = false) ∨
    ∃ start, text.findIdx? isBlank = some start ∧
      ¬ ∃ sign opening, start + 2 ≤ sign ∧ AssignsAt text sign opening := by
  constructor
  · intro none
    cases first : text.findIdx? isBlank with
    | none => exact .inl (List.findIdx?_eq_none_iff.mp first)
    | some start =>
        refine .inr ⟨start, rfl, ?_⟩
        rintro ⟨sign, opening, behind, assigns⟩
        exact none ⟨start, sign, opening, first, behind, assigns⟩
  · rintro (visible | ⟨start, first, nowhere⟩) ⟨other, sign, opening, again, behind, assigns⟩
    · obtain ⟨c, found, blank⟩ := exists_of_findIdx? again
      rw [visible c (List.mem_of_getElem? found)] at blank
      exact Bool.false_ne_true blank
    · obtain rfl : other = start := Option.some.inj (again.symm.trans first)
      exact nowhere ⟨sign, opening, behind, assigns⟩

/-- Without an assignment far enough behind the first blank the search finds nothing. -/
theorem declared?_of_not_isAssigned (none : ¬ IsAssigned text) : declared? text = .none := by
  have nothing : assignmentPattern.root.firstWay? text = .none := by
    apply firstWay?_eq_none
    intro run behind filled blanks suffix
    by_contra ways
    have split := List.suffix_iff_eq_drop.mp suffix
    obtain ⟨c, rest, rfl⟩ := List.exists_cons_of_ne_nil filled
    have blank : isBlank c := by
      rw [← accepts_blank]
      exact blanks c List.mem_cons_self
    have found := getElem?_of_drop_eq_cons split.symm
    obtain ⟨start, first⟩ := exists_findIdx? found blank
    have earlier := le_of_findIdx? first found blank
    rw [drop_of_drop_eq_append split.symm] at ways
    obtain ⟨sign, opening, later, assigns⟩ := exists_assignsAt_of_ways_assignment ways
    rw [List.length_cons] at later
    exact none ⟨start, sign, opening, first, by omega, assigns⟩
  rw [declared?, find?_eq isPlain_assignmentPattern, nothing]
  exact ite_self _

/-! ## The closed form -/

theorem declared?_eq_none_iff (oneLine : '\n' ∉ text) :
    declared? text = none ↔ isComment text ∨ ¬ IsAssigned text := by
  constructor
  · intro nothing
    by_contra some
    rw [not_or, Bool.not_eq_true, not_not] at some
    obtain ⟨code, start, sign, opening, first, behind, assigns⟩ := some
    obtain ⟨last, another, closing, -, final⟩ := exists_lastAssignment assigns behind
    rw [declared?_of_lastAssignment oneLine code first final] at nothing
    exact Option.some_ne_none _ nothing
  · rintro (comment | none)
    · rw [declared?, find?, if_pos comment]
    · exact declared?_of_not_isAssigned none

theorem declared?_eq_some_iff (oneLine : '\n' ∉ text) :
    ∀ signature, declared? text = some signature ↔ isComment text = false ∧
      ∃ start sign opening closing, text.findIdx? isBlank = some start ∧
        LastAssignment text (start + 2) sign opening closing ∧
        signature =
          ⟨trim (slice text start sign), slice text (opening + 1) closing, .assignment⟩ := by
  refine eq_some_iff_of_exists ?_ fun some => ?_
  · rintro _ ⟨code, start, sign, opening, closing, first, final, rfl⟩
    exact declared?_of_lastAssignment oneLine code first final
  · rw [Ne, declared?_eq_none_iff oneLine, not_or, Bool.not_eq_true, not_not] at some
    obtain ⟨code, start, sign, opening, first, behind, assigns⟩ := some
    obtain ⟨last, another, closing, -, final⟩ := exists_lastAssignment assigns behind
    exact ⟨_, code, start, last, another, closing, first, final, rfl⟩

/-- What a line declares, by positions. It declares nothing exactly if it is a comment line, has no
blank, or has no assignment two positions behind the first blank or later. Otherwise the name is the
trimmed text from the first blank to the last such assignment, and the parameters are the text
between its opening and the last closing parenthesis. -/
theorem declared?_closed_form (oneLine : '\n' ∉ text) :
    (declared? text = none ↔ isComment text ∨ (∀ c ∈ text, isBlank c = false) ∨
      ∃ start, text.findIdx? isBlank = some start ∧
        ¬ ∃ sign opening, start + 2 ≤ sign ∧ AssignsAt text sign opening) ∧
    ∀ signature, declared? text = some signature ↔ isComment text = false ∧
      ∃ start sign opening closing, text.findIdx? isBlank = some start ∧
        LastAssignment text (start + 2) sign opening closing ∧
        signature =
          ⟨trim (slice text start sign), slice text (opening + 1) closing, .assignment⟩ := by
  rw [declared?_eq_none_iff oneLine, not_isAssigned_iff]
  exact ⟨Iff.rfl, declared?_eq_some_iff oneLine⟩

/-- Of two assignments the second is taken, and the parameters reach past their own parenthesis. -/
theorem declared?_closed_form_of_two_assignments :
    let text := " f = function(a, g = function (b) \x7b h() \x7d)".toList
    '\n' ∉ text ∧ ∃ start sign opening closing, text.findIdx? isBlank = some start ∧
      LastAssignment text (start + 2) sign opening closing ∧
      trim (slice text start sign) = "f = function(a, g".toList ∧
      slice text (opening + 1) closing = "b) \x7b h() \x7d".toList := by
  intro text
  have oneLine : '\n' ∉ text := by decide
  have declared : declared? text =
      some ⟨"f = function(a, g".toList, "b) \x7b h() \x7d".toList, .assignment⟩ := by decide +kernel
  obtain ⟨-, start, sign, opening, closing, first, last, same⟩ :=
    ((declared?_closed_form oneLine).2 _).mp declared
  obtain ⟨name, parameters, -⟩ := Signature.mk.inj same
  exact ⟨oneLine, start, sign, opening, closing, first, last, name.symm, parameters.symm⟩

end DocAudit.Signature
