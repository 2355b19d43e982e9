import DocAudit.Console.Measure
import DocAudit.Proofs.Json.Numbers
import DocAudit.Proofs.Text.Layout

/-!
# Control sequences for styles

A console with colours gets control sequences around the pieces of a line. Deleting all sequences of
this form gives back what a console without colours gets, as long as no piece brings in the character
with which they begin. Fitting a line into a width does not bring it in.
-/

namespace DocAudit.Console

variable {text after : Text} {lines : List Line} {line : Line} {piece : Piece}

/-! ## Deleting sequences -/

/-- The character that begins a control sequence. -/
def escape : Char := Char.ofNat 27

/-- The characters that may stand between the bracket and the letter of a sequence for styles. -/
def isParameter (c : Char) : Bool :=
  Text.isAsciiDigit c || c == ';'

/-- What follows a sequence for styles of which the first character has been taken off. -/
def behindSequence? : Text → Option Text
  | '[' :: rest =>
    match rest.dropWhile isParameter with
    | 'm' :: after => some after
    | _ => none
  | _ => none

theorem length_behindSequence?_lt (ended : behindSequence? text = some after) :
    after.length < text.length := by
  unfold behindSequence? at ended
  split at ended
  · next rest =>
    have shorter := (List.dropWhile_sublist (l := rest) isParameter).length_le
    split at ended
    · next last letter =>
      rw [letter, Option.some.inj ended, List.length_cons] at shorter
      rw [List.length_cons]
      omega
    · cases ended
  · cases ended

/-- A text without its sequences for styles. -/
def withoutSequences : Text → Text
  | [] => []
  | c :: rest =>
    if c = escape then
      match _ended : behindSequence? rest with
      | some after => withoutSequences after
      | none => c :: withoutSequences rest
    else c :: withoutSequences rest
termination_by text => text.length
decreasing_by
  · exact Nat.lt_succ_of_lt (length_behindSequence?_lt _ended)
  · exact Nat.lt_succ_self _
  · exact Nat.lt_succ_self _

theorem withoutSequences_append_of_not_mem (absent : escape ∉ text) (rest : Text) :
    withoutSequences (text ++ rest) = text ++ withoutSequences rest := by
  induction text with
  | nil => rfl
  | cons c front ih =>
      rw [List.mem_cons, not_or] at absent
      rw [List.cons_append, withoutSequences, if_neg (Ne.symm absent.1), ih absent.2,
        List.cons_append]

theorem behindSequence?_numeral (code : Nat) (rest : Text) :
    behindSequence? ('[' :: Text.ofNat code ++ 'm' :: rest) = some rest := by
  have digits : ∀ c ∈ Text.ofNat code, isParameter c := by
    intro c mem
    rw [isParameter, Text.isAsciiDigit_of_mem_toDigits mem, Bool.true_or]
  have letter := (Text.takeWhile_append_stop digits ('m' :: rest) rfl).2
  rw [List.cons_append, behindSequence?, letter]
  rfl

/-- The sequence that selects a style is deleted. -/
theorem withoutSequences_sequence_append (code : Nat) (rest : Text) :
    withoutSequences (sequence code ++ rest) = withoutSequences rest := by
  have split : sequence code ++ rest = escape :: ('[' :: Text.ofNat code ++ 'm' :: rest) := by
    rw [sequence, escape]
    simp
  rw [split, withoutSequences, if_pos rfl, behindSequence?_numeral]

/-- A sequence for something else than styles stays. -/
example : withoutSequences (escape :: "[1;31ma" ++ escape :: "[2Kb".toList) =
    "a" ++ escape :: "[2Kb".toList := by
  cbv

/-! ## Rendered lines -/

/-- A piece without colours is its text. -/
theorem render_false (piece : Piece) : piece.render false = piece.text := by
  rw [Piece.render]
  split <;> simp

theorem withoutSequences_render_append (plain : escape ∉ piece.text) (rest : Text) :
    withoutSequences (piece.render true ++ rest) = piece.text ++ withoutSequences rest := by
  rw [Piece.render]
  split
  · split
    · rw [List.append_assoc, List.append_assoc, withoutSequences_sequence_append,
        withoutSequences_append_of_not_mem plain, withoutSequences_sequence_append]
    · exact withoutSequences_append_of_not_mem plain rest
  · exact withoutSequences_append_of_not_mem plain rest

/-- A line whose pieces do not hold the character that begins a sequence. -/
def IsPlain (line : Line) : Prop :=
  ∀ piece ∈ line, escape ∉ piece.text

theorem withoutSequences_flatMap_append (plain : IsPlain line) (rest : Text) :
    withoutSequences (line.flatMap (Piece.render true) ++ rest) =
      line.flatMap Piece.text ++ withoutSequences rest := by
  induction line with
  | nil => rfl
  | cons piece others ih =>
      obtain ⟨first, others⟩ := List.forall_mem_cons.mp plain
      rw [List.flatMap_cons, List.append_assoc, withoutSequences_render_append first, ih others,
        List.flatMap_cons, List.append_assoc]

theorem render_false_eq (lines : List Line) :
    render false lines = lines.flatMap fun line => line.flatMap Piece.text ++ ['\n'] := by
  have same : renderLine false = fun line => line.flatMap Piece.text ++ ['\n'] := by
    funext line
    rw [renderLine, show Piece.render false = Piece.text from funext render_false]
  rw [render, same]

/-- Deleting the sequences gives the lines as they are without colours. -/
theorem withoutSequences_render (plain : ∀ line ∈ lines, IsPlain line) :
    withoutSequences (render true lines) = render false lines := by
  have feed : escape ∉ ['\n'] := by decide
  rw [render_false_eq]
  induction lines with
  | nil => rw [render, List.flatMap_nil, List.flatMap_nil, withoutSequences]
  | cons line others ih =>
      obtain ⟨first, others⟩ := List.forall_mem_cons.mp plain
      rw [render, List.flatMap_cons, ← render, renderLine, List.append_assoc,
        withoutSequences_flatMap_append first, withoutSequences_append_of_not_mem feed, ih others,
        List.flatMap_cons, List.append_assoc]

theorem escape_not_mem_render_false (plain : ∀ line ∈ lines, IsPlain line) :
    escape ∉ render false lines := by
  rw [render_false_eq]
  intro mem
  obtain ⟨line, inside, mem⟩ := List.mem_flatMap.mp mem
  rcases List.mem_append.mp mem with mem | feed
  · obtain ⟨piece, part, mem⟩ := List.mem_flatMap.mp mem
    exact plain line inside piece part mem
  · exact absurd feed (by decide)

/-! ## Lines of a width -/

/-- What holds spaces and characters of a text does not hold that character unless the text does. -/
theorem escape_not_mem_of_subset {shown : Text} (kept : shown ⊆ ' ' :: text)
    (plain : escape ∉ text) : escape ∉ shown := by
  intro mem
  rcases List.mem_cons.mp (kept mem) with space | mem
  · exact absurd space (by decide)
  · exact plain mem

theorem isPlain_upTo (room : Nat) (plain : IsPlain line) : IsPlain (upTo room line) := by
  fun_induction upTo room line with
  | case1 => exact plain
  | case2 room piece rest used _ ih =>
      obtain ⟨first, others⟩ := List.forall_mem_cons.mp plain
      exact List.forall_mem_cons.mpr ⟨first, ih others⟩
  | case3 room piece rest used _ =>
      obtain ⟨first, -⟩ := List.forall_mem_cons.mp plain
      exact List.forall_mem_singleton.mpr
        (escape_not_mem_of_subset (Text.fit_subset room piece.text) first)

theorem isPlain_crop (width : Nat) (plain : IsPlain line) : IsPlain (crop width line) := by
  rw [crop]
  split
  · exact isPlain_upTo width plain
  · exact plain

theorem isPlain_shape (style : Style) (width : Nat) (plain : IsPlain line) :
    IsPlain (shape style width line) := by
  rw [shape]
  split
  · refine List.forall_mem_append.mpr ⟨plain, List.forall_mem_singleton.mpr ?_⟩
    exact escape_not_mem_of_subset (Text.spaces_subset _ []) List.not_mem_nil
  · exact isPlain_crop width plain

end DocAudit.Console
