import DocAudit.Pattern.Matcher
import DocAudit.Proofs.Text.Cutting
import Mathlib.Data.Nat.Find

/-!
# Positions in text

A text can be told by its positions: the text from a position on, the slice between two positions,
the last position of a character. These are the facts by which statements about positions become
statements about parts of a text, and back. The last sections say when trimming
leaves nothing more to be trimmed, and what it does to a part of a text.
-/

namespace DocAudit.Text

open Pattern

variable {text whole : Text} {c : Char} {start middle stop : Nat}

/-! ## Parts between positions -/

theorem drop_eq_cons (found : text[start]? = some c) :
    text.drop start = c :: text.drop (start + 1) := by
  obtain ⟨inside, rfl⟩ := List.getElem?_eq_some_iff.mp found
  exact List.drop_eq_getElem_cons inside

theorem drop_eq_slice_append (text : Text) (ordered : start ≤ stop) :
    text.drop start = slice text start stop ++ text.drop stop := by
  have rest : text.drop stop = (text.drop start).drop (stop - start) := by
    rw [List.drop_drop]
    congr 1
    omega
  rw [rest, slice, List.take_append_drop]

theorem slice_append_slice (text : Text) (first : start ≤ middle) (second : middle ≤ stop) :
    slice text start middle ++ slice text middle stop = slice text start stop := by
  have whole : stop - start = (middle - start) + (stop - middle) := by omega
  rw [slice, slice, slice, whole, List.take_add, List.drop_drop]
  congr 3
  omega

/-- A slice that begins later is a suffix of one that ends at the same position. -/
theorem slice_suffix_slice (text : Text) (ordered : start ≤ middle) :
    slice text middle stop <:+ slice text start stop := by
  rcases Nat.le_total middle stop with inside | outside
  · rw [← slice_append_slice text ordered inside]
    exact List.suffix_append _ _
  · rw [slice, Nat.sub_eq_zero_of_le outside, List.take_zero]
    exact List.nil_suffix

theorem mem_slice_iff :
    c ∈ slice text start stop ↔ ∃ place, start ≤ place ∧ place < stop ∧ text[place]? = some c := by
  rw [slice, List.mem_iff_getElem?]
  simp only [List.getElem?_take, List.getElem?_drop, Option.ite_none_right_eq_some]
  constructor
  · rintro ⟨index, inside, found⟩
    exact ⟨start + index, by omega, by omega, found⟩
  · rintro ⟨place, after, before, found⟩
    refine ⟨place - start, by omega, ?_⟩
    rwa [Nat.add_sub_cancel' after]

theorem mem_drop_iff : c ∈ text.drop start ↔ ∃ place, start ≤ place ∧ text[place]? = some c := by
  rw [List.mem_iff_getElem?]
  simp only [List.getElem?_drop]
  constructor
  · rintro ⟨index, found⟩
    exact ⟨start + index, by omega, found⟩
  · rintro ⟨place, after, found⟩
    refine ⟨place - start, ?_⟩
    rwa [Nat.add_sub_cancel' after]

theorem slice_ne_nil (ordered : start < stop) (inside : start < text.length) :
    slice text start stop ≠ [] := by
  rw [← List.length_pos_iff, slice, List.length_take, List.length_drop]
  omega

/-- What follows some characters of the text from a position on is the text from a later position. -/
theorem drop_of_drop_eq_append {front rest : Text} (split : text.drop start = front ++ rest) :
    rest = text.drop (start + front.length) := by
  rw [← List.drop_drop, split, List.drop_left]

theorem slice_of_drop_eq_append {front rest : Text} (split : text.drop start = front ++ rest) :
    slice text start (start + front.length) = front := by
  rw [slice, split, Nat.add_sub_cancel_left, List.take_left]

theorem drop_eq_append_of_prefix {word : Text} (leads : word <+: text.drop start) :
    text.drop start = word ++ text.drop (start + word.length) := by
  obtain ⟨rest, split⟩ := leads
  rw [← split, drop_of_drop_eq_append split.symm]

theorem drop_of_drop_eq_cons {rest : Text} (split : text.drop start = c :: rest) :
    rest = text.drop (start + 1) := by
  rw [← List.drop_drop, split, List.drop_succ_cons, List.drop_zero]

theorem getElem?_of_drop_eq_cons {rest : Text} (split : text.drop start = c :: rest) :
    text[start]? = some c := by
  rw [← List.head?_drop, split, List.head?_cons]

theorem exists_drop_of_suffix {rest : Text} (suffix : rest <:+ text.drop start) :
    ∃ place, start ≤ place ∧ rest = text.drop place := by
  obtain ⟨front, split⟩ := suffix
  exact ⟨start + front.length, Nat.le_add_right _ _, drop_of_drop_eq_append split.symm⟩

/-- A position directly behind a character that passes a test. -/
def IsBehind (test : Char → Bool) (text : Text) (place : Nat) : Prop :=
  ∃ before c, place = before + 1 ∧ text[before]? = some c ∧ test c

/-! ## First and last positions -/

/-- A property of positions that holds somewhere holds at a first position. -/
theorem exists_first {p : Nat → Prop} {place : Nat} (here : p place) :
    ∃ first, first ≤ place ∧ p first ∧ ∀ other, p other → first ≤ other := by
  classical
  exact ⟨Nat.find ⟨place, here⟩, Nat.find_min' _ here, Nat.find_spec ⟨place, here⟩,
    fun other there => Nat.find_min' _ there⟩

/-- The last position at which a character stands. -/
structure IsLast (text : Text) (c : Char) (place : Nat) : Prop where
  found : text[place]? = some c
  last : ∀ other, text[other]? = some c → other ≤ place

theorem IsLast.not_mem_drop {place : Nat} (last : IsLast text c place) :
    c ∉ text.drop (place + 1) := by
  rw [mem_drop_iff]
  rintro ⟨other, after, found⟩
  have before := last.last other found
  omega

theorem IsLast.unique {place other : Nat} (last : IsLast text c place)
    (again : IsLast text c other) : place = other :=
  Nat.le_antisymm (again.last place last.found) (last.last other again.found)

/-- A property of positions that holds somewhere below a bound holds at a last position. -/
theorem exists_last {p : Nat → Prop} {place bound : Nat} (here : p place)
    (bounded : ∀ other, p other → other ≤ bound) :
    ∃ last, p last ∧ ∀ other, p other → other ≤ last := by
  classical
  exact ⟨Nat.findGreatest p bound, Nat.findGreatest_spec (bounded place here) here,
    fun other there => Nat.le_findGreatest (bounded other there) there⟩

theorem exists_isLast (mem : c ∈ text) : ∃ place, IsLast text c place := by
  obtain ⟨place, found⟩ := List.mem_iff_getElem?.mp mem
  have bounded : ∀ other, text[other]? = some c → other ≤ text.length := by
    intro other there
    exact Nat.le_of_lt (List.getElem?_eq_some_iff.mp there).1
  obtain ⟨last, there, behind⟩ := exists_last found bounded
  exact ⟨last, there, behind⟩

section

variable {test : Char → Bool}

theorem exists_of_findIdx? (first : text.findIdx? test = some start) :
    ∃ c, text[start]? = some c ∧ test c := by
  obtain ⟨inside, passed, -⟩ := List.findIdx?_eq_some_iff_getElem.mp first
  exact ⟨_, List.getElem?_eq_getElem inside, passed⟩

theorem le_of_findIdx? (first : text.findIdx? test = some start) {place : Nat}
    (found : text[place]? = some c) (passed : test c) : start ≤ place := by
  obtain ⟨inside, -, before⟩ := List.findIdx?_eq_some_iff_getElem.mp first
  obtain ⟨within, rfl⟩ := List.getElem?_eq_some_iff.mp found
  by_contra earlier
  exact before place (by omega) passed

theorem exists_findIdx? {place : Nat} (found : text[place]? = some c) (passed : test c) :
    ∃ start, text.findIdx? test = some start := by
  rw [← Option.isSome_iff_exists, List.findIdx?_isSome]
  exact List.any_eq_true.mpr ⟨c, List.mem_of_getElem? found, passed⟩

end

/-! ## Trimming -/

theorem trim_eq_nil_iff : trim text = [] ↔ allBlank text := by
  rw [trim, trimEnd, dropEndWhile_eq_rdropWhile, List.rdropWhile_eq_nil_iff, allBlank,
    List.all_eq_true]
  constructor
  · intro blank c mem
    by_contra visible
    rw [← takeWhile_append_trimStart text, List.mem_append] at mem
    rcases mem with front | rest
    · exact visible (List.all_eq_true.mp (allBlank_takeWhile text) c front)
    · exact visible (blank c rest)
  · intro blank c mem
    exact blank c ((List.dropWhile_suffix _).subset mem)

/-- Nothing is left to be trimmed of a trimmed text. -/
theorem trim_trim (text : Text) : trim (trim text) = trim text := by
  have front : trimStart (trim text) = trim text := by
    rw [trimStart, List.dropWhile_eq_self_iff]
    intro filled blank
    have kept : trim text <+: trimStart text := isPrefix_dropEndWhile _ _
    rw [kept.getElem filled] at blank
    exact List.dropWhile_get_zero_not isBlank text (Nat.lt_of_lt_of_le filled kept.length_le) blank
  rw [trim, front, trim, trimEnd, trimEnd, dropEndWhile_eq_rdropWhile, dropEndWhile_eq_rdropWhile,
    List.rdropWhile_idempotent]

/-! ## Trimming parts -/

theorem trimEnd_suffix (suffix : text <:+ whole) : trimEnd text <:+ trimEnd whole := by
  obtain ⟨before, rfl⟩ := suffix
  rw [trimEnd, trimEnd, dropEndWhile_append]
  split
  case isTrue empty => rw [empty]; exact List.nil_suffix
  case isFalse => exact List.suffix_append _ _

theorem trimStart_suffix (suffix : text <:+ whole) : trimStart text <:+ trimStart whole := by
  obtain ⟨before, rfl⟩ := suffix
  rw [trimStart, trimStart, List.dropWhile_append]
  split
  · exact List.suffix_refl _
  · exact (List.dropWhile_suffix _).trans (List.suffix_append _ _)

theorem trim_suffix (suffix : text <:+ whole) : trim text <:+ trim whole :=
  trimEnd_suffix (trimStart_suffix suffix)

/-- A visible part of a text stays when the text is trimmed. -/
theorem infix_trim (before after : Text) (filled : text ≠ [])
    (visible : ∀ c ∈ text, isBlank c = false) : text <:+: trim (before ++ text ++ after) := by
  have left : trimStart (before ++ text ++ after) = trimStart before ++ text ++ after := by
    obtain ⟨c, rest, rfl⟩ := List.exists_cons_of_ne_nil filled
    have first : isBlank c = false := visible c List.mem_cons_self
    rw [trimStart, trimStart, List.append_assoc, List.dropWhile_append, List.cons_append,
      List.dropWhile_cons_of_neg (by rw [first]; exact Bool.false_ne_true)]
    split
    case isTrue empty => rw [List.isEmpty_iff.mp empty]; rfl
    case isFalse => rw [List.append_assoc, List.cons_append]
  rw [trim, left, trimEnd, dropEndWhile_append]
  split
  case isTrue =>
      rw [dropEndWhile_append, dropEndWhile_eq_self visible, if_neg filled]
      exact (List.suffix_append _ _).isInfix
  case isFalse => exact ⟨trimStart before, trimEnd after, rfl⟩

end DocAudit.Text
