import DocAudit.Proofs.Json.Strings
import DocAudit.Proofs.Text.Cutting

/-!
# Reading written integers

The numeral of an integer is read as that integer if nothing follows that would go on with the
number. Integers with more digits than the reader converts are left out.
-/

namespace DocAudit

namespace Text

/-! ## Decimal numerals -/

theorem digitsValue_toDigits (n : Nat) : digitsValue (Nat.toDigits 10 n) = n := by
  have same (digits : Text) (start : Nat) :
      digits.foldl (fun value c => value * 10 + (c.toNat - 48)) start =
        Nat.ofDigitChars 10 digits start := by
    rw [Nat.ofDigitChars]
    congr 1
    funext value c
    rw [Nat.mul_comm]
    rfl
  rw [digitsValue, same, Nat.ofDigitChars_ten_toDigits]

theorem isAsciiDigit_of_mem_toDigits {n : Nat} {c : Char} (mem : c ∈ Nat.toDigits 10 n) :
    isAsciiDigit c := by
  have digit := Nat.isDigit_of_mem_toDigits (by decide) (by decide) mem
  simpa [isAsciiDigit, Char.isDigit, Char.le_def] using digit

/-- A statement about the ten codes of digits is one about all digits. -/
theorem isAsciiDigit_induction {motive : Char → Prop} {c : Char} (digit : isAsciiDigit c)
    (all : ∀ code < 58, 48 ≤ code → motive (Char.ofNat code)) : motive c := by
  simp only [isAsciiDigit, Bool.and_eq_true, decide_eq_true_eq, Char.le_def,
    UInt32.le_iff_toNat_le] at digit
  have holds := all c.toNat (Nat.lt_succ_of_le digit.2) digit.1
  rwa [Char.ofNat_toNat] at holds

/-- The numeral of a positive number does not begin with a zero. -/
theorem head?_toDigits_ne {n : Nat} (positive : 0 < n) : (Nat.toDigits 10 n).head? ≠ some '0' := by
  induction n using Nat.strongRecOn with
  | ind n ih =>
      by_cases single : n < 10
      · have all : ∀ n < 10, 0 < n → n.digitChar ≠ '0' := by decide
        rw [Nat.toDigits_of_lt_base single]
        simpa using all n single positive
      · have front := ih (n / 10) (by omega) (by omega)
        obtain ⟨c, digits, cons⟩ :=
          List.exists_cons_of_ne_nil (Nat.toDigits_ne_nil : Nat.toDigits 10 (n / 10) ≠ [])
        rw [Nat.toDigits_of_base_le (by decide) (by omega), cons]
        rwa [cons] at front

end Text

namespace Json

variable {text rest : Text} {level fuel : Nat}

/-! ## Integers -/

/-- Whether a text does not go on with a number. -/
def endsNumber (rest : Text) : Bool :=
  rest.head?.all fun c => !Text.isAsciiDigit c && c != '.' && c != 'e' && c != 'E'

/-- Whether an integer has no more digits than are read. -/
def IsShort (n : Int) : Prop :=
  (Text.ofNat n.natAbs).length ≤ Text.digitLimit

instance (n : Int) : Decidable (IsShort n) :=
  inferInstanceAs (Decidable (_ ≤ _))

theorem takeWhile_digits {digits : Text} (all : ∀ c ∈ digits, Text.isAsciiDigit c)
    (ends : endsNumber rest) :
    (digits ++ rest).takeWhile Text.isAsciiDigit = digits ∧
      (digits ++ rest).dropWhile Text.isAsciiDigit = rest := by
  rw [List.takeWhile_append_of_pos all, List.dropWhile_append_of_pos all]
  cases rest with
  | nil => simp
  | cons c rest =>
      have other : Text.isAsciiDigit c = false := by
        simp only [endsNumber, List.head?_cons, Option.all_some, Bool.and_eq_true,
          Bool.not_eq_true'] at ends
        exact ends.1.1.1
      simp [other]

theorem wholePart_toDigits (n : Nat) (ends : endsNumber rest) :
    wholePart (Nat.toDigits 10 n ++ rest) = (Nat.toDigits 10 n, rest) := by
  by_cases zero : n = 0
  · subst zero
    rfl
  · have first := Text.head?_toDigits_ne (Nat.pos_of_ne_zero zero)
    obtain ⟨taken, dropped⟩ :=
      takeWhile_digits (fun _ mem => Text.isAsciiDigit_of_mem_toDigits (n := n) mem) ends
    obtain ⟨c, digits, cons⟩ :=
      List.exists_cons_of_ne_nil (Nat.toDigits_ne_nil : Nat.toDigits 10 n ≠ [])
    rw [wholePart.eq_def]
    split
    · next zero =>
      rw [cons, List.cons_append, List.cons.injEq] at zero
      rw [cons, zero.1] at first
      exact absurd rfl first
    · rw [taken, dropped]

theorem fraction?_of_endsNumber (ends : endsNumber rest) : fraction? rest = none := by
  unfold fraction?
  split
  · exact absurd ends (by simp [endsNumber])
  · rfl

theorem exponent?_of_endsNumber (ends : endsNumber rest) : exponent? rest = none := by
  cases rest with
  | nil => rfl
  | cons mark rest =>
      have other : ¬ (mark = 'e' ∨ mark = 'E') := by
        rintro (rfl | rfl)
        · simp [endsNumber] at ends
        · simp [endsNumber] at ends
      simp only [exponent?, if_neg other]

theorem isEmpty_toDigits (n : Nat) : (Nat.toDigits 10 n).isEmpty = false := by
  simp [Nat.toDigits_ne_nil]

/-- The numeral of a natural number begins with a digit. -/
theorem exists_toDigits_append (n : Nat) (rest : Text) :
    ∃ c tail, Nat.toDigits 10 n ++ rest = c :: tail ∧ Text.isAsciiDigit c := by
  obtain ⟨c, digits, cons⟩ :=
    List.exists_cons_of_ne_nil (Nat.toDigits_ne_nil : Nat.toDigits 10 n ≠ [])
  refine ⟨c, digits ++ rest, by rw [cons, List.cons_append], ?_⟩
  exact Text.isAsciiDigit_of_mem_toDigits (n := n) (by simp [cons])

/-- The numeral of an integer begins with a digit or a minus sign. -/
theorem exists_ofInt_append (n : Int) (rest : Text) :
    ∃ c tail, Text.ofInt n ++ rest = c :: tail ∧ (Text.isAsciiDigit c ∨ c = '-') := by
  cases n with
  | ofNat n =>
      obtain ⟨c, tail, cons, digit⟩ := exists_toDigits_append n rest
      exact ⟨c, tail, cons, .inl digit⟩
  | negSucc n => exact ⟨'-', Nat.toDigits 10 (n + 1) ++ rest, rfl, .inr rfl⟩

/-- An integer is read back from its numeral. -/
theorem number_ofInt {n : Int} (short : IsShort n) (ends : endsNumber rest) :
    number (Text.ofInt n ++ rest) = .ok (.int n, rest) := by
  cases n with
  | ofNat n =>
      have fits : ¬ Text.digitLimit < (Nat.toDigits 10 n).length := Nat.not_lt.mpr short
      -- Only the first character decides whether there is a sign.
      have unsigned : ∀ tail, Nat.toDigits 10 n ++ rest ≠ '-' :: tail := by
        intro tail equal
        obtain ⟨c, tail', cons, digit⟩ := exists_toDigits_append n rest
        rw [equal, List.cons.injEq] at cons
        rw [← cons.1] at digit
        exact absurd digit (by decide)
      rw [Text.ofInt, Text.ofNat, number.eq_def]
      split
      next negative unsigned' parts =>
      split at parts
      · next tail equal => exact absurd equal (unsigned tail)
      · simp only [Prod.mk.injEq] at parts
        obtain ⟨rfl, rfl⟩ := parts
        simp [wholePart_toDigits n ends, isEmpty_toDigits, fraction?_of_endsNumber ends,
          exponent?_of_endsNumber ends, fits, Text.digitsValue_toDigits]
  | negSucc n =>
      have fits : ¬ Text.digitLimit < (Nat.toDigits 10 (n + 1)).length := Nat.not_lt.mpr short
      rw [Text.ofInt, Text.ofNat, List.cons_append, number.eq_def]
      simp [wholePart_toDigits (n + 1) ends, isEmpty_toDigits, fraction?_of_endsNumber ends,
        exponent?_of_endsNumber ends, fits, Text.digitsValue_toDigits, Int.negSucc_eq]

/-- No word has a digit, and so none stands where a digit is the first or second character. -/
theorem word?_eq_none_of_digit {before : Text} {c : Char} (early : before.length ≤ 1)
    (digit : Text.isAsciiDigit c) (rest : Text) : word? (before ++ c :: rest) = none := by
  have letters : ∀ entry ∈ words,
      2 ≤ entry.1.length ∧ entry.1.all fun d => !Text.isAsciiDigit d := by decide
  have none : (words.find? fun entry => Text.startsWith (before ++ c :: rest) entry.1) = none := by
    rw [List.find?_eq_none]
    intro entry mem starts
    obtain ⟨long, noDigit⟩ := letters entry mem
    have inside : before.length < entry.1.length := by omega
    have same := (Text.startsWith_iff.mp starts).getElem inside
    rw [List.getElem_append_right (Nat.le_refl _)] at same
    simp only [Nat.sub_self, List.getElem_cons_zero] at same
    have letter := List.all_eq_true.mp noDigit c (same ▸ List.getElem_mem inside)
    rw [digit] at letter
    exact absurd letter (by decide)
  rw [word?, none, Option.map_none]

theorem word?_ofInt (n : Int) (rest : Text) : word? (Text.ofInt n ++ rest) = none := by
  cases n with
  | ofNat n =>
      obtain ⟨c, tail, cons, digit⟩ := exists_toDigits_append n rest
      rw [Text.ofInt, Text.ofNat, cons, ← List.nil_append (c :: tail)]
      exact word?_eq_none_of_digit (by decide) digit tail
  | negSucc n =>
      obtain ⟨c, tail, cons, digit⟩ := exists_toDigits_append (n + 1) rest
      rw [Text.ofInt, Text.ofNat, List.cons_append, cons, ← List.singleton_append]
      exact word?_eq_none_of_digit (by decide) digit tail

end Json

end DocAudit
