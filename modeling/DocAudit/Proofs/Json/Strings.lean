import DocAudit.Json.Printer
import DocAudit.Json.Reader

/-!
# Reading written strings

What is written for a character inside a string is read as that character, whatever follows it, and
so a written string is read back. A character behind the basic multilingual plane is written as two
units, and these two are read as one character again.
-/

namespace DocAudit

namespace Text

/-! ## Hexadecimal numbers -/

theorem hexNumber?_append_singleton (digits : Text) (c : Char) :
    hexNumber? (digits ++ [c]) = do return (← hexNumber? digits) * 16 + (← hexValue? c) := by
  rw [hexNumber?, List.foldl_append, ← hexNumber?]
  rfl

theorem hexValue?_digitChar {n : Nat} (digit : n < 16) : hexValue? n.digitChar = some n := by
  have all : ∀ n < 16, hexValue? n.digitChar = some n := by decide
  exact all n digit

/-- The digits of a number are read as that number. -/
theorem hexNumber?_toDigits (n : Nat) : hexNumber? (Nat.toDigits 16 n) = some n := by
  induction n using Nat.strongRecOn with
  | ind n ih =>
      by_cases single : n < 16
      · rw [Nat.toDigits_of_lt_base single, ← List.nil_append [n.digitChar],
          hexNumber?_append_singleton, hexValue?_digitChar single]
        simp [hexNumber?]
      · have front := ih (n / 16) (by omega)
        rw [Nat.toDigits_of_base_le (by decide) (by omega), hexNumber?_append_singleton, front,
          hexValue?_digitChar (by omega)]
        simp only [Option.pure_def, Option.bind_eq_bind, Option.bind_some, Option.some.injEq]
        omega

/-- Zeros in front do not matter. -/
theorem hexNumber?_replicate_append (count : Nat) (digits : Text) :
    hexNumber? (List.replicate count '0' ++ digits) = hexNumber? digits := by
  induction count with
  | zero => rfl
  | succ count ih =>
      rw [List.replicate_succ, List.cons_append, hexNumber?, List.foldl_cons]
      exact ih

theorem hexNumber?_hex (width n : Nat) : hexNumber? (hex width n) = some n := by
  rw [hex, hexNumber?_replicate_append, hexNumber?_toDigits]

theorem length_hex {width n : Nat} (fits : (Nat.toDigits 16 n).length ≤ width) :
    (hex width n).length = width := by
  rw [hex, List.length_append, List.length_replicate]
  omega

end Text

namespace Json

variable {opening rest : Text} {fuel : Nat}

/-! ## Units -/

theorem unit?_append {digits : Text} (four : digits.length = 4) (next : Char) (rest : Text) :
    unit? (digits ++ next :: rest) =
      (Text.hexNumber? digits).map fun unit => (unit, next :: rest) := by
  match digits, four with
  | [a, b, c, d], _ =>
      simp only [List.cons_append, List.nil_append, unit?]
      cases Text.hexNumber? [a, b, c, d] <;> rfl

theorem unit?_hex {unit : Nat} (small : unit < 65536) (next : Char) (rest : Text) :
    unit? (Text.hex 4 unit ++ next :: rest) = some (unit, next :: rest) := by
  have fits : (Nat.toDigits 16 unit).length ≤ 4 :=
    (Nat.length_toDigits_le_iff (by decide) (by decide)).mpr small
  rw [unit?_append (Text.length_hex fits), Text.hexNumber?_hex]
  rfl

/-- A character in front of what the rest of a string gives. -/
def inFront (c : Char) (result : Except Stop (Text × Text)) : Except Stop (Text × Text) :=
  (fun found => (c :: found.1, found.2)) <$> result

theorem inFront_ok (c : Char) (tail rest : Text) :
    inFront c (.ok (tail, rest)) = .ok (c :: tail, rest) := rfl

/-! ## One character of a string -/

theorem stringTail_short {e shown : Char} (other : e ≠ 'u') (escape : shortEscape? e = some shown)
    (rest : Text) : stringTail opening (fuel + 1) ('\\' :: e :: rest) =
      inFront shown (stringTail opening fuel rest) := by
  rw [stringTail, if_neg (by decide), if_pos rfl, escape]
  · cases stringTail opening fuel rest <;> rfl
  · exact other

theorem stringTail_plain {c : Char} (noQuote : c ≠ '"') (noBackslash : c ≠ '\\')
    (visible : 32 ≤ c.toNat) (rest : Text) :
    stringTail opening (fuel + 1) (c :: rest) = inFront c (stringTail opening fuel rest) := by
  rw [stringTail.eq_def]
  simp only [if_neg noQuote, if_neg noBackslash, if_neg (Nat.not_lt.mpr visible)]
  cases stringTail opening fuel rest <;> rfl

/-- A unit outside of the surrogates is a character. -/
theorem stringTail_unit {unit : Nat} {next : Char} (small : unit < 65536)
    (valid : unit < 0xD800 ∨ 0xDFFF < unit) (rest : Text) :
    stringTail opening (fuel + 1) (unitEscape unit ++ next :: rest) =
      inFront (Char.ofNat unit) (stringTail opening fuel (next :: rest)) := by
  have shape : unitEscape unit ++ next :: rest =
      '\\' :: 'u' :: (Text.hex 4 unit ++ next :: rest) := rfl
  have single : unitChar unit = Char.ofNat unit := by
    rw [unitChar, if_neg (by omega)]
  have notHigh : ¬ (0xD800 ≤ unit ∧ unit ≤ 0xDBFF) := by omega
  rw [shape, stringTail, if_neg (by decide), if_pos rfl]
  simp only [unit?_hex small, if_neg notHigh, single]
  cases stringTail opening fuel (next :: rest) <;> rfl

/-- A surrogate pair is one character. -/
theorem stringTail_pair {high low : Nat} {next : Char} (isHigh : 0xD800 ≤ high ∧ high ≤ 0xDBFF)
    (isLow : 0xDC00 ≤ low ∧ low ≤ 0xDFFF) (rest : Text) :
    stringTail opening (fuel + 1) (unitEscape high ++ (unitEscape low ++ next :: rest)) =
      inFront (pairChar high low) (stringTail opening fuel (next :: rest)) := by
  have shape : unitEscape high ++ (unitEscape low ++ next :: rest) =
      '\\' :: 'u' :: (Text.hex 4 high ++ '\\' :: 'u' :: (Text.hex 4 low ++ next :: rest)) := rfl
  rw [shape, stringTail, if_neg (by decide), if_pos rfl]
  have first := unit?_hex (show high < 65536 by omega) '\\'
    ('u' :: (Text.hex 4 low ++ next :: rest))
  have second := unit?_hex (show low < 65536 by omega) next rest
  simp only [first, second, if_pos isHigh, if_pos isLow]
  cases stringTail opening fuel (next :: rest) <;> rfl

theorem stringTail_close (rest : Text) :
    stringTail opening (fuel + 1) ('"' :: rest) = .ok ([], rest) := by
  rw [stringTail.eq_def]
  simp only [if_pos]

/-- The characters that are written as a backslash and a letter, with that letter. -/
def shortEscapes : List (Char × Char) :=
  [('"', '"'), ('\\', '\\'), ('\n', 'n'), ('\r', 'r'), ('\t', 't'), ('\x0c', 'f'), ('\x08', 'b')]

theorem escapedChar_of_short {c e : Char} (mem : (c, e) ∈ shortEscapes) :
    escapedChar c = ['\\', e] ∧ e ≠ 'u' ∧ shortEscape? e = some c := by
  have all : ∀ pair ∈ shortEscapes, escapedChar pair.1 = ['\\', pair.2] ∧ pair.2 ≠ 'u' ∧
      shortEscape? pair.2 = some pair.1 := by decide
  exact all (c, e) mem

/-- All other characters are written as themselves or by their units. -/
theorem escapedChar_of_not_short {c : Char} (long : c ∉ shortEscapes.map Prod.fst) :
    escapedChar c =
      if 32 ≤ c.toNat ∧ c.toNat < 127 then [c]
      else if c.toNat < 0x10000 then unitEscape c.toNat
      else unitEscape (0xD800 + (c.toNat - 0x10000) / 0x400) ++
        unitEscape (0xDC00 + (c.toNat - 0x10000) % 0x400) := by
  simp only [shortEscapes, List.map_cons, List.map_nil, List.mem_cons, List.not_mem_nil, or_false,
    not_or] at long
  obtain ⟨noQuote, noBackslash, noFeed, noReturn, noTab, noForm, noBackspace⟩ := long
  have noFormCode : c.toNat ≠ 12 := fun code => noForm (Char.toNat_inj.mp code)
  have noBackspaceCode : c.toNat ≠ 8 := fun code => noBackspace (Char.toNat_inj.mp code)
  unfold escapedChar
  simp only [noQuote, noBackslash, noFeed, noReturn, noTab, noFormCode, noBackspaceCode, if_false]

/-- What is written for a character is read as that character. -/
theorem stringTail_escapedChar (c next : Char) (rest : Text) :
    stringTail opening (fuel + 1) (escapedChar c ++ next :: rest) =
      inFront c (stringTail opening fuel (next :: rest)) := by
  by_cases short : c ∈ shortEscapes.map Prod.fst
  · obtain ⟨⟨_, e⟩, mem, rfl⟩ := List.mem_map.mp short
    obtain ⟨written, other, escape⟩ := escapedChar_of_short mem
    rw [written]
    exact stringTail_short other escape (next :: rest)
  · have valid : c.toNat < 0xD800 ∨ 0xDFFF < c.toNat ∧ c.toNat < 0x110000 := c.valid
    rw [escapedChar_of_not_short short]
    by_cases visible : 32 ≤ c.toNat ∧ c.toNat < 127
    · rw [if_pos visible]
      refine stringTail_plain ?_ ?_ visible.1 (next :: rest)
      · rintro rfl
        exact short (by decide)
      · rintro rfl
        exact short (by decide)
    · rw [if_neg visible]
      by_cases small : c.toNat < 0x10000
      · rw [if_pos small, stringTail_unit small (by omega), Char.ofNat_toNat]
      · have whole : pairChar (0xD800 + (c.toNat - 0x10000) / 0x400)
            (0xDC00 + (c.toNat - 0x10000) % 0x400) = c := by
          have code : 0x10000 + (0xD800 + (c.toNat - 0x10000) / 0x400 - 0xD800) * 0x400 +
              (0xDC00 + (c.toNat - 0x10000) % 0x400 - 0xDC00) = c.toNat := by omega
          rw [pairChar, code, Char.ofNat_toNat]
        rw [if_neg small, List.append_assoc, stringTail_pair (by omega) (by omega), whole]

/-- A written string is read back. -/
theorem stringTail_flatMap_escapedChar (text : Text) (enough : text.length < fuel) (rest : Text) :
    stringTail opening fuel (text.flatMap escapedChar ++ '"' :: rest) = .ok (text, rest) := by
  induction text generalizing fuel with
  | nil =>
      obtain ⟨fuel, rfl⟩ : ∃ less, fuel = less + 1 := ⟨fuel - 1, by omega⟩
      exact stringTail_close rest
  | cons c text ih =>
      obtain ⟨fuel, rfl⟩ : ∃ less, fuel = less + 1 := ⟨fuel - 1, by omega⟩
      have tail := ih (Nat.lt_of_succ_lt_succ enough)
      obtain ⟨next, others, cons⟩ :
          ∃ next others, text.flatMap escapedChar ++ '"' :: rest = next :: others :=
        List.exists_cons_of_ne_nil (by simp)
      rw [List.flatMap_cons, List.append_assoc, cons, stringTail_escapedChar, ← cons, tail,
        inFront_ok]

theorem escapedChar_ne_nil (c : Char) : escapedChar c ≠ [] := by
  by_cases short : c ∈ shortEscapes.map Prod.fst
  · obtain ⟨⟨_, e⟩, mem, rfl⟩ := List.mem_map.mp short
    rw [(escapedChar_of_short mem).1]
    exact List.cons_ne_nil _ _
  · rw [escapedChar_of_not_short short]
    split
    · exact List.cons_ne_nil _ _
    · split
      · exact List.cons_ne_nil _ _
      · exact List.cons_ne_nil _ _

theorem length_le_flatMap_escapedChar (text : Text) :
    text.length ≤ (text.flatMap escapedChar).length := by
  induction text with
  | nil => exact Nat.le_refl 0
  | cons c text ih =>
      have positive := List.length_pos_iff.mpr (escapedChar_ne_nil c)
      rw [List.flatMap_cons, List.length_append, List.length_cons]
      omega

theorem escaped_append (text rest : Text) :
    escaped text ++ rest = '"' :: (text.flatMap escapedChar ++ '"' :: rest) := by
  unfold escaped
  simp

/-- A written string is read back from its opening mark on. -/
theorem string_escaped (text rest : Text) : string (escaped text ++ rest) = .ok (text, rest) := by
  have fits := length_le_flatMap_escapedChar text
  rw [escaped_append, string]
  refine stringTail_flatMap_escapedChar text ?_ rest
  rw [List.length_append]
  omega

/-! ## The characters of a written string -/

/-- Whether a character is a line feed or a printable ASCII character. -/
def isWritten (c : Char) : Bool :=
  c == '\n' || (32 ≤ c.toNat && c.toNat < 127)

theorem isWritten_digitChar {n : Nat} (digit : n < 16) : isWritten n.digitChar := by
  have all : ∀ n < 16, isWritten n.digitChar := by decide
  exact all n digit

theorem isWritten_of_mem_toDigits {base n : Nat} (least : 1 < base) (most : base ≤ 16) {c : Char}
    (mem : c ∈ Nat.toDigits base n) : isWritten c := by
  induction n using Nat.strongRecOn with
  | ind n ih =>
      by_cases single : n < base
      · rw [Nat.toDigits_of_lt_base single, List.mem_singleton] at mem
        rw [mem]
        exact isWritten_digitChar (by omega)
      · rw [Nat.toDigits_of_base_le least (by omega), List.mem_append, List.mem_singleton] at mem
        rcases mem with mem | rfl
        · exact ih (n / base) (Nat.div_lt_self (by omega) least) mem
        · have digit := Nat.mod_lt n (by omega : 0 < base)
          exact isWritten_digitChar (by omega)

theorem isWritten_of_mem_hex {width n : Nat} {c : Char} (mem : c ∈ Text.hex width n) :
    isWritten c := by
  rw [Text.hex, List.mem_append] at mem
  rcases mem with mem | mem
  · rw [List.eq_of_mem_replicate mem]
    decide
  · exact isWritten_of_mem_toDigits (by decide) (by decide) mem

theorem isWritten_of_mem_unitEscape {unit : Nat} {c : Char} (mem : c ∈ unitEscape unit) :
    isWritten c := by
  rcases List.mem_append.mp mem with mem | mem
  · have all : "\\u".toList.all isWritten := by decide
    exact List.all_eq_true.mp all c mem
  · exact isWritten_of_mem_hex mem

/-- Only line feeds and printable ASCII characters are written for a character. -/
theorem isWritten_of_mem_escapedChar {c d : Char} (mem : d ∈ escapedChar c) : isWritten d := by
  by_cases short : c ∈ shortEscapes.map Prod.fst
  · obtain ⟨pair, memPair, rfl⟩ := List.mem_map.mp short
    have all : ∀ pair ∈ shortEscapes, (escapedChar pair.1).all isWritten := by decide
    exact List.all_eq_true.mp (all pair memPair) d mem
  · rw [escapedChar_of_not_short short] at mem
    split at mem
    · next visible =>
      obtain rfl := List.mem_singleton.mp mem
      simp [isWritten, visible]
    · split at mem
      · exact isWritten_of_mem_unitEscape mem
      · rcases List.mem_append.mp mem with mem | mem
        · exact isWritten_of_mem_unitEscape mem
        · exact isWritten_of_mem_unitEscape mem

theorem isWritten_of_mem_escaped {text : Text} {c : Char} (mem : c ∈ escaped text) :
    isWritten c := by
  have whole := escaped_append text []
  rw [List.append_nil] at whole
  rw [whole] at mem
  simp only [List.mem_cons, List.mem_append, List.mem_flatMap, List.not_mem_nil, or_false] at mem
  rcases mem with rfl | ⟨source, -, mem⟩ | rfl
  · decide
  · exact isWritten_of_mem_escapedChar mem
  · decide

end Json

end DocAudit
