import DocAudit.Files.Content

/-!
# Reading back the text of a file

The bytes of a text are decoded to that text: a character is encoded in one to four bytes, and
each of these forms is told apart by its first byte. Where a text has no carriage returns, a file
that holds its bytes is read as that text.
-/

namespace DocAudit

namespace Text.Utf8

variable {n position : Nat} {b b₁ b₂ b₃ : UInt8} {rest : List UInt8}

theorem toNat_toUInt8 (small : n < 256) : n.toUInt8.toNat = n :=
  UInt8.toNat_ofNat_of_lt small

/-! ## Bytes behind the first -/

theorem toNat_sixBits (n : Nat) : (0x80 + n % 64).toUInt8.toNat = 0x80 + n % 64 :=
  toNat_toUInt8 (by omega)

/-- A byte that carries six bits continues a sequence. -/
theorem isContinuation_sixBits (n : Nat) : isContinuation (0x80 + n % 64).toUInt8 := by
  rw [isContinuation, toNat_sixBits, Bool.and_eq_true, decide_eq_true_eq, decide_eq_true_eq]
  omega

/-- The second byte is restricted after four first bytes only. -/
theorem isSecond_of_isContinuation (continues : isContinuation b₁)
    (overlongThree : b.toNat = 0xE0 → 0xA0 ≤ b₁.toNat)
    (surrogate : b.toNat = 0xED → b₁.toNat ≤ 0x9F)
    (overlongFour : b.toNat = 0xF0 → 0x90 ≤ b₁.toNat)
    (beyondLast : b.toNat = 0xF4 → b₁.toNat ≤ 0x8F) : isSecond b b₁ := by
  rw [isSecond, continues, Bool.true_and]
  split
  · next equal => exact decide_eq_true (overlongThree equal)
  · next equal => exact decide_eq_true (surrogate equal)
  · next equal => exact decide_eq_true (overlongFour equal)
  · next equal => exact decide_eq_true (beyondLast equal)
  · rfl

/-! ## Forms by their length -/

theorem decodeFrom_one (lead : b.toNat < 0x80) :
    decodeFrom position (b :: rest) =
      (Char.ofNat b.toNat :: ·) <$> decodeFrom (position + 1) rest := by
  rw [decodeFrom.eq_def]
  simp only [if_pos lead]

theorem decodeFrom_two (lead : 0xC2 ≤ b.toNat ∧ b.toNat < 0xE0) (second : isSecond b b₁) :
    decodeFrom position (b :: b₁ :: rest) =
      (Char.ofNat ((b.toNat - 0xC0) * 64 + (b₁.toNat - 0x80)) :: ·) <$>
        decodeFrom (position + 2) rest := by
  rw [decodeFrom.eq_def]
  simp only [if_neg (show ¬ b.toNat < 0x80 by omega), if_neg (show ¬ b.toNat < 0xC2 by omega),
    if_pos lead.2, second, Bool.not_true, Bool.false_eq_true, if_false]

theorem decodeFrom_three (lead : 0xE0 ≤ b.toNat ∧ b.toNat < 0xF0) (second : isSecond b b₁)
    (third : isContinuation b₂) :
    decodeFrom position (b :: b₁ :: b₂ :: rest) =
      (Char.ofNat ((b.toNat - 0xE0) * 4096 + (b₁.toNat - 0x80) * 64 + (b₂.toNat - 0x80)) :: ·) <$>
        decodeFrom (position + 3) rest := by
  rw [decodeFrom.eq_def]
  simp only [if_neg (show ¬ b.toNat < 0x80 by omega), if_neg (show ¬ b.toNat < 0xC2 by omega),
    if_neg (show ¬ b.toNat < 0xE0 by omega), if_pos lead.2, second, third, Bool.not_true,
    Bool.false_eq_true, if_false]

theorem decodeFrom_four (lead : 0xF0 ≤ b.toNat ∧ b.toNat < 0xF5) (second : isSecond b b₁)
    (third : isContinuation b₂) (fourth : isContinuation b₃) :
    decodeFrom position (b :: b₁ :: b₂ :: b₃ :: rest) =
      (Char.ofNat ((b.toNat - 0xF0) * 262144 + (b₁.toNat - 0x80) * 4096 +
        (b₂.toNat - 0x80) * 64 + (b₃.toNat - 0x80)) :: ·) <$>
        decodeFrom (position + 4) rest := by
  rw [decodeFrom.eq_def]
  simp only [if_neg (show ¬ b.toNat < 0x80 by omega), if_neg (show ¬ b.toNat < 0xC2 by omega),
    if_neg (show ¬ b.toNat < 0xE0 by omega), if_neg (show ¬ b.toNat < 0xF0 by omega),
    if_pos lead.2, second, third, fourth, Bool.not_true, Bool.false_eq_true, if_false]

/-! ## Whole texts -/

/-- A character is decoded from its bytes before anything that follows is looked at. -/
theorem decodeFrom_encodeChar (c : Char) (position : Nat) (rest : List UInt8) :
    decodeFrom position (encodeChar c ++ rest) =
      (c :: ·) <$> decodeFrom (position + (encodeChar c).length) rest := by
  have valid : c.toNat < 0xD800 ∨ 0xDFFF < c.toNat ∧ c.toNat < 0x110000 := c.valid
  have whole : Char.ofNat c.toNat = c := Char.ofNat_toNat c
  unfold encodeChar
  simp only
  -- The four forms differ in arithmetic on the code only.
  generalize code : c.toNat = n at valid whole ⊢
  by_cases one : n < 0x80
  · rw [if_pos one, List.singleton_append, decodeFrom_one, toNat_toUInt8, whole]
    · rfl
    · omega
    · rwa [toNat_toUInt8 (by omega)]
  · by_cases two : n < 0x800
    · have lead : (0xC0 + n / 64).toUInt8.toNat = 0xC0 + n / 64 := toNat_toUInt8 (by omega)
      have sum : (0xC0 + n / 64 - 0xC0) * 64 + (0x80 + n % 64 - 0x80) = n := by omega
      rw [if_neg one, if_pos two, List.cons_append, List.singleton_append, decodeFrom_two, lead,
        toNat_sixBits, sum, whole]
      · rfl
      · omega
      · refine isSecond_of_isContinuation (isContinuation_sixBits n) ?_ ?_ ?_ ?_
        all_goals omega
    · by_cases three : n < 0x10000
      · have lead : (0xE0 + n / 4096).toUInt8.toNat = 0xE0 + n / 4096 := toNat_toUInt8 (by omega)
        have second := toNat_sixBits (n / 64)
        have sum : (0xE0 + n / 4096 - 0xE0) * 4096 + (0x80 + n / 64 % 64 - 0x80) * 64 +
            (0x80 + n % 64 - 0x80) = n := by omega
        rw [if_neg one, if_neg two, if_pos three, List.cons_append, List.cons_append,
          List.singleton_append, decodeFrom_three, lead, toNat_sixBits, toNat_sixBits, sum, whole]
        · rfl
        · omega
        · refine isSecond_of_isContinuation (isContinuation_sixBits (n / 64)) ?_ ?_ ?_ ?_
          all_goals omega
        · exact isContinuation_sixBits n
      · have lead : (0xF0 + n / 262144).toUInt8.toNat = 0xF0 + n / 262144 :=
          toNat_toUInt8 (by omega)
        have second := toNat_sixBits (n / 4096)
        have sum : (0xF0 + n / 262144 - 0xF0) * 262144 + (0x80 + n / 4096 % 64 - 0x80) * 4096 +
            (0x80 + n / 64 % 64 - 0x80) * 64 + (0x80 + n % 64 - 0x80) = n := by omega
        rw [if_neg one, if_neg two, if_neg three, List.cons_append, List.cons_append,
          List.cons_append, List.singleton_append, decodeFrom_four, lead, toNat_sixBits,
          toNat_sixBits, toNat_sixBits, sum, whole]
        · rfl
        · omega
        · refine isSecond_of_isContinuation (isContinuation_sixBits (n / 4096)) ?_ ?_ ?_ ?_
          all_goals omega
        · exact isContinuation_sixBits (n / 64)
        · exact isContinuation_sixBits n

/-- The bytes of a text are decoded to that text. -/
theorem decodeFrom_encode (text : Text) (position : Nat) :
    decodeFrom position (encode text) = .ok text := by
  induction text generalizing position with
  | nil => rfl
  | cons c text ih =>
      rw [encode, List.flatMap_cons, ← encode, decodeFrom_encodeChar, ih]
      rfl

theorem decode_encode (text : Text) : decode (encode text) = .ok text :=
  decodeFrom_encode text 0

end Text.Utf8

/-! ## Files -/

theorem Text.normalizeNewlines_of_not_mem {text : Text} (absent : '\r' ∉ text) :
    normalizeNewlines text = text := by
  fun_induction normalizeNewlines text with
  | case1 => rfl
  | case2 rest ih => exact absurd (by simp) absent
  | case3 c rest other ih =>
      have distinct : c ≠ '\r' := fun equal => absent (by simp [equal])
      rw [if_neg distinct, ih fun mem => absent (List.mem_cons_of_mem c mem)]

theorem FileTree.readText_of_readBytes {tree : FileTree} {path : Path} {text : Text}
    (bytes : tree.readBytes path = .ok (Text.Utf8.encode text)) :
    tree.readText path = .ok (Text.normalizeNewlines text) := by
  rw [readText, bytes]
  simp only [Text.Utf8.decode_encode]

/-- A path with bytes behind it denotes a file. -/
theorem FileTree.isFile_of_readBytes {tree : FileTree} {path : Path} {bytes : List UInt8}
    (read : tree.readBytes path = .ok bytes) : tree.isFile path = .ok true := by
  rw [readBytes] at read
  rw [isFile, entry?]
  split at read
  case isTrue => cases read
  case isFalse free =>
      rw [if_neg free]
      cases resolved : tree.resolve false path with
      | error reason =>
          rw [resolved] at read
          cases read
      | ok location =>
          rw [resolved] at read
          dsimp only at read ⊢
          split at read
          case h_1 there =>
              rw [there]
              rfl
          all_goals cases read

end DocAudit
