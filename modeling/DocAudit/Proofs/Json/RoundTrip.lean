import DocAudit.Proofs.Json.Numbers

/-!
# Reading written values

A value without floating-point numbers, with integers that are not too long and with the names of
every object in ascending order, is read back from its indented form, whatever follows it. The
reader is bounded by fuel; more fuel than there are written characters is enough.
-/

namespace DocAudit.Json

variable {text rest : Text} {level fuel : Nat}

/-! ## Spaces -/

theorem skipSpaces_newLine (level : Nat) (text : Text) :
    skipSpaces (newLine level ++ text) = skipSpaces text := by
  refine List.dropWhile_append_of_pos ?_
  intro c mem
  rcases List.mem_cons.mp mem with rfl | mem
  · decide
  · rw [List.eq_of_mem_replicate mem]
    decide

/-- Whether a text begins like a written value: with a printable character other than a space and
a closing bracket or brace. -/
def beginsValue (text : Text) : Bool :=
  text.head?.any fun c => isWritten c && !isSpace c && c != ']' && c != '\x7d'

theorem beginsValue_append (begins : beginsValue text) (rest : Text) :
    beginsValue (text ++ rest) := by
  cases text with
  | nil => exact absurd begins (by decide)
  | cons c text => exact begins

theorem skipSpaces_of_beginsValue (begins : beginsValue text) : skipSpaces text = text := by
  cases text with
  | nil => rfl
  | cons c text =>
      refine List.dropWhile_cons_of_neg ?_
      simp only [beginsValue, List.head?_cons, Option.any_some, Bool.and_eq_true] at begins
      simpa using begins.1.1.2

/-! ## Values that can be read back -/

/-- Whether names stand in ascending order, each of them once. -/
def Ascending (names : List Text) : Prop :=
  names.Pairwise fun earlier later => Text.le earlier later ∧ earlier ≠ later

instance (names : List Text) : Decidable (Ascending names) :=
  inferInstanceAs (Decidable (names.Pairwise _))

/-- The values that writing keeps apart: there are no floating-point numbers in them, integers are
not too long, and the names of an object are in ascending order. -/
inductive Readable : Json → Prop where
  | null : Readable .null
  | bool (value : Bool) : Readable (.bool value)
  | int {n : Int} (short : IsShort n) : Readable (.int n)
  | str (text : Text) : Readable (.str text)
  | arr {items : List Json} (all : ∀ item ∈ items, Readable item) : Readable (.arr items)
  | obj {fields : List (Text × Json)} (ascending : Ascending (fields.map Prod.fst))
      (all : ∀ field ∈ fields, Readable field.2) : Readable (.obj fields)

theorem renderItems_eq_map (level : Nat) (items : List Json) :
    renderItems level items = items.map (renderAt level) := by
  induction items with
  | nil => simp [renderItems]
  | cons item items ih => rw [renderItems, ih, List.map_cons]

theorem renderFields_eq_map (level : Nat) (fields : List (Text × Json)) :
    renderFields level fields = fields.map fun field => (field.1, renderAt level field.2) := by
  induction fields with
  | nil => simp [renderFields]
  | cons field fields ih => rw [renderFields, ih, List.map_cons]

/-- Fields that are in order already stay as they are. -/
theorem sortFields_of_ascending {fields : List (Text × Json)}
    (ascending : Ascending (fields.map Prod.fst)) :
    sortFields (renderFields level fields) = renderFields level fields := by
  rw [renderFields_eq_map, sortFields]
  refine List.mergeSort_of_pairwise ?_
  rw [List.pairwise_map]
  exact (List.pairwise_map.mp ascending).imp And.left

/-- What is written for a field. -/
def fieldText (level : Nat) (field : Text × Json) : Text :=
  escaped field.1 ++ ": " ++ renderAt level field.2

theorem renderAt_arr (level : Nat) (items : List Json) :
    renderAt level (.arr items) = block '[' ']' level (items.map (renderAt (level + 1))) := by
  rw [renderAt, renderItems_eq_map]

theorem renderAt_obj {fields : List (Text × Json)} (ascending : Ascending (fields.map Prod.fst)) :
    renderAt level (.obj fields) =
      block '\x7b' '\x7d' level (fields.map (fieldText (level + 1))) := by
  rw [renderAt, sortFields_of_ascending ascending, renderFields_eq_map, List.map_map]
  rfl

/-! ## Steps of the reader -/

/-- A text is read as a value, whatever follows that does not go on with a number. -/
def Reads (text : Text) (json : Json) : Prop :=
  ∀ (fuel : Nat) (rest : Text), text.length < fuel → endsNumber rest →
    value fuel (text ++ rest) = .ok (json, rest)

theorem elements_close {item : Json} {after : Text}
    (first : value fuel text = .ok (item, after)) (close : skipSpaces after = ']' :: rest) :
    elements (fuel + 1) text = .ok ([item], rest) := by
  rw [elements, first]
  simp only [bind, Except.bind, close]
  rfl

theorem elements_comma {item : Json} {items : List Json} {after next : Text}
    (first : value fuel text = .ok (item, after)) (comma : skipSpaces after = ',' :: next)
    (others : elements fuel (skipSpaces next) = .ok (items, rest)) :
    elements (fuel + 1) text = .ok (item :: items, rest) := by
  rw [elements, first]
  simp only [bind, Except.bind, comma, others]
  rfl

/-- A name, its mark and its value are read before the reader looks for what follows. -/
theorem members_field (name : Text) {content : Json} {fields : List (Text × Json)}
    {next after : Text} (first : value fuel (skipSpaces next) = .ok (content, after)) :
    members (fuel + 1) fields (escaped name ++ ':' :: next) =
      match skipSpaces after with
      | '\x7d' :: rest => .ok (setField name content fields, rest)
      | ',' :: rest => members fuel (setField name content fields) (skipSpaces rest)
      | rest => .error (.expectingComma, rest) := by
  have named := string_escaped name (':' :: next)
  have colon : skipSpaces (':' :: next) = ':' :: next := rfl
  rw [escaped_append] at named ⊢
  rw [members]
  simp only [bind, Except.bind, named, colon, first]
  rfl

theorem members_close (name : Text) {content : Json} {fields : List (Text × Json)}
    {next after : Text} (first : value fuel (skipSpaces next) = .ok (content, after))
    (close : skipSpaces after = '\x7d' :: rest) :
    members (fuel + 1) fields (escaped name ++ ':' :: next) =
      .ok (setField name content fields, rest) := by
  rw [members_field name first, close]
  rfl

theorem members_comma (name : Text) {content : Json} {fields : List (Text × Json)}
    {next after more : Text} (first : value fuel (skipSpaces next) = .ok (content, after))
    (comma : skipSpaces after = ',' :: more) :
    members (fuel + 1) fields (escaped name ++ ':' :: next) =
      members fuel (setField name content fields) (skipSpaces more) := by
  rw [members_field name first, comma]
  rfl

theorem setField_of_new {name : Text} (content : Json) {fields : List (Text × Json)}
    (new : ∀ field ∈ fields, field.1 ≠ name) :
    setField name content fields = fields ++ [(name, content)] := by
  induction fields with
  | nil => rfl
  | cons field fields ih =>
      obtain ⟨other, old⟩ := field
      have distinct : other ≠ name := new (other, old) (by simp)
      rw [setField, if_neg distinct, ih fun field mem => new field (by simp [mem])]
      rfl

theorem value_str (text : Text) (fuel : Nat) (rest : Text) :
    value (fuel + 1) (escaped text ++ rest) = .ok (.str text, rest) := by
  have whole := string_escaped text rest
  rw [escaped_append] at whole ⊢
  rw [value, whole]
  rfl

/-- Whether a character begins a string, an object or a list. -/
def isOpening (c : Char) : Bool :=
  c == '"' || c == '\x7b' || c == '['

theorem value_of_not_isOpening {c : Char} (plain : isOpening c = false) (fuel : Nat)
    (tail : Text) :
    value (fuel + 1) (c :: tail) =
      match word? (c :: tail) with
      | some found => .ok found
      | none => number (c :: tail) := by
  simp only [isOpening, Bool.or_eq_false_iff, beq_eq_false_iff_ne] at plain
  obtain ⟨⟨noQuote, noBrace⟩, noBracket⟩ := plain
  rw [value.eq_def]
  simp only
  split
  · next equal => exact absurd (List.cons.inj equal).1 noQuote
  · next equal => exact absurd (List.cons.inj equal).1 noBrace
  · next equal => exact absurd (List.cons.inj equal).1 noBracket
  · rfl

theorem value_int {n : Int} (short : IsShort n) (ends : endsNumber rest) :
    value (fuel + 1) (Text.ofInt n ++ rest) = .ok (.int n, rest) := by
  have read := number_ofInt short ends
  have noWord := word?_ofInt n rest
  obtain ⟨c, tail, cons, first⟩ := exists_ofInt_append n rest
  have plain : isOpening c = false := by
    rcases first with digit | rfl
    · exact Text.isAsciiDigit_induction (motive := fun c => isOpening c = false) digit (by decide)
    · decide
  rw [cons] at read noWord ⊢
  rw [value_of_not_isOpening plain, noWord, read]

theorem value_arr {items : List Json} (begins : beginsValue text)
    (all : elements fuel text = .ok (items, rest)) (level : Nat) :
    value (fuel + 1) ('[' :: (newLine level ++ text)) = .ok (.arr items, rest) := by
  rw [value, skipSpaces_newLine, skipSpaces_of_beginsValue begins]
  split
  · exact absurd begins (by simp [beginsValue])
  · rw [all]
    rfl

theorem value_obj {fields : List (Text × Json)} (begins : beginsValue text)
    (all : members fuel [] text = .ok (fields, rest)) (level : Nat) :
    value (fuel + 1) ('\x7b' :: (newLine level ++ text)) = .ok (.obj fields, rest) := by
  rw [value, skipSpaces_newLine, skipSpaces_of_beginsValue begins]
  split
  · exact absurd begins (by simp [beginsValue])
  · rw [all]
    rfl

theorem value_of_word? {c : Char} {tail : Text} {found : Json × Text} (plain : isOpening c = false)
    (word : word? (c :: tail) = some found) (fuel : Nat) :
    value (fuel + 1) (c :: tail) = .ok found := by
  rw [value_of_not_isOpening plain, word]

theorem value_null (fuel : Nat) (rest : Text) :
    value (fuel + 1) ("null".toList ++ rest) = .ok (.null, rest) := by
  have word : word? ("null".toList ++ rest) = some (.null, rest) := by
    simp [word?, words, Text.startsWith]
  exact value_of_word? (by decide : isOpening 'n' = false) word fuel

theorem value_bool (b : Bool) (fuel : Nat) (rest : Text) :
    value (fuel + 1) ((if b then "true".toList else "false".toList) ++ rest) =
      .ok (.bool b, rest) := by
  cases b with
  | false =>
      have word : word? ("false".toList ++ rest) = some (.bool false, rest) := by
        simp [word?, words, Text.startsWith]
      exact value_of_word? (by decide : isOpening 'f' = false) word fuel
  | true =>
      have word : word? ("true".toList ++ rest) = some (.bool true, rest) := by
        simp [word?, words, Text.startsWith]
      exact value_of_word? (by decide : isOpening 't' = false) word fuel

/-! ## Lists and objects -/

/-- Written items, one to a line. -/
def joinLines (level : Nat) (texts : List Text) : Text :=
  Text.joinWith (',' :: newLine level) texts

theorem joinLines_singleton (level : Nat) (text : Text) : joinLines level [text] = text := rfl

theorem joinLines_cons_cons (level : Nat) (text next : Text) (texts : List Text) :
    joinLines level (text :: next :: texts) =
      text ++ ',' :: (newLine level ++ joinLines level (next :: texts)) := by
  rw [joinLines, Text.joinWith, List.append_assoc]
  · rfl
  · simp

theorem block_of_ne_nil {opening closing : Char} {texts : List Text} (nonempty : texts ≠ []) :
    block opening closing level texts =
      opening :: (newLine (level + 1) ++ (joinLines (level + 1) texts ++
        (newLine level ++ [closing]))) := by
  rw [block]
  · simp [joinLines]
  · exact nonempty

theorem beginsValue_joinLines {texts : List Text} (nonempty : texts ≠ [])
    (begins : ∀ text ∈ texts, beginsValue text) : beginsValue (joinLines level texts) := by
  match texts, nonempty with
  | [text], _ => exact begins text (by simp)
  | text :: next :: texts, _ =>
      rw [joinLines_cons_cons]
      exact beginsValue_append (begins text (by simp)) _

/-- The items of a list are read up to the closing bracket. One unit of fuel is spent for each item,
and every item has at least one character. -/
theorem elements_joinLines {items : List Json} (nonempty : items ≠ [])
    (begins : ∀ item ∈ items, beginsValue (renderAt level item))
    (reads : ∀ item ∈ items, Reads (renderAt level item) item)
    (enough : (joinLines level (items.map (renderAt level))).length + 1 < fuel)
    (outer : Nat) (rest : Text) :
    elements fuel (joinLines level (items.map (renderAt level)) ++
      (newLine outer ++ ']' :: rest)) = .ok (items, rest) := by
  induction items generalizing fuel with
  | nil => exact absurd rfl nonempty
  | cons item items ih =>
      obtain ⟨fuel, rfl⟩ : ∃ less, fuel = less + 1 := ⟨fuel - 1, by omega⟩
      have first := reads item (by simp)
      cases items with
      | nil =>
          rw [List.map_singleton, joinLines_singleton] at enough ⊢
          refine elements_close (first fuel _ (by omega) rfl) ?_
          rw [skipSpaces_newLine]
          rfl
      | cons next items =>
          have begins' : ∀ other ∈ next :: items, beginsValue (renderAt level other) :=
            fun other mem => begins other (List.mem_cons_of_mem item mem)
          have reads' : ∀ other ∈ next :: items, Reads (renderAt level other) other :=
            fun other mem => reads other (List.mem_cons_of_mem item mem)
          rw [List.map_cons, List.map_cons, joinLines_cons_cons, ← List.map_cons] at enough ⊢
          rw [List.length_append, List.length_cons, List.length_append] at enough
          rw [List.append_assoc, List.cons_append, List.append_assoc]
          refine elements_comma (first fuel _ (by omega) rfl) rfl ?_
          rw [skipSpaces_newLine, skipSpaces_of_beginsValue]
          · exact ih (by simp) begins' reads' (by omega)
          · refine beginsValue_append (beginsValue_joinLines (by simp) ?_) _
            exact List.forall_mem_map.mpr begins'

theorem fieldText_append (level : Nat) (field : Text × Json) (rest : Text) :
    fieldText level field ++ rest =
      escaped field.1 ++ ':' :: ' ' :: (renderAt level field.2 ++ rest) := by
  unfold fieldText
  simp

theorem beginsValue_fieldText (level : Nat) (field : Text × Json) :
    beginsValue (fieldText level field) := by
  rw [← List.append_nil (fieldText level field), fieldText_append, escaped_append]
  rfl

/-- The value of a field is read behind the space that follows the colon. -/
theorem value_fieldText {field : Text × Json} (begins : beginsValue (renderAt level field.2))
    (reads : Reads (renderAt level field.2) field.2)
    (enough : (fieldText level field).length < fuel) (ends : endsNumber rest) :
    value fuel (skipSpaces (' ' :: (renderAt level field.2 ++ rest))) = .ok (field.2, rest) := by
  have skipped : skipSpaces (' ' :: (renderAt level field.2 ++ rest)) =
      renderAt level field.2 ++ rest := by
    rw [skipSpaces, List.dropWhile_cons_of_pos (by decide)]
    exact skipSpaces_of_beginsValue (beginsValue_append begins rest)
  have fits : (renderAt level field.2).length ≤ (fieldText level field).length := by
    unfold fieldText
    simp
    omega
  rw [skipped]
  exact reads fuel rest (by omega) ends

/-- The fields of an object are read up to the closing brace and go behind those already read. -/
theorem members_joinLines {done fields : List (Text × Json)} (nonempty : fields ≠ [])
    (distinct : (done ++ fields).Pairwise fun earlier later => earlier.1 ≠ later.1)
    (begins : ∀ field ∈ fields, beginsValue (renderAt level field.2))
    (reads : ∀ field ∈ fields, Reads (renderAt level field.2) field.2)
    (enough : (joinLines level (fields.map (fieldText level))).length + 1 < fuel)
    (outer : Nat) (rest : Text) :
    members fuel done (joinLines level (fields.map (fieldText level)) ++
      (newLine outer ++ '\x7d' :: rest)) = .ok (done ++ fields, rest) := by
  induction fields generalizing fuel done with
  | nil => exact absurd rfl nonempty
  | cons field fields ih =>
      obtain ⟨fuel, rfl⟩ : ∃ less, fuel = less + 1 := ⟨fuel - 1, by omega⟩
      have begun := begins field (by simp)
      have first := reads field (by simp)
      have new : ∀ old ∈ done, old.1 ≠ field.1 := fun old mem =>
        (List.pairwise_append.mp distinct).2.2 old mem field (by simp)
      have added : setField field.1 field.2 done = done ++ [field] := setField_of_new field.2 new
      cases fields with
      | nil =>
          rw [List.map_singleton, joinLines_singleton] at enough ⊢
          rw [fieldText_append, ← added]
          refine members_close field.1 (value_fieldText begun first (by omega) rfl) ?_
          rw [skipSpaces_newLine]
          rfl
      | cons next fields =>
          have begins' : ∀ other ∈ next :: fields, beginsValue (renderAt level other.2) :=
            fun other mem => begins other (List.mem_cons_of_mem field mem)
          have reads' : ∀ other ∈ next :: fields, Reads (renderAt level other.2) other.2 :=
            fun other mem => reads other (List.mem_cons_of_mem field mem)
          rw [List.map_cons, List.map_cons, joinLines_cons_cons, ← List.map_cons] at enough ⊢
          rw [List.length_append, List.length_cons, List.length_append] at enough
          rw [List.append_assoc, List.cons_append, List.append_assoc, fieldText_append,
            members_comma field.1 (value_fieldText begun first (by omega) rfl) rfl, added,
            skipSpaces_newLine, skipSpaces_of_beginsValue]
          -- The field goes to the end of those already read before the others follow.
          · have moved : done ++ field :: next :: fields = done ++ [field] ++ next :: fields :=
              List.append_cons done field (next :: fields)
            rw [moved] at distinct ⊢
            exact ih (by simp) distinct begins' reads' (by omega)
          · refine beginsValue_append (beginsValue_joinLines (by simp) ?_) _
            exact List.forall_mem_map.mpr fun other _ => beginsValue_fieldText level other

/-! ## Whole values -/

theorem beginsValue_block {opening closing : Char} {texts : List Text}
    (begins : beginsValue [opening]) : beginsValue (block opening closing level texts) := by
  cases texts with
  | nil => exact begins
  | cons text texts => exact begins

theorem beginsValue_ofInt (n : Int) : beginsValue (Text.ofInt n) := by
  obtain ⟨c, tail, cons, first⟩ := exists_ofInt_append n []
  have begins : beginsValue [c] := by
    rcases first with digit | rfl
    · exact Text.isAsciiDigit_induction (motive := fun c => beginsValue [c]) digit (by decide)
    · decide
  rw [← List.append_nil (Text.ofInt n), cons]
  exact beginsValue_append begins tail

theorem beginsValue_renderAt {json : Json} (readable : Readable json) (level : Nat) :
    beginsValue (renderAt level json) := by
  cases readable with
  | null =>
      rw [renderAt]
      decide
  | bool value =>
      rw [renderAt]
      cases value <;> decide
  | int short =>
      rw [renderAt]
      exact beginsValue_ofInt _
  | str text =>
      rw [renderAt, ← List.append_nil (escaped text), escaped_append]
      rfl
  | arr all =>
      rw [renderAt]
      exact beginsValue_block (by decide)
  | obj ascending all =>
      rw [renderAt]
      exact beginsValue_block (by decide)

theorem reads_of_succ {json : Json} (step : ∀ (fuel : Nat) (rest : Text), endsNumber rest →
    value (fuel + 1) (text ++ rest) = .ok (json, rest)) : Reads text json := by
  intro fuel rest enough ends
  cases fuel with
  | zero => exact absurd enough (Nat.not_lt_zero _)
  | succ fuel => exact step fuel rest ends

theorem reads_arr {items : List Json}
    (begins : ∀ item ∈ items, beginsValue (renderAt (level + 1) item))
    (reads : ∀ item ∈ items, Reads (renderAt (level + 1) item) item) :
    Reads (renderAt level (.arr items)) (.arr items) := by
  intro fuel rest enough ends
  obtain ⟨fuel, rfl⟩ : ∃ less, fuel = less + 1 := ⟨fuel - 1, by omega⟩
  rw [renderAt_arr] at enough ⊢
  by_cases empty : items = []
  · subst empty
    rw [List.map_nil, block, List.cons_append, List.cons_append, value]
    rfl
  · have nonempty : items.map (renderAt (level + 1)) ≠ [] := by simpa using empty
    rw [block_of_ne_nil nonempty] at enough ⊢
    simp only [List.cons_append, List.append_assoc, List.nil_append, List.length_cons,
      List.length_append, List.length_nil] at enough ⊢
    refine value_arr (beginsValue_append ?_ _) ?_ (level + 1)
    · exact beginsValue_joinLines nonempty (List.forall_mem_map.mpr begins)
    · exact elements_joinLines empty begins reads (by omega) level rest

theorem reads_obj {fields : List (Text × Json)} (ascending : Ascending (fields.map Prod.fst))
    (begins : ∀ field ∈ fields, beginsValue (renderAt (level + 1) field.2))
    (reads : ∀ field ∈ fields, Reads (renderAt (level + 1) field.2) field.2) :
    Reads (renderAt level (.obj fields)) (.obj fields) := by
  intro fuel rest enough ends
  obtain ⟨fuel, rfl⟩ : ∃ less, fuel = less + 1 := ⟨fuel - 1, by omega⟩
  rw [renderAt_obj ascending] at enough ⊢
  by_cases empty : fields = []
  · subst empty
    rw [List.map_nil, block, List.cons_append, List.cons_append, value]
    rfl
  · have nonempty : fields.map (fieldText (level + 1)) ≠ [] := by simpa using empty
    have distinct : fields.Pairwise fun earlier later => earlier.1 ≠ later.1 :=
      (List.pairwise_map.mp ascending).imp And.right
    rw [← List.nil_append fields] at distinct
    rw [block_of_ne_nil nonempty] at enough ⊢
    simp only [List.cons_append, List.append_assoc, List.nil_append, List.length_cons,
      List.length_append, List.length_nil] at enough ⊢
    refine value_obj (beginsValue_append ?_ _) ?_ (level + 1)
    · refine beginsValue_joinLines nonempty (List.forall_mem_map.mpr ?_)
      exact fun field _ => beginsValue_fieldText (level + 1) field
    · exact members_joinLines empty distinct begins reads (by omega) level rest

/-- A value is read back from its indented form. -/
theorem reads_renderAt {json : Json} (readable : Readable json) (level : Nat) :
    Reads (renderAt level json) json := by
  induction readable generalizing level with
  | null =>
      rw [renderAt]
      exact reads_of_succ fun fuel rest _ => value_null fuel rest
  | bool value =>
      rw [renderAt]
      exact reads_of_succ fun fuel rest _ => value_bool value fuel rest
  | int short =>
      rw [renderAt]
      exact reads_of_succ fun fuel rest ends => value_int short ends
  | str text =>
      rw [renderAt]
      exact reads_of_succ fun fuel rest _ => value_str text fuel rest
  | arr all ih =>
      refine reads_arr (fun item mem => ?_) fun item mem => ih item mem (level + 1)
      exact beginsValue_renderAt (all item mem) (level + 1)
  | obj ascending all ih =>
      refine reads_obj ascending (fun field mem => ?_) fun field mem => ih field mem (level + 1)
      exact beginsValue_renderAt (all field mem) (level + 1)

/-- A value is read back from the text that holds its indented form and nothing else. -/
theorem read_render {json : Json} (readable : Readable json) : read (render json) = .ok json := by
  have begins := beginsValue_renderAt readable 0
  have whole := reads_renderAt readable 0 ((renderAt 0 json).length + 1) []
    (Nat.lt_succ_self _) rfl
  rw [List.append_nil] at whole
  -- A byte order mark is refused before anything is read.
  have noMark : (renderAt 0 json).head? ≠ some '\ufeff' := by
    intro mark
    rw [beginsValue, mark] at begins
    exact absurd begins (by decide)
  simp only [read, render, if_neg noMark, skipSpaces_of_beginsValue begins, whole]
  rfl

/-! ## The characters of a written value -/

theorem isWritten_of_mem_newLine {c : Char} (mem : c ∈ newLine level) : isWritten c := by
  rcases List.mem_cons.mp mem with rfl | mem
  · decide
  · rw [List.eq_of_mem_replicate mem]
    decide

theorem isWritten_of_mem_block {opening closing : Char} {texts : List Text}
    (brackets : isWritten opening ∧ isWritten closing)
    (all : ∀ text ∈ texts, ∀ c ∈ text, isWritten c) :
    ∀ c ∈ block opening closing level texts, isWritten c := by
  intro c mem
  by_cases empty : texts = []
  · subst empty
    simp only [block, List.mem_cons, List.not_mem_nil, or_false] at mem
    rcases mem with rfl | rfl
    · exact brackets.1
    · exact brackets.2
  · rw [block_of_ne_nil empty] at mem
    simp only [List.mem_cons, List.mem_append, List.not_mem_nil, or_false] at mem
    rcases mem with rfl | mem | mem | mem | rfl
    · exact brackets.1
    · exact isWritten_of_mem_newLine mem
    · rcases Text.mem_of_mem_joinWith mem with mem | ⟨text, memText, mem⟩
      · rcases List.mem_cons.mp mem with rfl | mem
        · decide
        · exact isWritten_of_mem_newLine mem
      · exact all text memText c mem
    · exact isWritten_of_mem_newLine mem
    · exact brackets.2

theorem isWritten_of_mem_ofInt {n : Int} {c : Char} (mem : c ∈ Text.ofInt n) : isWritten c := by
  cases n with
  | ofNat n => exact isWritten_of_mem_toDigits (by decide) (by decide) mem
  | negSucc n =>
      rcases List.mem_cons.mp mem with rfl | mem
      · decide
      · exact isWritten_of_mem_toDigits (by decide) (by decide) mem

/-- Only line feeds and printable ASCII characters are written for a value. -/
theorem isWritten_of_mem_renderAt {json : Json} (readable : Readable json) (level : Nat) :
    ∀ c ∈ renderAt level json, isWritten c := by
  induction readable generalizing level with
  | null =>
      rw [renderAt]
      exact List.all_eq_true.mp (by decide)
  | bool value =>
      rw [renderAt]
      cases value <;> exact List.all_eq_true.mp (by decide)
  | int short =>
      rw [renderAt]
      exact fun c mem => isWritten_of_mem_ofInt mem
  | str text =>
      rw [renderAt]
      exact fun c mem => isWritten_of_mem_escaped mem
  | arr all ih =>
      rw [renderAt_arr]
      refine isWritten_of_mem_block (by decide) (List.forall_mem_map.mpr ?_)
      exact fun item mem => ih item mem (level + 1)
  | obj ascending all ih =>
      rw [renderAt_obj ascending]
      refine isWritten_of_mem_block (by decide) (List.forall_mem_map.mpr ?_)
      intro field mem c memText
      rw [← List.append_nil (fieldText (level + 1) field), fieldText_append, List.append_nil]
        at memText
      simp only [List.mem_append, List.mem_cons] at memText
      rcases memText with memName | rfl | rfl | memValue
      · exact isWritten_of_mem_escaped memName
      · decide
      · decide
      · exact ih field mem (level + 1) c memValue

end DocAudit.Json
