import DocAudit.Proofs.Text.Cutting
import DocAudit.Report.Xml

/-!
# Reading written elements

A reader for documents of elements: it drops the declaration and the layout between elements, and
turns references back into the characters they stand for. Text is layout only in front of another
element; all that stands between the two tags of an element without children is its text, blank or
not.

An element with plain names is read back from its indented form, whatever markup its texts hold.
Only one thing cannot be seen in the form: whether an element without content was meant to hold
text or other elements. The reader is bounded by fuel; more fuel than there are written characters
is enough.
-/

namespace DocAudit.Element

/-! ## The reader -/

/-- Whether a character may stand in a name. -/
def isNameChar (c : Char) : Bool :=
  c.isAlphanum

/-- Whether a character is laid out between elements. -/
def isLayout (c : Char) : Bool :=
  c == '\n' || c == ' '

/-- Text with references replaced by the characters they stand for. -/
def unescaped : Text → Text
  | '&' :: 'a' :: 'm' :: 'p' :: ';' :: rest => '&' :: unescaped rest
  | '&' :: 'l' :: 't' :: ';' :: rest => '<' :: unescaped rest
  | '&' :: 'g' :: 't' :: ';' :: rest => '>' :: unescaped rest
  | c :: rest => c :: unescaped rest
  | [] => []

/-- The attribute at the beginning of a text, and what follows it. -/
def attribute? : Text → Option ((Text × Text) × Text)
  | ' ' :: named =>
    match named.dropWhile isNameChar with
    | '=' :: '"' :: quoted =>
      match quoted.dropWhile (· != '"') with
      | '"' :: rest =>
        some ((named.takeWhile isNameChar, unescaped (quoted.takeWhile (· != '"'))), rest)
      | _ => none
    | _ => none
  | _ => none

/-- All attributes at the beginning of a text, and what follows them. -/
def readAttributes : Nat → Text → Option (List (Text × Text) × Text)
  | 0, _ => none
  | fuel + 1, text =>
    match attribute? text with
    | none => some ([], text)
    | some (first, rest) =>
      (readAttributes fuel rest).map fun (others, rest) => (first :: others, rest)

/-- What follows the rest of an end tag, if it has the given name. -/
def endTag? (name text : Text) : Option Text :=
  if Text.startsWith text (name ++ ['>']) then some (text.drop (name.length + 1)) else none

mutual

/-- The element at the beginning of a text, and what follows it. -/
def readElement : Nat → Text → Option (Element × Text)
  | fuel + 1, '<' :: tag =>
    let name := tag.takeWhile isNameChar
    match readAttributes fuel (tag.dropWhile isNameChar) with
    | some (attributes, ' ' :: '/' :: '>' :: rest) => some (.branch name attributes [], rest)
    | some (attributes, '>' :: inner) =>
      let behind := inner.dropWhile (· != '<')
      -- Text is followed by the end tag, layout by the tag of a child.
      if attributes.isEmpty && Text.startsWith behind ['<', '/'] then
        (endTag? name (behind.drop 2)).map fun rest =>
          (.leaf name (unescaped (inner.takeWhile (· != '<'))), rest)
      else
        (readChildren fuel name inner).map fun (children, rest) =>
          (.branch name attributes children, rest)
    | _ => none
  | _, _ => none

/-- The remaining children of an element with a name, up to its end tag, and what follows it. -/
def readChildren : Nat → Text → Text → Option (List Element × Text)
  | 0, _, _ => none
  | fuel + 1, name, text =>
    let next := text.dropWhile isLayout
    if Text.startsWith next ['<', '/'] then
      (endTag? name (next.drop 2)).map fun rest => ([], rest)
    else
      match readElement fuel next with
      | none => none
      | some (child, rest) =>
        (readChildren fuel name rest).map fun (others, rest) => (child :: others, rest)

end

/-- What follows the end of a declaration. -/
def afterDeclaration : Text → Text
  | '?' :: '>' :: rest => rest
  | _ :: rest => afterDeclaration rest
  | [] => []

/-- The outermost element of a document. Nothing but layout may stand around it. -/
def read (document : Text) : Option Element :=
  match readElement document.length ((afterDeclaration document).dropWhile isLayout) with
  | some (element, rest) => if rest.all isLayout then some element else none
  | none => none

/-! ## Elements that can be read back -/

/-- A name that can be told from what surrounds it. -/
structure IsName (name : Text) : Prop where
  nonempty : name ≠ []
  plain : ∀ c ∈ name, isNameChar c

theorem isName_iff {name : Text} : IsName name ↔ name ≠ [] ∧ name.all isNameChar := by
  rw [List.all_eq_true]
  exact ⟨fun named => ⟨named.nonempty, named.plain⟩, fun parts => ⟨parts.1, parts.2⟩⟩

instance (name : Text) : Decidable (IsName name) :=
  decidable_of_iff _ isName_iff.symm

/-- An attribute that is written as it is. -/
structure IsAttribute (field : Text × Text) : Prop where
  named : IsName field.1
  unquoted : '"' ∉ field.2
  literal : '&' ∉ field.2

/-- Elements that can be read back: names and attributes are plain, texts are arbitrary. -/
inductive Readable : Element → Prop where
  | leaf {name : Text} (named : IsName name) (content : Text) : Readable (.leaf name content)
  | branch {name : Text} {attributes : List (Text × Text)} {children : List Element}
      (named : IsName name) (plain : ∀ field ∈ attributes, IsAttribute field)
      (all : ∀ child ∈ children, Readable child) : Readable (.branch name attributes children)

mutual

/-- An element as it is read: one without text is one without children. -/
def asRead : Element → Element
  | leaf name [] => .branch name [] []
  | leaf name content => .leaf name content
  | branch name attributes children => .branch name attributes (allAsRead children)

/-- Elements as they are read. -/
def allAsRead : List Element → List Element
  | [] => []
  | child :: rest => asRead child :: allAsRead rest

end

theorem asRead_branch (name : Text) (attributes : List (Text × Text)) (children : List Element) :
    asRead (.branch name attributes children) = .branch name attributes (children.map asRead) := by
  have all : allAsRead children = children.map asRead := by
    induction children with
    | nil => simp [allAsRead]
    | cons child rest ih => rw [allAsRead, ih, List.map_cons]
  rw [asRead, all]

/-- The name of an element. -/
def label : Element → Text
  | leaf name _ => name
  | branch name _ _ => name

theorem label_asRead (element : Element) : (asRead element).label = element.label := by
  cases element with
  | leaf name content => cases content <;> simp [asRead, label]
  | branch name attributes children => simp [asRead, label]

section

variable {name content value rest : Text} {attributes : List (Text × Text)} {level fuel : Nat}

/-! ## Texts -/

theorem unescaped_cons {c : Char} (literal : c ≠ '&') (rest : Text) :
    unescaped (c :: rest) = c :: unescaped rest := by
  rw [unescaped.eq_def]
  split <;> simp_all

theorem unescaped_eq_self (literal : '&' ∉ value) : unescaped value = value := by
  induction value with
  | nil => rfl
  | cons c rest ih =>
      rw [List.mem_cons, not_or] at literal
      rw [unescaped_cons (Ne.symm literal.1), ih literal.2]

/-- References are undone exactly, also if the text looks like one. -/
theorem unescaped_escaped (text : Text) : unescaped (escaped text) = text := by
  induction text with
  | nil => rfl
  | cons c rest ih =>
      rw [escaped, List.flatMap_cons, ← escaped]
      by_cases ampersand : c = '&'
      · simp [ampersand, escapedChar, unescaped, ih]
      by_cases less : c = '<'
      · simp [less, escapedChar, unescaped, ih]
      by_cases greater : c = '>'
      · simp [greater, escapedChar, unescaped, ih]
      rw [escapedChar, if_neg ampersand, if_neg less, if_neg greater, List.singleton_append,
        unescaped_cons ampersand, ih]

/-- Escaped text has no tag. -/
theorem not_mem_escaped (text : Text) : '<' ∉ escaped text := by
  rw [escaped, List.mem_flatMap]
  rintro ⟨c, -, mem⟩
  by_cases ampersand : c = '&'
  · simp [ampersand, escapedChar] at mem
  by_cases less : c = '<'
  · simp [less, escapedChar] at mem
  by_cases greater : c = '>'
  · simp [greater, escapedChar] at mem
  rw [escapedChar, if_neg ampersand, if_neg less, if_neg greater, List.mem_singleton] at mem
  exact less mem.symm

/-! ## Tags -/

theorem IsName.append (named : IsName name) (rest : Text)
    (stop : rest.head?.all fun c => !isNameChar c) :
    (name ++ rest).takeWhile isNameChar = name ∧ (name ++ rest).dropWhile isNameChar = rest :=
  Text.takeWhile_append_stop named.plain rest stop

theorem attribute?_append {field : Text × Text} (plain : IsAttribute field) (rest : Text) :
    attribute? (' ' :: (field.1 ++ '=' :: '"' :: (field.2 ++ '"' :: rest))) =
      some (field, rest) := by
  obtain ⟨taken, dropped⟩ := plain.named.append ('=' :: '"' :: (field.2 ++ '"' :: rest)) rfl
  have quoted : ∀ c ∈ field.2, (c != '"') = true := by
    intro c mem
    rw [bne_iff_ne]
    rintro rfl
    exact plain.unquoted mem
  obtain ⟨value, behind⟩ := Text.takeWhile_append_stop quoted ('"' :: rest) rfl
  simp only [attribute?, dropped, taken, value, behind, unescaped_eq_self plain.literal]

theorem attributesText_cons_append (field : Text × Text) (rest : Text) :
    attributesText (field :: attributes) ++ rest =
      ' ' :: (field.1 ++ '=' :: '"' :: (field.2 ++ '"' ::
        (attributesText attributes ++ rest))) := by
  simp [attributesText]

theorem length_attributesText_cons (field : Text × Text) (attributes : List (Text × Text)) :
    (attributesText attributes).length < (attributesText (field :: attributes)).length := by
  rw [← List.append_nil (attributesText (field :: attributes)), attributesText_cons_append]
  simp only [List.length_cons, List.length_append, List.length_nil]
  omega

/-- Attributes are read up to the end of the tag. -/
theorem readAttributes_append (plain : ∀ field ∈ attributes, IsAttribute field) (rest : Text)
    (stop : attribute? rest = none) (enough : (attributesText attributes).length < fuel) :
    readAttributes fuel (attributesText attributes ++ rest) = some (attributes, rest) := by
  induction attributes generalizing fuel with
  | nil =>
      obtain ⟨fuel, rfl⟩ : ∃ less, fuel = less + 1 := ⟨fuel - 1, by omega⟩
      simp [attributesText, readAttributes, stop]
  | cons field attributes ih =>
      obtain ⟨fuel, rfl⟩ : ∃ less, fuel = less + 1 := ⟨fuel - 1, by omega⟩
      have shorter := length_attributesText_cons field attributes
      have others : readAttributes fuel (attributesText attributes ++ rest) =
          some (attributes, rest) :=
        ih (fun other mem => plain other (by simp [mem])) (by omega)
      have first := attribute?_append (plain field (by simp)) (attributesText attributes ++ rest)
      simp only [attributesText_cons_append, readAttributes, first, others, Option.map_some]

/-- The name of a tag is read up to the attributes or the end of the tag. -/
theorem IsName.append_attributes (named : IsName name) (attributes : List (Text × Text))
    (rest : Text) (stop : rest.head?.all fun c => !isNameChar c) :
    (name ++ (attributesText attributes ++ rest)).takeWhile isNameChar = name ∧
      (name ++ (attributesText attributes ++ rest)).dropWhile isNameChar =
        attributesText attributes ++ rest := by
  apply named.append
  cases attributes with
  | nil => exact stop
  | cons field attributes =>
      rw [attributesText_cons_append]
      rfl

theorem endTag?_append (name rest : Text) : endTag? name (name ++ '>' :: rest) = some rest := by
  have whole : name ++ '>' :: rest = (name ++ ['>']) ++ rest := List.append_cons name '>' rest
  have size : name.length + 1 = (name ++ ['>']).length := by simp
  have starts : Text.startsWith ((name ++ ['>']) ++ rest) (name ++ ['>']) = true :=
    Text.startsWith_iff.mpr (List.prefix_append _ _)
  rw [endTag?, whole, if_pos starts, size, List.drop_left]

/-! ## Elements -/

theorem readElement_empty (named : IsName name) (plain : ∀ field ∈ attributes, IsAttribute field)
    (enough : (attributesText attributes).length < fuel) (rest : Text) :
    readElement (fuel + 1)
        ('<' :: (name ++ (attributesText attributes ++ ' ' :: '/' :: '>' :: rest))) =
      some (.branch name attributes [], rest) := by
  obtain ⟨taken, dropped⟩ := named.append_attributes attributes (' ' :: '/' :: '>' :: rest) rfl
  have read := readAttributes_append plain (' ' :: '/' :: '>' :: rest) rfl enough
  simp only [readElement, dropped, taken, read]

/-- The text of an element reaches up to its end tag, since escaped text has no tag. -/
theorem readElement_text (named : IsName name) (content rest : Text) :
    readElement (fuel + 2)
        ('<' :: (name ++ '>' :: (escaped content ++ '<' :: '/' :: (name ++ '>' :: rest)))) =
      some (.leaf name content, rest) := by
  obtain ⟨taken, dropped⟩ := named.append
    ('>' :: (escaped content ++ '<' :: '/' :: (name ++ '>' :: rest))) rfl
  have inside : ∀ c ∈ escaped content, (c != '<') = true := by
    intro c mem
    rw [bne_iff_ne]
    rintro rfl
    exact not_mem_escaped content mem
  obtain ⟨text, behind⟩ := Text.takeWhile_append_stop inside
    ('<' :: '/' :: (name ++ '>' :: rest)) rfl
  have read (inner : Text) : readAttributes (fuel + 1) ('>' :: inner) = some ([], '>' :: inner) :=
    rfl
  simp only [readElement, dropped, taken, read, text, behind, List.isEmpty_nil, Bool.true_and,
    Text.startsWith, BEq.rfl, if_true, List.drop_succ_cons, List.drop_zero, endTag?_append,
    unescaped_escaped, Option.map_some]

theorem isLayout_of_mem_newLine {c : Char} (mem : c ∈ newLine level) : isLayout c := by
  rcases List.mem_cons.mp mem with rfl | mem
  · rfl
  · rw [List.eq_of_mem_replicate mem]
    rfl

/-- Layout is dropped up to the next tag. -/
theorem dropWhile_newLine_append (level : Nat) (tail : Text) :
    (newLine level ++ '<' :: tail).dropWhile isLayout = '<' :: tail ∧
      (newLine level ++ '<' :: tail).dropWhile (· != '<') = '<' :: tail := by
  constructor
  · exact (Text.takeWhile_append_stop (fun c mem => isLayout_of_mem_newLine mem) _ rfl).2
  · refine (Text.takeWhile_append_stop (fun c mem => ?_) _ rfl).2
    rw [bne_iff_ne]
    rintro rfl
    exact absurd (isLayout_of_mem_newLine mem) (by decide)

/-- A text that begins with the tag of an element, and not with an end tag. -/
def BeginsElement (text : Text) : Prop :=
  ∃ c tail, text = '<' :: c :: tail ∧ c ≠ '/'

/-- A text is read as an element, whatever follows. -/
def Reads (text : Text) (element : Element) : Prop :=
  ∀ (fuel : Nat) (rest : Text), text.length < fuel →
    readElement fuel (text ++ rest) = some (element, rest)

theorem BeginsElement.append {text : Text} (begins : BeginsElement text) (rest : Text) :
    BeginsElement (text ++ rest) := by
  obtain ⟨c, tail, rfl, other⟩ := begins
  exact ⟨c, tail ++ rest, rfl, other⟩

theorem BeginsElement.not_startsWith {text : Text} (begins : BeginsElement text) :
    Text.startsWith text ['<', '/'] = false := by
  obtain ⟨c, tail, rfl, other⟩ := begins
  simpa [Text.startsWith] using other

theorem IsName.beginsElement (named : IsName name) (rest : Text) :
    BeginsElement ('<' :: (name ++ rest)) := by
  obtain ⟨c, tail, rfl⟩ := List.exists_cons_of_ne_nil named.nonempty
  refine ⟨c, tail ++ rest, rfl, ?_⟩
  rintro rfl
  exact absurd (named.plain '/' (by simp)) (by decide)

theorem readElement_children (named : IsName name)
    (plain : ∀ field ∈ attributes, IsAttribute field)
    (enough : (attributesText attributes).length < fuel) {inner : Text} {children : List Element}
    (begins : BeginsElement (inner.dropWhile (· != '<')))
    (read : readChildren fuel name inner = some (children, rest)) :
    readElement (fuel + 1) ('<' :: (name ++ (attributesText attributes ++ '>' :: inner))) =
      some (.branch name attributes children, rest) := by
  obtain ⟨taken, dropped⟩ := named.append_attributes attributes ('>' :: inner) rfl
  have readAll := readAttributes_append plain ('>' :: inner) rfl enough
  simp only [readElement, dropped, taken, readAll, begins.not_startsWith, Bool.and_false, read,
    Bool.false_eq_true, if_false, Option.map_some]

theorem readChildren_end (level : Nat) (name rest : Text) :
    readChildren (fuel + 1) name (newLine level ++ '<' :: '/' :: (name ++ '>' :: rest)) =
      some ([], rest) := by
  have next := (dropWhile_newLine_append level ('/' :: (name ++ '>' :: rest))).1
  simp only [readChildren, next, Text.startsWith, BEq.rfl, Bool.and_self, if_true,
    List.drop_succ_cons, List.drop_zero, endTag?_append, Option.map_some]

theorem readChildren_next {text behind : Text} {child : Element} {others : List Element}
    (begins : BeginsElement text) (first : readElement fuel text = some (child, behind))
    (remaining : readChildren fuel name behind = some (others, rest)) (level : Nat) :
    readChildren (fuel + 1) name (newLine level ++ text) = some (child :: others, rest) := by
  obtain ⟨c, tail, rfl, other⟩ := begins
  have next := (dropWhile_newLine_append level (c :: tail)).1
  have starts : Text.startsWith ('<' :: c :: tail) ['<', '/'] = false :=
    BeginsElement.not_startsWith ⟨c, tail, rfl, other⟩
  simp only [readChildren, next, starts, Bool.false_eq_true, if_false, first, remaining,
    Option.map_some]

/-- Children are read up to the end tag. One unit of fuel is spent for each of them, and each
stands on a line of its own. -/
theorem readChildren_render {children : List Element}
    (begins : ∀ child ∈ children, BeginsElement (renderAt level child))
    (reads : ∀ child ∈ children, Reads (renderAt level child) (asRead child))
    (enough : (renderChildren level children).length < fuel) (outer : Nat) (name rest : Text) :
    readChildren fuel name (renderChildren level children ++
      (newLine outer ++ '<' :: '/' :: (name ++ '>' :: rest))) = some (children.map asRead, rest) := by
  induction children generalizing fuel with
  | nil =>
      obtain ⟨fuel, rfl⟩ : ∃ less, fuel = less + 1 := ⟨fuel - 1, by omega⟩
      rw [renderChildren]
      exact readChildren_end outer name rest
  | cons child children ih =>
      obtain ⟨fuel, rfl⟩ : ∃ less, fuel = less + 1 := ⟨fuel - 1, by omega⟩
      rw [renderChildren, List.length_append, List.length_append, newLine, List.length_cons]
        at enough
      have first := reads child (by simp)
      have shorter : (renderChildren level children).length < fuel := by omega
      have others := ih (fun other mem => begins other (by simp [mem]))
        (fun other mem => reads other (by simp [mem])) shorter
      rw [renderChildren, List.append_assoc, List.append_assoc]
      exact readChildren_next ((begins child (by simp)).append _) (first fuel _ (by omega)) others
        level

/-! ## The written form of an element -/

theorem renderAt_leaf_nil (level : Nat) (name rest : Text) :
    renderAt level (.leaf name []) ++ rest =
      '<' :: (name ++ (attributesText [] ++ ' ' :: '/' :: '>' :: rest)) := by
  rw [renderAt.eq_def]
  simp [attributesText]

theorem renderAt_leaf (nonempty : content ≠ []) (level : Nat) (name rest : Text) :
    renderAt level (.leaf name content) ++ rest =
      '<' :: (name ++ '>' :: (escaped content ++ '<' :: '/' :: (name ++ '>' :: rest))) := by
  obtain ⟨c, tail, rfl⟩ := List.exists_cons_of_ne_nil nonempty
  rw [renderAt.eq_def]
  simp

theorem renderAt_branch_nil (level : Nat) (name : Text) (attributes : List (Text × Text))
    (rest : Text) :
    renderAt level (.branch name attributes []) ++ rest =
      '<' :: (name ++ (attributesText attributes ++ ' ' :: '/' :: '>' :: rest)) := by
  rw [renderAt.eq_def]
  simp

theorem renderAt_branch_cons (level : Nat) (name : Text) (attributes : List (Text × Text))
    (child : Element) (others : List Element) (rest : Text) :
    renderAt level (.branch name attributes (child :: others)) ++ rest =
      '<' :: (name ++ (attributesText attributes ++ '>' ::
        (renderChildren (level + 1) (child :: others) ++
          (newLine level ++ '<' :: '/' :: (name ++ '>' :: rest))))) := by
  rw [renderAt.eq_def]
  simp

theorem Readable.beginsElement {element : Element} (readable : element.Readable) (level : Nat) :
    BeginsElement (renderAt level element) := by
  rw [← List.append_nil (renderAt level element)]
  cases readable with
  | @leaf name named content =>
      by_cases empty : content = []
      · rw [empty, renderAt_leaf_nil]
        exact named.beginsElement _
      · rw [renderAt_leaf empty]
        exact named.beginsElement _
  | @branch name attributes children named plain all =>
      cases children with
      | nil =>
          rw [renderAt_branch_nil]
          exact named.beginsElement _
      | cons child others =>
          rw [renderAt_branch_cons]
          exact named.beginsElement _

/-- An element is read back from its written form. -/
theorem Readable.reads {element : Element} (readable : element.Readable) (level : Nat) :
    Reads (renderAt level element) (asRead element) := by
  induction readable generalizing level with
  | @leaf name named content =>
      intro fuel rest enough
      by_cases empty : content = []
      · have size := congrArg List.length (renderAt_leaf_nil level name [])
        subst empty
        simp only [List.append_nil, List.length_cons, List.length_append] at size
        obtain ⟨fuel, rfl⟩ : ∃ less, fuel = less + 1 := ⟨fuel - 1, by omega⟩
        rw [renderAt_leaf_nil, asRead]
        exact readElement_empty named (by simp) (by omega) rest
      · have size := congrArg List.length (renderAt_leaf empty level name [])
        simp only [List.append_nil, List.length_cons, List.length_append] at size
        obtain ⟨fuel, rfl⟩ : ∃ less, fuel = less + 2 := ⟨fuel - 2, by omega⟩
        rw [renderAt_leaf empty, asRead]
        · exact readElement_text named content rest
        · exact empty
  | @branch name attributes children named plain all ih =>
      intro fuel rest enough
      rw [asRead_branch]
      cases children with
      | nil =>
          have size := congrArg List.length (renderAt_branch_nil level name attributes [])
          simp only [List.append_nil, List.length_cons, List.length_append] at size
          obtain ⟨fuel, rfl⟩ : ∃ less, fuel = less + 1 := ⟨fuel - 1, by omega⟩
          rw [renderAt_branch_nil]
          exact readElement_empty named plain (by omega) rest
      | cons child others =>
          have size := congrArg List.length
            (renderAt_branch_cons level name attributes child others [])
          simp only [List.append_nil, List.length_cons, List.length_append] at size
          obtain ⟨fuel, rfl⟩ : ∃ less, fuel = less + 1 := ⟨fuel - 1, by omega⟩
          have begins : ∀ other ∈ child :: others, BeginsElement (renderAt (level + 1) other) :=
            fun other mem => (all other mem).beginsElement (level + 1)
          have shorter : (renderChildren (level + 1) (child :: others)).length < fuel := by omega
          have read := readChildren_render begins (fun other mem => ih other mem (level + 1))
            shorter level name rest
          rw [renderAt_branch_cons]
          refine readElement_children named plain (by omega) ?_ read
          obtain ⟨c, tail, first, other⟩ := begins child (by simp)
          rw [renderChildren, first, List.append_assoc, List.append_assoc, List.cons_append,
            (dropWhile_newLine_append (level + 1) _).2]
          exact ⟨c, _, rfl, other⟩

theorem read_eq_some {document next : Text} {element : Element}
    (ahead : (afterDeclaration document).dropWhile isLayout = next)
    (whole : readElement document.length next = some (element, [])) :
    read document = some element := by
  simp only [read, ahead, whole, List.all_nil, if_true]

/-- A document is read back from its written form. -/
theorem Readable.read_render {element : Element} (readable : element.Readable) :
    read (render element) = some (asRead element) := by
  have body : afterDeclaration (render element) = '\n' :: renderAt 0 element := rfl
  have size : (renderAt 0 element).length < (render element).length := by
    rw [render, List.length_append]
    exact Nat.lt_add_of_pos_left (by decide)
  have whole := readable.reads 0 _ [] size
  rw [List.append_nil] at whole
  refine read_eq_some ?_ whole
  obtain ⟨c, tail, first, -⟩ := readable.beginsElement 0
  rw [body, first]
  rfl

end

end DocAudit.Element
