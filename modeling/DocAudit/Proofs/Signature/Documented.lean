import DocAudit.Proofs.Pattern.FirstWay
import DocAudit.Proofs.Text.Cutting
import DocAudit.Signature

/-!
# Documented signatures

What the recognisers find on lines of the two documented shapes, `name: function(parameters)` and
`var name = function(parameters)`. Indents and words are types of their own, so that a line put
together from them is of such a shape by construction.
-/

namespace DocAudit

namespace Text

/-- The code points of blanks. -/
def blankCodes : List Nat :=
  [9, 10, 11, 12, 13, 28, 29, 30, 31, 32, 0x85, 0xA0, 0x1680, 0x2000, 0x2001, 0x2002, 0x2003,
   0x2004, 0x2005, 0x2006, 0x2007, 0x2008, 0x2009, 0x200A, 0x2028, 0x2029, 0x202F, 0x205F, 0x3000]

theorem toNat_mem_blankCodes {c : Char} (blank : isBlank c) : c.toNat ∈ blankCodes := by
  simp only [isBlank, Bool.or_eq_true, Bool.and_eq_true, decide_eq_true_eq, beq_iff_eq] at blank
  simp only [blankCodes, List.mem_cons, List.not_mem_nil, or_false]
  omega

/-- A word character is never blank. -/
theorem isBlank_eq_false_of_isWord {c : Char} (word : isWord c) : isBlank c = false := by
  have none : ∀ code ∈ blankCodes, isWord (Char.ofNat code) = false := by decide +kernel
  cases blank : isBlank c with
  | false => rfl
  | true =>
      have refused := none c.toNat (toNat_mem_blankCodes blank)
      rw [Char.ofNat_toNat, word] at refused
      exact refused

theorem ne_of_isWord {c d : Char} (word : isWord c) (other : isWord d = false) : c ≠ d := by
  rintro rfl
  rw [word] at other
  exact Bool.noConfusion other

end Text

/-- Spaces and tabs in front of a line, possibly none. -/
structure Indent where
  text : Text
  spacesAndTabs : ∀ c ∈ text, c = ' ' ∨ c = '\t'

/-- Spaces and tabs, at least one. -/
structure Margin extends Indent where
  nonempty : text ≠ []

/-- At least one word character. -/
structure Word where
  text : Text
  nonempty : text ≠ []
  wordChars : ∀ c ∈ text, Text.isWord c

theorem Indent.isBlank (indent : Indent) {c : Char} (mem : c ∈ indent.text) : Text.isBlank c := by
  rcases indent.spacesAndTabs c mem with rfl | rfl <;> decide

theorem Indent.allBlank (indent : Indent) : Text.allBlank indent.text :=
  List.all_eq_true.mpr fun _ mem => indent.isBlank mem

/-- A character that is neither a space nor a tab does not occur in an indent. -/
theorem Indent.not_mem (indent : Indent) {c : Char} (other : ¬ (c = ' ' ∨ c = '\t')) :
    c ∉ indent.text :=
  fun mem => other (indent.spacesAndTabs c mem)

theorem Word.isBlank_eq_false (word : Word) {c : Char} (mem : c ∈ word.text) :
    Text.isBlank c = false :=
  Text.isBlank_eq_false_of_isWord (word.wordChars c mem)

/-- A character that is no word character does not occur in a word. -/
theorem Word.not_mem (word : Word) {c : Char} (other : Text.isWord c = false) : c ∉ word.text :=
  fun mem => Text.ne_of_isWord (word.wordChars c mem) other rfl

/-- A test that all word characters pass is passed by the beginning of a word. -/
theorem Word.all_head? (word : Word) {test : Char → Bool} (after : Text)
    (passed : ∀ c, Text.isWord c → test c) : ((word.text ++ after).head?).all test := by
  obtain ⟨c, rest, cons⟩ := List.exists_cons_of_ne_nil word.nonempty
  rw [cons, List.cons_append, List.head?_cons, Option.all_some]
  exact passed c (word.wordChars c (by simp [cons]))

namespace Signature

open Pattern

theorem accepts_blank (c : Char) : blank.accepts c = Text.isBlank c := by
  simp [blank, CharTest.accepts, SetItem.accepts, CharKind.holds]

theorem accepts_wordChar (c : Char) : wordChar.accepts c = Text.isWord c := by
  simp [wordChar, CharTest.accepts, SetItem.accepts, CharKind.holds]

theorem accepts_assignSign (c : Char) :
    (CharTest.set false [.char '=', .char ':']).accepts c = (c == '=' || c == ':') := by
  simp [CharTest.accepts, SetItem.accepts]

theorem isPlain_memberPattern : memberPattern.IsPlain :=
  ⟨by decide, rfl, rfl⟩

theorem isPlain_varPattern : varPattern.IsPlain :=
  ⟨by decide, rfl, rfl⟩

theorem accepts_notNewline {c : Char} {text : Text} (oneLine : '\n' ∉ text) (mem : c ∈ text) :
    CharTest.notNewline.accepts c := by
  have other : c ≠ '\n' := fun equal => oneLine (equal ▸ mem)
  simpa [CharTest.accepts] using other

theorem accepts_char_eq_false {c expected : Char} {text : Text} (absent : expected ∉ text)
    (mem : c ∈ text) : (CharTest.char expected).accepts c = false := by
  have other : c ≠ expected := fun equal => absent (equal ▸ mem)
  simpa [CharTest.accepts] using other

/-- A line whose first visible character is neither an asterisk nor a slash is no comment. -/
theorem isComment_eq_false (indent : Indent) {content : Text}
    (visible : (content.head?).all fun c => !Text.isBlank c && c != '*' && c != '/') :
    isComment (indent.text ++ content) = false := by
  rw [isComment, Text.trimStart_append_of_allBlank indent.allBlank]
  cases content with
  | nil => rfl
  | cons c rest =>
      simp only [List.head?_cons, Option.all_some, Bool.and_eq_true, Bool.not_eq_true',
        bne_iff_ne] at visible
      obtain ⟨⟨visible, noStar⟩, noSlash⟩ := visible
      rw [Text.trimStart_cons_of_not_isBlank visible]
      simp [Text.startsWith, noStar, noSlash]

/-- What a recogniser finds on a line with a way from its beginning on. -/
theorem find?_of_firstWay {pattern : Pattern} (kind : SignatureKind) {nodes : List Node}
    {line name parameters : Text} {way : Way} (plain : pattern.IsPlain)
    (root : pattern.root = .sequence nodes) (code : isComment line = false)
    (first : FirstWay nodes line way) (groups : way.groups = [name, parameters]) :
    find? pattern kind line = some ⟨Text.trim name, parameters, kind⟩ := by
  have searched : (pattern.search? line).map (Match.groups line) =
      some [some name, some parameters] := by
    rw [groups_search? plain, root, Node.firstWay?_of_head? first, Option.map_some, groups]
    rfl
  rw [find?, code, searched]
  rfl

/-- The right-hand side of a documented assignment. -/
def functionText (parameters : Text) : Text :=
  " function(" ++ parameters ++ ") \x7b"

theorem functionText_eq (parameters : Text) : functionText parameters =
    ' ' :: ("function".toList ++ '(' :: (parameters ++ ')' :: " \x7b".toList)) := by
  unfold functionText
  simp

theorem not_mem_functionText {c : Char} {parameters : Text} (absent : c ∉ parameters)
    (other : c ∉ " function() \x7b".toList) : c ∉ functionText parameters := by
  rw [functionText_eq]
  simp only [List.mem_cons, List.mem_append, not_or]
  refine ⟨fun equal => other (by simp [equal]), fun mem => other (by simp_all), ?_⟩
  refine ⟨fun equal => other (by simp [equal]), absent, fun equal => other (by simp [equal]), ?_⟩
  exact fun mem => other (by simp_all)

/-- The parameters reach to the last closing parenthesis. -/
theorem firstWay_functionTail {parameters : Text} (oneLine : '\n' ∉ parameters) :
    FirstWay functionTail (functionText parameters)
      ⟨[parameters ++ ") \x7b".toList, ") \x7b".toList], " \x7b".toList⟩ := by
  have last : FirstWay [.one (.char ')')] (')' :: " \x7b".toList) ⟨[], " \x7b".toList⟩ :=
    firstWay_one (by decide) (firstWay_nil _)
  have captured : FirstWay [.capture 2 anything, .one (.char ')')]
      (parameters ++ ')' :: " \x7b".toList)
      ⟨[parameters ++ ") \x7b".toList, ") \x7b".toList], " \x7b".toList⟩ := by
    refine firstWay_capture_back (fun c mem => accepts_notNewline oneLine mem) (Nat.zero_le _)
      (fun other suffix => ?_) last
    exact Node.ways_eq_nil_of_needs (.char ')') (by decide) fun c mem =>
      accepts_char_eq_false (by decide) (suffix.subset mem)
  rw [functionText_eq]
  refine firstWay_one (by decide) (firstWay_literal (firstWay_skip ?_ ?_))
  · simp [accepts_blank, Text.isBlank]
  · exact firstWay_one (by decide) captured

section

variable (margin : Margin) (name : Word) {parameters : Text}

/-- The margin of a line is one run of blanks. -/
theorem firstWay_margin {nodes : List Node} {content : Text} {way : Way}
    (visible : (content.head?).all fun c => !Text.isBlank c)
    (behind : FirstWay nodes content way) :
    FirstWay (someBlanks :: nodes) (margin.text ++ content) way := by
  refine firstWay_run (fun c mem => ?_) ?_ ?_ behind
  · rw [accepts_blank]
    exact margin.isBlank mem
  · exact List.length_pos_iff.mpr margin.nonempty
  · simpa only [accepts_blank] using visible

/-- A member is found with its name and its parameters. -/
theorem documented?_member (oneLine : '\n' ∉ parameters) :
    documented? (margin.text ++ (name.text ++ ':' :: functionText parameters)) =
      some ⟨name.text, parameters, .member⟩ := by
  have named : FirstWay (.capture 1 (.many .greedy 1 none wordChar) :: .one (.char ':') ::
      functionTail) (name.text ++ ':' :: functionText parameters)
      ⟨[name.text ++ ':' :: functionText parameters, ':' :: functionText parameters,
        parameters ++ ") \x7b".toList, ") \x7b".toList], " \x7b".toList⟩ := by
    refine firstWay_capture_run (fun c mem => ?_) (List.length_pos_iff.mpr name.nonempty) ?_
      (firstWay_one (by decide) (firstWay_functionTail oneLine))
    · rw [accepts_wordChar]
      exact name.wordChars c mem
    · rw [List.head?_cons, Option.all_some, accepts_wordChar]
      decide
  have visible : ((name.text ++ ':' :: functionText parameters).head?).all
      fun c => !Text.isBlank c :=
    name.all_head? _ fun c word => by simp [Text.isBlank_eq_false_of_isWord word]
  have code : isComment (margin.text ++ (name.text ++ ':' :: functionText parameters)) = false := by
    refine isComment_eq_false margin.toIndent (name.all_head? _ fun c word => ?_)
    have noStar : c ≠ '*' := Text.ne_of_isWord word (by decide)
    have noSlash : c ≠ '/' := Text.ne_of_isWord word (by decide)
    simp [Text.isBlank_eq_false_of_isWord word, noStar, noSlash]
  have found := find?_of_firstWay .member isPlain_memberPattern rfl code
    (firstWay_margin margin visible named) (Way.groups_pair name.text parameters)
  rw [documented?, found, Text.trim_eq_self fun c mem => name.isBlank_eq_false mem]
  rfl

/-- A variable is found with its name and its parameters, unless these hold another assignment. -/
theorem documented?_var (oneLine : '\n' ∉ parameters) (noEquals : '=' ∉ parameters)
    (noColon : ':' ∉ parameters) :
    documented? (margin.text ++ ("var ".toList ++ ((name.text ++ " ".toList) ++
      '=' :: functionText parameters))) = some ⟨name.text, parameters, .varAssignment⟩ := by
  have notMember : find? memberPattern .member (margin.text ++ ("var ".toList ++
      ((name.text ++ " ".toList) ++ '=' :: functionText parameters))) = none := by
    have noColonAtAll : ':' ∉ margin.text ++ ("var ".toList ++ ((name.text ++ " ".toList) ++
        '=' :: functionText parameters)) := by
      simp only [List.mem_append, List.mem_cons, not_or]
      exact ⟨margin.not_mem (by decide), by decide, ⟨name.not_mem (by decide), by decide⟩,
        by decide, not_mem_functionText noColon (by decide)⟩
    have nothing := search?_eq_none_of_needs isPlain_memberPattern (.char ':') (by decide)
      fun c mem => accepts_char_eq_false noColonAtAll mem
    rw [find?, nothing, Option.map_none, ite_self]
  have assigned : FirstWay (blanks :: assignSign :: functionTail) ('=' :: functionText parameters)
      ⟨[parameters ++ ") \x7b".toList, ") \x7b".toList], " \x7b".toList⟩ := by
    refine firstWay_skip ?_ (firstWay_one (by decide) (firstWay_functionTail oneLine))
    rw [List.head?_cons, Option.all_some, accepts_blank]
    decide
  have named : FirstWay (.capture 1 something :: blanks :: assignSign :: functionTail)
      ((name.text ++ " ".toList) ++ '=' :: functionText parameters)
      ⟨[(name.text ++ " ".toList) ++ '=' :: functionText parameters,
        '=' :: functionText parameters, parameters ++ ") \x7b".toList, ") \x7b".toList],
        " \x7b".toList⟩ := by
    refine firstWay_capture_back (fun c mem => accepts_notNewline ?_ mem) (by simp)
      (fun other suffix => ?_) assigned
    · rw [List.mem_append, not_or]
      exact ⟨name.not_mem (by decide), by decide⟩
    · refine Node.ways_eq_nil_of_needs (.set false [.char '=', .char ':']) (by decide)
        fun c mem => ?_
      have other : c ≠ '=' ∧ c ≠ ':' := by
        constructor
        · rintro rfl
          exact not_mem_functionText noEquals (by decide) (suffix.subset mem)
        · rintro rfl
          exact not_mem_functionText noColon (by decide) (suffix.subset mem)
      simp [accepts_assignSign, other]
  have code : isComment (margin.text ++ ("var ".toList ++ ((name.text ++ " ".toList) ++
      '=' :: functionText parameters))) = false :=
    isComment_eq_false margin.toIndent (by rfl)
  have found := find?_of_firstWay .varAssignment isPlain_varPattern rfl code
    (firstWay_margin margin (by rfl) (firstWay_literal named))
    (Way.groups_pair (name.text ++ " ".toList) parameters)
  rw [documented?, notMember, found, Text.trim_append_of_allBlank
    (fun c mem => name.isBlank_eq_false mem) name.nonempty (by rfl)]
  rfl

end

end Signature

end DocAudit
