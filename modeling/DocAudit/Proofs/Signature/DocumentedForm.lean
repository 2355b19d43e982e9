import DocAudit.Proofs.Pattern.Searches
import DocAudit.Proofs.Signature.Assignments

/-!
# Documented signatures in closed form

What a line documents is told by positions alone, as what it declares is. A member is a word directly
behind a blank with a colon directly behind it, and the first member of the line counts. A variable
follows the first `var` directly behind a blank, and its name reaches to the last assignment of the
line. Neither a word nor `var` begins with a blank, so that the search for either of them finds the
first position at which the nodes behind the blanks match.
-/

namespace DocAudit.Signature

open Pattern Text

/-- A function is assigned to a member: a word directly behind a blank, with a colon for the sign. -/
structure MemberAt (text : Text) (start sign opening : Nat) : Prop where
  assigns : AssignsAt text sign opening
  colon : text[sign]? = some ':'
  behind : IsBehind isBlank text start
  filled : start < sign
  word : ∀ c ∈ slice text start sign, isWord c

/-- The first member of a line. -/
structure FirstMember (text : Text) (start sign opening : Nat) : Prop extends
    MemberAt text start sign opening where
  first : ∀ other later another, MemberAt text other later another → sign ≤ later

/-- The word `var` and a space, directly behind a blank. -/
structure VarAt (text : Text) (start : Nat) : Prop where
  behind : IsBehind isBlank text start
  keyword : "var ".toList <+: text.drop start

/-- The first `var` of a line. -/
structure FirstVar (text : Text) (start : Nat) : Prop extends VarAt text start where
  first : ∀ other, VarAt text other → start ≤ other

/-- What the positions of a line say about its documented signature. -/
inductive Documents (text : Text) : Signature → Prop
  | member {start sign opening closing : Nat} (first : FirstMember text start sign opening)
      (last : IsLast text ')' closing) :
      Documents text ⟨slice text start sign, slice text (opening + 1) closing, .member⟩
  | var {start sign opening closing : Nat}
      (none : ∀ other later another, ¬ MemberAt text other later another)
      (first : FirstVar text start) (last : LastAssignment text (start + 5) sign opening closing) :
      Documents text ⟨trim (slice text (start + 4) sign), slice text (opening + 1) closing,
        .varAssignment⟩

variable {text : Text} {start sign opening closing : Nat}

theorem isBehind_blank_iff : IsBehind blank.accepts text start ↔ IsBehind isBlank text start := by
  rw [show blank.accepts = isBlank from funext accepts_blank]

/-! ## Recognisers that begin behind blanks -/

section

variable {pattern : Pattern} {kind : SignatureKind} {nodes : List Node} (plain : pattern.IsPlain)
  (root : pattern.root = .sequence (someBlanks :: nodes))
  (refused : ∀ c rest, isBlank c → (Node.sequence nodes).ways (c :: rest) = [])

include plain root refused

/-- A recogniser whose nodes behind the blanks do not begin with one takes what they take at the first
position behind a blank at which they match. -/
theorem find?_of_first (code : isComment text = false) {way : Way}
    (behind : IsBehind isBlank text start) (first : FirstWay nodes (text.drop start) way)
    (least : ∀ other, MatchesBehind blank nodes text other → start ≤ other) :
    find? pattern kind text = ofGroups kind way.groups := by
  have found : MatchesBehind blank nodes text start :=
    ⟨isBehind_blank_iff.mpr behind, ways_ne_nil_iff.mpr ⟨way, first⟩⟩
  simp only [← accepts_blank] at refused
  have searched := map_firstWay?_of_first refused found least
  rw [first, ← someBlanks, ← root] at searched
  rw [find?_eq plain, code, searched]
  rfl

theorem find?_of_never (never : ∀ start, ¬ MatchesBehind blank nodes text start) :
    find? pattern kind text = none := by
  simp only [← accepts_blank] at refused
  have nothing := firstWay?_eq_none_of_never refused never
  rw [← someBlanks, ← root] at nothing
  rw [find?_eq plain, nothing]
  exact ite_self _

end

/-! ## Members -/

/-- The nodes of a member behind the blanks. -/
def memberSide : List Node :=
  .capture 1 (.many .greedy 1 none wordChar) :: .one (.char ':') :: functionTail

theorem ways_memberSide_of_isBlank (c : Char) (rest : Text) (blank : isBlank c) :
    (Node.sequence memberSide).ways (c :: rest) = [] :=
  ways_word_of_isBlank blank 1 _ rest

namespace MemberAt

/-- The words of two members do not overlap, so their order is that of the signs. -/
theorem start_le {other later another : Nat} (member : MemberAt text start sign opening)
    (further : MemberAt text other later another) (ordered : sign ≤ later) : start ≤ other := by
  obtain ⟨before, c, rfl, found, blank⟩ := member.behind
  by_contra earlier
  have filled := member.filled
  have word := further.word c (mem_slice_iff.mpr ⟨before, by omega, by omega, found⟩)
  rw [isBlank_eq_false_of_isWord word] at blank
  exact Bool.false_ne_true blank

theorem firstWay (member : MemberAt text start sign opening) (oneLine : '\n' ∉ text)
    (last : IsLast text ')' closing) :
    FirstWay memberSide (text.drop start)
      ⟨[text.drop start, text.drop sign, text.drop (opening + 1), text.drop closing],
        text.drop (closing + 1)⟩ := by
  have right : FirstWay (.one (.char ':') :: functionTail) (text.drop sign)
      ⟨[text.drop (opening + 1), text.drop closing], text.drop (closing + 1)⟩ := by
    rw [drop_eq_cons member.colon]
    exact firstWay_one (by decide) (member.assigns.firstWay_functionTail oneLine last)
  rw [drop_eq_slice_append text (Nat.le_of_lt member.filled)]
  refine firstWay_capture_run (fun c mem => ?_) ?_ ?_ right
  · rw [accepts_wordChar]
    exact member.word c mem
  · have inside := member.assigns.lt_length
    have filled := member.filled
    exact List.length_pos_iff.mpr (slice_ne_nil filled (by omega))
  · rw [drop_eq_cons member.colon, List.head?_cons, Option.all_some, accepts_wordChar]
    decide

/-- The name of a member is not trimmed. -/
theorem trim_eq (member : MemberAt text start sign opening) :
    trim (slice text start sign) = slice text start sign :=
  trim_eq_self fun c mem => isBlank_eq_false_of_isWord (member.word c mem)

end MemberAt

/-- The colon of a member is one of the signs of an assignment. -/
theorem exists_assignsAt_of_ways_colon
    (found : (Node.sequence (.one (.char ':') :: functionTail)).ways (text.drop sign) ≠ []) :
    text[sign]? = some ':' ∧ ∃ opening, AssignsAt text sign opening := by
  obtain ⟨c, rest, split, same, tail⟩ := exists_cons_of_ways_one found
  obtain rfl : c = ':' := by simpa [CharTest.accepts] using same
  obtain ⟨way, first⟩ := ways_ne_nil_iff.mp tail
  refine ⟨getElem?_of_drop_eq_cons split, exists_assignsAt_of_bareAssignment ?_⟩
  apply bareAssignment_of_ways
  rw [split]
  exact ways_ne_nil_iff.mpr ⟨_, firstWay_one (by decide) first⟩

/-- Where the nodes of a member match, there is a member. -/
theorem exists_memberAt_of_matchesBehind (found : MatchesBehind blank memberSide text start) :
    ∃ sign opening, MemberAt text start sign opening := by
  have reached := found.ways
  rw [memberSide, ways_capture_sequence, Ne, List.flatMap_eq_nil_iff] at reached
  simp only [List.map_eq_nil_iff, Classical.not_forall, exists_prop, mem_runRests_iff] at reached
  obtain ⟨rest, ⟨front, split, accepted, filled⟩, reached⟩ := reached
  rw [drop_of_drop_eq_append split] at reached
  obtain ⟨colon, opening, assigns⟩ := exists_assignsAt_of_ways_colon reached
  refine ⟨_, opening, assigns, colon, ?_, by omega, ?_⟩
  · exact isBehind_blank_iff.mp found.behind
  · rw [slice_of_drop_eq_append split]
    simpa only [accepts_wordChar] using accepted

theorem exists_firstMember (member : MemberAt text start sign opening) :
    ∃ other later another, FirstMember text other later another := by
  obtain ⟨later, -, ⟨other, another, there⟩, first⟩ :=
    exists_first (p := fun sign => ∃ start opening, MemberAt text start sign opening)
      ⟨start, opening, member⟩
  exact ⟨other, later, another, there, fun start sign opening further =>
    first sign ⟨start, opening, further⟩⟩

/-- The first member of a line is found. -/
theorem find?_of_firstMember (oneLine : '\n' ∉ text) (code : isComment text = false)
    (first : FirstMember text start sign opening) (last : IsLast text ')' closing) :
    find? memberPattern .member text =
      some ⟨slice text start sign, slice text (opening + 1) closing, .member⟩ := by
  have least : ∀ other, MatchesBehind blank memberSide text other → start ≤ other := by
    intro other found
    obtain ⟨later, another, further⟩ := exists_memberAt_of_matchesBehind found
    exact first.start_le further (first.first other later another further)
  rw [find?_of_first isPlain_memberPattern rfl ways_memberSide_of_isBlank code first.behind
    (first.firstWay oneLine last) least, groups_drop, ofGroups, first.trim_eq]

/-- Without a member none is found. -/
theorem find?_of_no_member (none : ∀ start sign opening, ¬ MemberAt text start sign opening) :
    find? memberPattern .member text = .none := by
  refine find?_of_never isPlain_memberPattern rfl ways_memberSide_of_isBlank fun start found => ?_
  obtain ⟨sign, opening, member⟩ := exists_memberAt_of_matchesBehind found
  exact none start sign opening member

/-! ## Variables -/

/-- The nodes of a variable behind the blanks. -/
def varSide : List Node := .literal "var " :: assignment

theorem ways_varSide_of_isBlank (c : Char) (rest : Text) (blank : isBlank c) :
    (Node.sequence varSide).ways (c :: rest) = [] :=
  ways_var_of_isBlank blank _ rest

namespace VarAt

theorem drop_keyword (var : VarAt text start) :
    text.drop start = "var ".toList ++ text.drop (start + 4) :=
  drop_eq_append_of_prefix var.keyword

theorem firstWay (var : VarAt text start) (oneLine : '\n' ∉ text)
    (last : LastAssignment text (start + 5) sign opening closing) :
    FirstWay varSide (text.drop start)
      ⟨[text.drop (start + 4), text.drop sign, text.drop (opening + 1), text.drop closing],
        text.drop (closing + 1)⟩ := by
  rw [var.drop_keyword]
  exact firstWay_literal (last.firstWay_assignment oneLine)

end VarAt

/-- Where the nodes of a variable match, there is a `var` with an assignment behind it. -/
theorem exists_assignsAt_of_matchesBehind (found : MatchesBehind blank varSide text start) :
    VarAt text start ∧ ∃ sign opening, start + 5 ≤ sign ∧ AssignsAt text sign opening := by
  obtain ⟨rest, split, reached⟩ := exists_append_of_ways_literal found.ways
  rw [drop_of_drop_eq_append split] at reached
  exact ⟨⟨isBehind_blank_iff.mp found.behind, rest, split.symm⟩,
    exists_assignsAt_of_ways_assignment reached⟩

theorem exists_firstVar (var : VarAt text start) :
    ∃ first, first ≤ start ∧ FirstVar text first := by
  obtain ⟨first, before, there, least⟩ := exists_first var
  exact ⟨first, before, there, least⟩

/-- The first variable of a line is found, with a name up to the last assignment. -/
theorem find?_of_firstVar (oneLine : '\n' ∉ text) (code : isComment text = false)
    (first : FirstVar text start) (last : LastAssignment text (start + 5) sign opening closing) :
    find? varPattern .varAssignment text =
      some ⟨trim (slice text (start + 4) sign), slice text (opening + 1) closing,
        .varAssignment⟩ := by
  rw [find?_of_first isPlain_varPattern rfl ways_varSide_of_isBlank code first.behind
    (first.firstWay oneLine last) fun other found =>
      first.first other (exists_assignsAt_of_matchesBehind found).1, groups_drop, ofGroups]

/-- Without an assignment behind the first `var` no variable is found. A later `var` has no more
assignments behind it. -/
theorem find?_of_no_var (none : ∀ start, FirstVar text start → ∀ sign opening,
    start + 5 ≤ sign → ¬ AssignsAt text sign opening) :
    find? varPattern .varAssignment text = .none := by
  refine find?_of_never isPlain_varPattern rfl ways_varSide_of_isBlank fun start found => ?_
  obtain ⟨var, sign, opening, behind, assigns⟩ := exists_assignsAt_of_matchesBehind found
  obtain ⟨first, before, there⟩ := exists_firstVar var
  exact none first there sign opening (by omega) assigns

/-! ## The closed form -/

theorem documented?_of_isComment (comment : isComment text) : documented? text = none := by
  rw [documented?, find?, if_pos comment, find?, if_pos comment]
  rfl

theorem documented?_of_documents (oneLine : '\n' ∉ text) (code : isComment text = false)
    {signature : Signature} (documents : Documents text signature) :
    documented? text = some signature := by
  cases documents with
  | member first last =>
      rw [documented?, find?_of_firstMember oneLine code first last]
      rfl
  | var none first last =>
      rw [documented?, find?_of_no_member none]
      exact find?_of_firstVar oneLine code first last

/-- Some positions of a line make a signature: there is a member, or an assignment behind the first
`var`. -/
def HasSignature (text : Text) : Prop :=
  (∃ start sign opening, MemberAt text start sign opening) ∨
    ∃ start sign opening, FirstVar text start ∧ start + 5 ≤ sign ∧ AssignsAt text sign opening

theorem exists_documents (found : HasSignature text) :
    ∃ signature, Documents text signature := by
  by_cases member : ∃ start sign opening, MemberAt text start sign opening
  · obtain ⟨start, sign, opening, member⟩ := member
    obtain ⟨other, later, another, first⟩ := exists_firstMember member
    obtain ⟨closing, last⟩ := first.assigns.exists_isLast
    exact ⟨_, .member first last⟩
  · obtain ⟨start, sign, opening, first, behind, assigns⟩ := found.resolve_left member
    obtain ⟨later, another, closing, -, last⟩ := exists_lastAssignment assigns behind
    simp only [not_exists] at member
    exact ⟨_, .var member first last⟩

theorem documented?_of_not_hasSignature (none : ¬ HasSignature text) :
    documented? text = .none := by
  have noMember : ∀ start sign opening, ¬ MemberAt text start sign opening :=
    fun start sign opening member => none (.inl ⟨start, sign, opening, member⟩)
  rw [documented?, find?_of_no_member noMember]
  refine find?_of_no_var fun start first sign opening behind assigns => ?_
  exact none (.inr ⟨start, sign, opening, first, behind, assigns⟩)

theorem documented?_eq_none_iff (oneLine : '\n' ∉ text) :
    documented? text = none ↔ isComment text ∨ ¬ HasSignature text := by
  constructor
  · intro nothing
    by_contra some
    rw [not_or, Bool.not_eq_true, not_not] at some
    obtain ⟨signature, documents⟩ := exists_documents some.2
    rw [documented?_of_documents oneLine some.1 documents] at nothing
    exact Option.some_ne_none _ nothing
  · rintro (comment | none)
    · exact documented?_of_isComment comment
    · exact documented?_of_not_hasSignature none

theorem documented?_eq_some_iff (oneLine : '\n' ∉ text) : ∀ signature,
    documented? text = some signature ↔ isComment text = false ∧ Documents text signature := by
  refine eq_some_iff_of_exists ?_ fun some => ?_
  · rintro _ ⟨code, documents⟩
    exact documented?_of_documents oneLine code documents
  · rw [Ne, documented?_eq_none_iff oneLine, not_or, Bool.not_eq_true, not_not] at some
    obtain ⟨signature, documents⟩ := exists_documents some.2
    exact ⟨signature, some.1, documents⟩

/-- What a line documents, by positions. It documents nothing exactly if it is a comment line or has
neither a member nor an assignment behind its first `var`. Otherwise it documents its first member,
else a variable up to the last such assignment, with parameters up to the last closing
parenthesis. -/
theorem documented?_closed_form (oneLine : '\n' ∉ text) :
    (documented? text = none ↔ isComment text ∨ ¬ HasSignature text) ∧
    ∀ signature, documented? text = some signature ↔
      isComment text = false ∧ Documents text signature :=
  ⟨documented?_eq_none_iff oneLine, documented?_eq_some_iff oneLine⟩

/-- An assignment in front of the first member and a member among its parameters do not count. -/
theorem documented?_closed_form_of_three_functions :
    let text := " a = function(p), c: function(q, d: function(r)) \x7b\x7d".toList
    '\n' ∉ text ∧ isComment text = false ∧
      Documents text ⟨"c".toList, "q, d: function(r)".toList, .member⟩ := by
  intro text
  have oneLine : '\n' ∉ text := by decide
  have documented : documented? text =
      some ⟨"c".toList, "q, d: function(r)".toList, .member⟩ := by decide +kernel
  exact ⟨oneLine, ((documented?_closed_form oneLine).2 _).mp documented⟩

end DocAudit.Signature
