import DocAudit.Proofs.Signature.DeclaredForm
import DocAudit.Proofs.Signature.DocumentedForm

/-!
# Documented signatures are declared

The recogniser of documented signatures is stricter than the one of declarations: where it succeeds
on a line, the other one does too. Both choose among the assignments of the line. The word or the
`var` that the stricter one asks for stands behind a blank, hence not in front of the first one, so
the assignment that it takes is one of those that the other one chooses from. That one takes the
last, and reaches back to the first blank for the name.
-/

namespace DocAudit.Signature

open Pattern Text

/-- What a documented signature and the declaration on the same line have in common. -/
structure Agrees (documented declared : Signature) : Prop where
  kind : documented.kind = .member ∨ documented.kind = .varAssignment
  parameters : declared.parameters <:+ documented.parameters
  member : documented.kind = .member → documented.name <:+: declared.name
  var : documented.kind = .varAssignment →
    declared.parameters = documented.parameters ∧ documented.name <:+ declared.name

variable {line : Text} {start sign opening closing place : Nat}

/-- An assignment behind a blank and a further character makes a declaration, of the same or a later
one. -/
theorem exists_declared?_of_assignsAt (oneLine : '\n' ∉ line) (code : isComment line = false)
    (behind : IsBehind isBlank line place) (assigns : AssignsAt line sign opening)
    (ordered : place < sign) (final : IsLast line ')' closing) :
    ∃ start last another, start < place ∧ sign ≤ last ∧ AssignsAt line last another ∧
      declared? line = some
        ⟨trim (slice line start last), slice line (another + 1) closing, .assignment⟩ := by
  obtain ⟨before, c, rfl, found, blank⟩ := behind
  obtain ⟨start, first⟩ := exists_findIdx? found blank
  have earlier := le_of_findIdx? first found blank
  obtain ⟨last, another, other, later, taken⟩ :=
    exists_lastAssignment assigns (by omega : start + 2 ≤ sign)
  obtain rfl := taken.closing.unique final
  exact ⟨start, last, another, by omega, later, taken.assigns,
    declared?_of_lastAssignment oneLine code first taken⟩

/-- A member is part of the name of what the line declares. -/
theorem exists_declared?_of_member (oneLine : '\n' ∉ line) (code : isComment line = false)
    (member : MemberAt line start sign opening) (final : IsLast line ')' closing) :
    ∃ declared, declared? line = some declared ∧
      Agrees ⟨slice line start sign, slice line (opening + 1) closing, .member⟩ declared := by
  obtain ⟨first, last, another, before, later, assigns, found⟩ :=
    exists_declared?_of_assignsAt oneLine code member.behind member.assigns member.filled final
  have reached := member.assigns.opening_le assigns later
  have ordered := Nat.le_of_lt member.filled
  have inside := member.assigns.lt_length
  have parts : slice line first start ++ slice line start sign ++ slice line sign last =
      slice line first last := by
    rw [slice_append_slice line (Nat.le_of_lt before) ordered,
      slice_append_slice line (by omega) later]
  refine ⟨_, found, .inl rfl, slice_suffix_slice line (by omega), fun _ => ?_, fun other => ?_⟩
  · rw [← parts]
    apply infix_trim
    · exact slice_ne_nil member.filled (by omega)
    · exact fun c mem => isBlank_eq_false_of_isWord (member.word c mem)
  · exact SignatureKind.noConfusion other

/-- A variable is the end of the name of what the line declares. -/
theorem exists_declared?_of_var (oneLine : '\n' ∉ line) (code : isComment line = false)
    (var : VarAt line start) (last : LastAssignment line (start + 5) sign opening closing) :
    ∃ declared, declared? line = some declared ∧
      Agrees ⟨trim (slice line (start + 4) sign), slice line (opening + 1) closing,
        .varAssignment⟩ declared := by
  have behind := last.behind
  obtain ⟨first, later, another, before, reached, assigns, found⟩ :=
    exists_declared?_of_assignsAt oneLine code var.behind last.assigns (by omega) last.closing
  obtain rfl : later = sign := Nat.le_antisymm (last.last later another (by omega) assigns) reached
  obtain rfl := assigns.opening_unique last.assigns
  refine ⟨_, found, .inr rfl, List.suffix_refl _, fun other => ?_, fun _ => ⟨rfl, ?_⟩⟩
  · exact SignatureKind.noConfusion other
  · exact trim_suffix (slice_suffix_slice line (by omega))

/-- Whatever a line documents, it declares. -/
theorem exists_declared?_of_documented? (oneLine : '\n' ∉ line) {signature : Signature}
    (documented : documented? line = some signature) :
    ∃ declared, declared? line = some declared ∧ Agrees signature declared := by
  obtain ⟨code, documents⟩ := (documented?_eq_some_iff oneLine signature).mp documented
  cases documents with
  | member first last => exact exists_declared?_of_member oneLine code first.toMemberAt last
  | var _ first last => exact exists_declared?_of_var oneLine code first.toVarAt last

end DocAudit.Signature
