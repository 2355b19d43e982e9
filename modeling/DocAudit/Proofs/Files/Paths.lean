import DocAudit.Files.Path
import DocAudit.Proofs.Text.Cutting

/-!
# Paths and their texts

A path that is made of proper components is the path that its text names, so two such paths are
never rendered alike. Texts name only paths of this kind, and joining or extending paths gives no
others.
-/

namespace DocAudit.Path

/-- A text that is one component of a path: there is something of it, it means more than the same
directory, and no slash cuts it. -/
def IsPart (part : Text) : Prop :=
  part ≠ [] ∧ part ≠ ['.'] ∧ '/' ∉ part

instance (part : Text) : Decidable (IsPart part) :=
  inferInstanceAs (Decidable (_ ∧ _ ∧ _))

/-- A path whose components could stand in a text. -/
def Proper (path : Path) : Prop :=
  ∀ part ∈ path.parts, IsPart part

variable {path base : Path} {parts : List Text}

theorem isPart_of_mem_partsOf {text part : Text} (mem : part ∈ partsOf text) : IsPart part := by
  obtain ⟨cut, kept⟩ := List.mem_filter.mp mem
  obtain ⟨filled, named⟩ := of_decide_eq_true kept
  exact ⟨filled, named, Text.not_mem_of_mem_splitOn cut⟩

theorem proper_ofText (text : Text) : (ofText text).Proper :=
  fun _ => isPart_of_mem_partsOf

theorem Proper.append (proper : path.Proper) (parted : ∀ part ∈ parts, IsPart part) :
    (path.append parts).Proper :=
  List.forall_mem_append.mpr ⟨proper, parted⟩

theorem Proper.join (proper : base.Proper) (other : path.Proper) : (base.join path).Proper := by
  rw [Path.join]
  split
  · exact other
  · exact proper.append other

theorem dropParts_eq_some_iff {parts other rest : List Text} :
    dropParts parts other = some rest ↔ parts = other ++ rest := by
  fun_induction dropParts parts other with
  | case1 parts => exact ⟨Option.some.inj, congrArg some⟩
  | case2 => simp
  | case3 parts part more ih => rw [ih, List.cons_append, List.cons.injEq, and_iff_right rfl]
  | case4 parts part expected more differ =>
      simp only [reduceCtorEq, List.cons_append, List.cons.injEq, false_iff]
      exact fun same => differ same.1

/-- A path is below a base exactly if it extends the base. -/
theorem relativeTo?_eq_some_iff : path.relativeTo? base = some parts ↔ path = base.append parts := by
  rw [relativeTo?, append]
  split
  case isTrue same =>
      rw [dropParts_eq_some_iff]
      constructor
      · intro extended
        rw [← same, ← extended]
      · rintro rfl
        rfl
  case isFalse other =>
      refine iff_of_false nofun ?_
      rintro rfl
      exact other rfl

/-! ## Reading a rendered path -/

theorem partsOf_cons_slash (text : Text) : partsOf ('/' :: text) = partsOf text := by
  simp [partsOf, Text.splitOn]

theorem partsOf_joinWith (parted : ∀ part ∈ parts, IsPart part) :
    partsOf (Text.joinWith ['/'] parts) = parts := by
  by_cases empty : parts = []
  · subst empty
    rfl
  · rw [partsOf, Text.splitOn_joinWith empty fun part mem => (parted part mem).2.2,
      List.filter_eq_self]
    intro part mem
    exact decide_eq_true ⟨(parted part mem).1, (parted part mem).2.1⟩

/-- Nothing in front of the components of a path looks like a root. -/
theorem takeWhile_joinWith (parted : ∀ part ∈ parts, IsPart part) :
    (Text.joinWith ['/'] parts).takeWhile (· == '/') = [] := by
  have outside {part : Text} (isPart : IsPart part) (rest : Text) :
      (part ++ rest).takeWhile (· == '/') = [] := by
    obtain ⟨c, others, rfl⟩ := List.exists_cons_of_ne_nil isPart.1
    have other : ¬ (c == '/') = true := by
      intro slash
      exact isPart.2.2 (by simp [beq_iff_eq.mp slash])
    exact List.takeWhile_cons_of_neg other
  cases parts with
  | nil => rfl
  | cons part rest =>
      have first : IsPart part := parted part (by simp)
      cases rest with
      | nil => simpa [Text.joinWith] using outside first []
      | cons next rest =>
          rw [Text.joinWith_cons_cons, List.append_assoc]
          exact outside first _

/-- A path is the one that its text names. -/
theorem ofText_render (proper : path.Proper) : ofText path.render = path := by
  obtain ⟨root, parts⟩ := path
  have whole := partsOf_joinWith proper
  have bare := takeWhile_joinWith proper
  cases root with
  | relative =>
      cases parts with
      | nil => rfl
      | cons part rest =>
          show ofText (Text.joinWith ['/'] (part :: rest)) = ⟨.relative, part :: rest⟩
          rw [ofText, whole, bare]
  | single =>
      show ofText ('/' :: Text.joinWith ['/'] parts) = ⟨.single, parts⟩
      rw [ofText, partsOf_cons_slash, whole, List.takeWhile_cons_of_pos rfl, bare]
  | double =>
      show ofText ('/' :: '/' :: Text.joinWith ['/'] parts) = ⟨.double, parts⟩
      rw [ofText, partsOf_cons_slash, partsOf_cons_slash, whole, List.takeWhile_cons_of_pos rfl,
        List.takeWhile_cons_of_pos rfl, bare]

theorem eq_of_render_eq {other : Path} (proper : path.Proper) (otherProper : other.Proper)
    (same : path.render = other.render) : path = other :=
  calc path = ofText path.render := (ofText_render proper).symm
    _ = ofText other.render := by rw [same]
    _ = other := ofText_render otherProper

end DocAudit.Path
