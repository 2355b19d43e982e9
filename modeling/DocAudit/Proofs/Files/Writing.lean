import DocAudit.Files.Tree

/-!
# What writing does to a tree

Making directories adds directories and leaves every entry as it is, so a path that leads somewhere
goes on leading there. A file that has been written can be read back under the same path: looking the
path up again takes the same turns, since the new file stands at the end of the look-up and never in
its way. That the look-up may be given fewer steps the second time, because the file took the place
of a link, makes no difference either: a look-up never runs out of steps.
-/

namespace DocAudit.FileTree

open Files

variable {tree after : FileTree} {location other : Location} {entry : Entry} {path : Path}
  {bytes : List UInt8}

/-! ## Entries -/

theorem find?_putEntry (entries : List (Location × Entry)) :
    ((putEntry location entry entries).find? (·.1 = other)).map (·.2) =
      if other = location then some entry else (entries.find? (·.1 = other)).map (·.2) := by
  induction entries with
  | nil => by_cases same : location = other <;> simp [putEntry, same, eq_comm]
  | cons first rest ih =>
      obtain ⟨place, old⟩ := first
      rw [putEntry]
      by_cases here : place = location
      · subst here
        by_cases same : place = other
        · simp [same]
        · simp [same, Ne.symm same]
      · rw [if_neg here]
        by_cases same : place = other
        · subst same
          simp [here]
        · rw [List.find?_cons_of_neg (by simpa using same), ih,
            List.find?_cons_of_neg (by simpa using same)]

/-- An entry that is put below the root stands at its location, and nothing else changes. -/
theorem get?_put (below : location ≠ []) (other : Location) :
    (tree.put location entry).get? other =
      if other = location then some entry else tree.get? other := by
  rw [get?, get?, put]
  by_cases root : other = []
  · subst root
    rw [if_pos rfl, if_neg (Ne.symm below), if_pos rfl]
  · rw [if_neg root, if_neg root, find?_putEntry]

theorem get?_put_self (below : location ≠ []) :
    (tree.put location entry).get? location = some entry := by
  rw [get?_put below, if_pos rfl]

theorem get?_put_of_ne (below : location ≠ []) (apart : other ≠ location) :
    (tree.put location entry).get? other = tree.get? other := by
  rw [get?_put below, if_neg apart]

theorem isDirectoryAt_nil (tree : FileTree) : tree.isDirectoryAt [] := by
  simp [isDirectoryAt, get?]

theorem ne_nil_of_not_isDirectoryAt (solid : ¬ tree.isDirectoryAt location) : location ≠ [] := by
  rintro rfl
  exact solid (isDirectoryAt_nil tree)

/-- Where something takes the place of no directory, every directory stays. -/
theorem isDirectoryAt_put (solid : ¬ tree.isDirectoryAt location)
    (directory : tree.isDirectoryAt other) : (tree.put location entry).isDirectoryAt other := by
  have apart : other ≠ location := by
    rintro rfl
    exact solid directory
  rwa [isDirectoryAt, get?_put_of_ne (ne_nil_of_not_isDirectoryAt solid) apart, ← isDirectoryAt]

/-! ## Making directories -/

/-- The regular files of one tree are those of another one. -/
def KeepsFiles (before after : FileTree) : Prop :=
  ∀ location bytes, after.get? location = some (.file bytes) ↔
    before.get? location = some (.file bytes)

/-- A tree that has some directories more than another one. -/
structure AddsDirectories (before after : FileTree) : Prop where
  here : after.here = before.here
  kept : ∀ {location entry}, before.get? location = some entry → after.get? location = some entry
  added : ∀ {location entry}, after.get? location = some entry →
    before.get? location = some entry ∨ entry = .directory

theorem AddsDirectories.refl (tree : FileTree) : AddsDirectories tree tree :=
  ⟨rfl, id, .inl⟩

theorem AddsDirectories.trans {first second third : FileTree}
    (left : AddsDirectories first second) (right : AddsDirectories second third) :
    AddsDirectories first third where
  here := right.here.trans left.here
  kept := fun found => right.kept (left.kept found)
  added := fun found => (right.added found).elim left.added .inr

theorem AddsDirectories.keepsFiles (adds : AddsDirectories tree after) : KeepsFiles tree after := by
  intro location bytes
  refine ⟨fun found => ?_, adds.kept⟩
  rcases adds.added found with found | other
  · exact found
  · cases other

theorem AddsDirectories.get?_link (adds : AddsDirectories tree after) {target : Text}
    (link : after.get? location = some (.link target)) : tree.get? location = some (.link target) := by
  rcases adds.added link with found | other
  · exact found
  · cases other

/-- A directory is only put where nothing stands. -/
theorem exists_put_of_makeDirectory (made : tree.makeDirectory path = .ok after) :
    ∃ location, location ≠ [] ∧ tree.get? location = none ∧ after = tree.put location .directory := by
  simp only [makeDirectory] at made
  split at made
  · cases made
  · split at made
    · cases made
    · split at made
      · cases made
      case h_2 name _ _ place _ =>
          repeat' split at made
          all_goals try cases made
          case isFalse free =>
              refine ⟨place ++ [name], by simp, ?_, rfl⟩
              simpa using free

theorem addsDirectories_makeDirectory (made : tree.makeDirectory path = .ok after) :
    AddsDirectories tree after := by
  obtain ⟨place, below, free, rfl⟩ := exists_put_of_makeDirectory made
  refine ⟨rfl, fun {location entry} found => ?_, fun {location entry} found => ?_⟩
  · have apart : location ≠ place := by
      rintro rfl
      cases free.symm.trans found
    rw [get?_put below, if_neg apart, found]
  · rw [get?_put below] at found
    split at found
    · exact .inr (Option.some.inj found).symm
    · exact .inl found

theorem addsDirectories_ensureDirectory (tree : FileTree) (path : Path) :
    AddsDirectories tree (tree.ensureDirectory path).1 := by
  rw [ensureDirectory]
  split
  case h_1 made found => exact addsDirectories_makeDirectory found
  case h_2 => split <;> exact .refl tree
  case h_3 => exact .refl tree

theorem addsDirectories_ensureAncestors (depth : Nat) (tree : FileTree) (path : Path) :
    AddsDirectories tree (ensureAncestors depth tree path).1 := by
  induction depth generalizing tree path with
  | zero => exact addsDirectories_ensureDirectory tree path
  | succ depth ih =>
      rw [ensureAncestors]
      split
      case h_1 =>
          split
          · exact .refl tree
          · have above := ih tree path.parent
            split
            case h_1 prepared made =>
                rw [made] at above
                exact above.trans (addsDirectories_ensureDirectory prepared path)
            case h_2 => exact above
      case h_2 => exact addsDirectories_ensureDirectory tree path

theorem addsDirectories_makeDirectories (tree : FileTree) (path : Path) :
    AddsDirectories tree (tree.makeDirectories path).1 :=
  addsDirectories_ensureAncestors _ tree path

/-! ## Look-ups -/

/-- A look-up does not depend on the number of steps, as long as they are enough for the components
ahead and for those of every link that may still be followed. -/
theorem walk_eq_of_enough {width : Nat} (create : Bool)
    (narrow : ∀ location target, tree.get? location = some (.link target) →
      (Text.splitOn '/' target).length ≤ width)
    (steps more links : Nat) (location : Location) (pending : List Text)
    (enough : pending.length + links * width ≤ steps)
    (enoughMore : pending.length + links * width ≤ more) :
    walk tree create steps links location pending =
      walk tree create more links location pending := by
  induction steps generalizing more links location pending with
  | zero =>
      cases pending with
      | nil => rw [walk, walk]
      | cons name rest =>
          rw [List.length_cons] at enough
          omega
  | succ steps ih =>
      cases pending with
      | nil => rw [walk, walk]
      | cons name rest =>
          rw [List.length_cons] at enough enoughMore
          obtain ⟨more, rfl⟩ : ∃ fewer, more = fewer + 1 := ⟨more - 1, by omega⟩
          have shorter (location : Location) : walk tree create steps links location rest =
              walk tree create more links location rest :=
            ih more links location rest (by omega) (by omega)
          rw [walk, walk, shorter, shorter]
          cases found : tree.get? (location ++ [name]) with
          | none => rfl
          | some entry =>
              cases entry with
              | file bytes => simp only [shorter]
              | directory => simp only [shorter]
              | link target =>
                  cases links with
                  | zero => rfl
                  | succ links =>
                      have width := narrow _ _ found
                      rw [Nat.succ_mul] at enough enoughMore
                      have followed := ih more links (linkStart location target)
                        (Text.splitOn '/' target ++ rest) (by rw [List.length_append]; omega)
                        (by rw [List.length_append]; omega)
                      simp only [Nat.add_sub_cancel, followed]

theorem not_prefix_linkStart (below : location ≠ []) {place : Location}
    (outside : ¬ location <+: place) (target : Text) : ¬ location <+: linkStart place target := by
  rw [linkStart]
  split
  · rwa [List.prefix_nil]
  · exact outside

/-- No name is looked up below a link, so a look-up that is outside of a link never ends there. -/
theorem walk_ne_of_link {target : Text} (link : tree.get? location = some (.link target))
    (below : location ≠ []) (create : Bool) (steps links : Nat) {place : Location}
    (outside : ¬ location <+: place) (pending : List Text) :
    walk tree create steps links place pending ≠ .ok location := by
  fun_induction walk tree create steps links place pending with
  | case1 steps links place =>
      intro same
      rw [Except.ok.inj same] at outside
      exact outside (List.prefix_refl _)
  | case2 | case3 | case6 | case7 | case9 | case10 =>
      intro same
      cases same
  | case4 steps links place name rest directory skipped ih => exact ih outside
  | case5 steps links place rest directory other ih =>
      exact ih fun inside => outside (inside.trans (List.dropLast_prefix place))
  | case8 steps links place name rest directory other up final short free last =>
      intro same
      rw [Except.ok.inj same, link] at free
      cases free
  | case11 steps links place name rest directory other up final short target found left ih =>
      exact ih (not_prefix_linkStart below outside target)
  | case12 steps links place name rest directory other up final short entry solid found ih =>
      apply ih
      intro inside
      rcases List.prefix_concat_iff.mp inside with same | inside
      · rw [← same, link] at found
        exact solid target (Option.some.inj found).symm
      · exact outside inside

/-- A look-up that goes on behind a link does not come back to it. -/
theorem walk_linkStart_ne {place : Location} {name target : Text}
    (link : tree.get? (place ++ [name]) = some (.link target)) (create : Bool) (steps links : Nat)
    (pending : List Text) :
    walk tree create steps links (linkStart place target) pending ≠ .ok (place ++ [name]) := by
  have below : place ++ [name] ≠ [] := by simp
  have outside : ¬ place ++ [name] <+: place := by
    intro inside
    have longer := inside.length_le
    rw [List.length_append, List.length_singleton] at longer
    omega
  exact walk_ne_of_link link below create steps links (not_prefix_linkStart below outside target)
    pending

/-! ## One component of a path -/

section

variable {create : Bool} {steps links : Nat} {place : Location} {name : Text} {rest : List Text}

/-- A component that is looked up: it has no meaning of its own and is not too long. -/
structure IsName (name : Text) : Prop where
  other : ¬ (name = [] ∨ name = ['.'])
  up : ¬ name = ['.', '.']
  short : ¬ nameLimit < (Text.Utf8.encode name).length

theorem walk_blank (directory : tree.isDirectoryAt place) (blank : name = [] ∨ name = ['.']) :
    walk tree create (steps + 1) links place (name :: rest) =
      walk tree create steps links place rest := by
  rw [walk, if_neg (by simp [directory]), if_pos blank]

theorem walk_up (directory : tree.isDirectoryAt place) :
    walk tree create (steps + 1) links place (['.', '.'] :: rest) =
      walk tree create steps links place.dropLast rest := by
  rw [walk, if_neg (by simp [directory]), if_neg (by decide), if_pos rfl]

/-- A look-up for writing comes to no end at a name with nothing but a slash behind it. -/
theorem not_isFinalSlash_of_walk (directory : tree.isDirectoryAt place) (named : IsName name)
    (found : walk tree create (steps + 1) links place (name :: rest) = .ok location) :
    ¬ (create && isFinalSlash rest) = true := by
  intro final
  rw [walk, if_neg (by simp [directory]), if_neg named.other, if_neg named.up, if_pos final] at found
  cases found

/-- A name is looked up in the directory that has been reached. -/
theorem walk_name (directory : tree.isDirectoryAt place) (named : IsName name)
    (final : ¬ (create && isFinalSlash rest) = true) :
    walk tree create (steps + 1) links place (name :: rest) =
      match tree.get? (place ++ [name]) with
      | none => if create ∧ rest = [] then .ok (place ++ [name]) else .error .noEntry
      | some (.link target) =>
        if links = 0 then .error .tooManyLinks
        else
          walk tree create steps (links - 1) (linkStart place target)
            (Text.splitOn '/' target ++ rest)
      | some _ => walk tree create steps links (place ++ [name]) rest := by
  rw [walk, if_neg (by simp [directory]), if_neg named.other, if_neg named.up, if_neg final]
  exact if_neg named.short

/-- A name is followed to its entry, unless that is a link. -/
theorem walk_entry (directory : tree.isDirectoryAt place) (named : IsName name)
    (final : ¬ (create && isFinalSlash rest) = true)
    (found : tree.get? (place ++ [name]) = some entry) (solid : ∀ target, entry ≠ .link target) :
    walk tree create (steps + 1) links place (name :: rest) =
      walk tree create steps links (place ++ [name]) rest := by
  rw [walk_name directory named final, found]
  cases entry with
  | link target => exact absurd rfl (solid target)
  | file | directory => rfl

/-- A link is followed to the components of its target. -/
theorem walk_link {target : Text} (directory : tree.isDirectoryAt place) (named : IsName name)
    (final : ¬ (create && isFinalSlash rest) = true)
    (found : tree.get? (place ++ [name]) = some (.link target)) (left : ¬ links = 0) :
    walk tree create (steps + 1) links place (name :: rest) =
      walk tree create steps (links - 1) (linkStart place target)
        (Text.splitOn '/' target ++ rest) := by
  rw [walk_name directory named final, found]
  exact if_neg left

end

/-! ## Look-ups after writing -/

/-- A file is found again that was written at the end of a look-up. -/
theorem walk_put (solid : ¬ tree.isDirectoryAt location) (steps links : Nat) {place : Location}
    {pending : List Text} (found : walk tree true steps links place pending = .ok location) :
    walk (tree.put location (.file bytes)) false steps links place pending = .ok location := by
  have below := ne_nil_of_not_isDirectoryAt solid
  have still {place : Location} (directory : ¬ (!tree.isDirectoryAt place) = true) :
      (tree.put location (.file bytes)).isDirectoryAt place :=
    isDirectoryAt_put solid (by simpa using directory)
  have final {rest : List Text} : ¬ (false && isFinalSlash rest) = true := Bool.false_ne_true
  fun_induction walk tree true steps links place pending with
  | case1 steps links place => rwa [walk]
  | case2 | case3 | case6 | case7 | case9 | case10 => cases found
  | case4 steps links place name rest directory blank ih =>
      rw [walk_blank (still directory) blank]
      exact ih found
  | case5 steps links place rest directory other ih =>
      rw [walk_up (still directory)]
      exact ih found
  | case8 steps links place name rest directory other up slash short free last =>
      obtain rfl := Except.ok.inj found
      obtain ⟨-, rfl⟩ := last
      rw [walk_entry (still directory) ⟨other, up, short⟩ final (get?_put_self below) (by simp), walk]
  | case11 steps links place name rest directory other up slash short target link left ih =>
      have apart : place ++ [name] ≠ location := by
        rintro rfl
        exact walk_linkStart_ne link true steps (links - 1) _ found
      have kept : (tree.put location (.file bytes)).get? (place ++ [name]) =
          some (.link target) := by
        rw [get?_put_of_ne below apart, link]
      rw [walk_link (still directory) ⟨other, up, short⟩ final kept left]
      exact ih found
  | case12 steps links place name rest directory other up slash short entry solid there ih =>
      by_cases same : place ++ [name] = location
      · subst same
        rw [walk_entry (still directory) ⟨other, up, short⟩ final (get?_put_self below) (by simp)]
        exact ih found
      · have kept : (tree.put location (.file bytes)).get? (place ++ [name]) = some entry := by
          rw [get?_put_of_ne below same, there]
        rw [walk_entry (still directory) ⟨other, up, short⟩ final kept solid]
        exact ih found

/-- Where entries are kept, a look-up for writing ends where a look-up before has ended. -/
theorem walk_eq_of_kept
    (kept : ∀ {location entry}, tree.get? location = some entry → after.get? location = some entry)
    (steps links : Nat) {place : Location} {pending : List Text}
    (found : walk tree false steps links place pending = .ok location)
    (again : walk after true steps links place pending = .ok other) : other = location := by
  have still {place : Location} (directory : ¬ (!tree.isDirectoryAt place) = true) :
      after.isDirectoryAt place := by
    have there : tree.get? place = some .directory := by simpa [isDirectoryAt] using directory
    simp [isDirectoryAt, kept there]
  fun_induction walk tree false steps links place pending with
  | case1 steps links place =>
      rw [walk] at again
      exact (Except.ok.inj again).symm.trans (Except.ok.inj found)
  | case2 | case3 | case6 | case7 | case9 | case10 => cases found
  | case4 steps links place name rest directory blank ih =>
      rw [walk_blank (still directory) blank] at again
      exact ih found again
  | case5 steps links place rest directory seen ih =>
      rw [walk_up (still directory)] at again
      exact ih found again
  | case8 steps links place name rest directory seen up slash short free last =>
      exact absurd last.1 Bool.false_ne_true
  | case11 steps links place name rest directory seen up slash short target there left ih =>
      have named : IsName name := ⟨seen, up, short⟩
      have final := not_isFinalSlash_of_walk (still directory) named again
      rw [walk_link (still directory) named final (kept there) left] at again
      exact ih found again
  | case12 steps links place name rest directory seen up slash short entry solid there ih =>
      have named : IsName name := ⟨seen, up, short⟩
      have final := not_isFinalSlash_of_walk (still directory) named again
      rw [walk_entry (still directory) named final (kept there) solid] at again
      exact ih found again

/-! ## Steps of a look-up -/

theorem le_foldr_of_mem {α : Type} {first : α} {entries : List α} (cost : α → Nat)
    (mem : first ∈ entries) : cost first ≤ (entries.map cost).foldr (· + ·) 0 := by
  induction entries with
  | nil => exact absurd mem List.not_mem_nil
  | cons other rest ih =>
      rw [List.map_cons, List.foldr_cons]
      rcases List.mem_cons.mp mem with rfl | mem
      · exact Nat.le_add_right _ _
      · exact Nat.le_add_left_of_le (ih mem)

theorem mem_entries_of_get? (below : location ≠ []) (found : tree.get? location = some entry) :
    (location, entry) ∈ tree.entries := by
  rw [get?, if_neg below, Option.map_eq_some_iff] at found
  obtain ⟨⟨place, other⟩, first, rfl⟩ := found
  have same := List.find?_some first
  obtain rfl : place = location := by simpa using same
  exact List.mem_of_find?_eq_some first

/-- The bound on the steps leaves room for the components ahead and, for each link that may still be
followed, for those of the longest one. -/
theorem exists_width (tree : FileTree) : ∃ width,
    (∀ location target, tree.get? location = some (.link target) →
      (Text.splitOn '/' target).length ≤ width) ∧
    ∀ pending, tree.stepBound pending = pending.length + (linkLimit + 1) * (width + 1) := by
  refine ⟨_, fun location target link => ?_, fun _ => rfl⟩
  have below : location ≠ [] := by
    rintro rfl
    simp [get?] at link
  refine Nat.le_trans ?_ (le_foldr_of_mem _ (mem_entries_of_get? below link))
  exact Nat.le_succ _

/-- A look-up takes the same way under every bound that leaves room for the links of the tree. The
bound that is used does, and so does that of a tree with the same links and more. -/
theorem walk_stepBound_of_links
    (fewer : ∀ {location target}, after.get? location = some (.link target) →
      tree.get? location = some (.link target))
    (create : Bool) (place : Location) (pending : List Text) :
    walk after create (tree.stepBound pending) linkLimit place pending =
      walk after create (after.stepBound pending) linkLimit place pending := by
  obtain ⟨wide, links, bound⟩ := tree.exists_width
  obtain ⟨width, ownLinks, ownBound⟩ := after.exists_width
  have narrow (location : Location) (target : Text)
      (link : after.get? location = some (.link target)) :
      (Text.splitOn '/' target).length ≤ min wide width :=
    Nat.le_min.mpr ⟨links location target (fewer link), ownLinks location target link⟩
  apply walk_eq_of_enough create narrow
  · rw [bound, linkLimit]
    omega
  · rw [ownBound, linkLimit]
    omega

/-- A path that led to a location leads to the same one for writing when directories were added. -/
theorem resolve_eq_of_addsDirectories (adds : AddsDirectories tree after)
    (found : tree.resolve false path = .ok location)
    (again : after.resolve true path = .ok other) : other = location := by
  rw [resolve] at found again
  split at found
  · cases found
  case isFalse short =>
      have start : after.start path = tree.start path := by
        rw [FileTree.start, FileTree.start, adds.here]
      rw [if_neg short, start, ← walk_stepBound_of_links adds.get?_link] at again
      exact walk_eq_of_kept adds.kept _ _ found again

/-- Writing puts a file where the path leads afterwards. -/
theorem exists_put_of_writeBytes (written : tree.writeBytes path bytes = .ok after) :
    ∃ location, location ≠ [] ∧ hasNull path = false ∧ tree.resolve true path = .ok location ∧
      after = tree.put location (.file bytes) ∧ after.resolve false path = .ok location := by
  simp only [writeBytes] at written
  split at written
  · cases written
  case isFalse visible =>
      split at written
      · cases written
      case h_2 location resolved =>
          split at written
          · cases written
          case isFalse solid =>
              obtain rfl := Except.ok.inj written
              have below := ne_nil_of_not_isDirectoryAt solid
              have fewer {other : Location} {target : Text}
                  (link : (tree.put location (.file bytes)).get? other = some (.link target)) :
                  tree.get? other = some (.link target) := by
                rw [get?_put below] at link
                split at link
                · cases link
                · exact link
              refine ⟨location, below, Bool.eq_false_iff.mpr visible, resolved, rfl, ?_⟩
              rw [resolve] at resolved ⊢
              split at resolved
              · cases resolved
              case isFalse short =>
                  rw [if_neg short, ← walk_stepBound_of_links fewer]
                  exact walk_put solid _ _ resolved

/-- A file that was written can be read back. -/
theorem readBytes_of_writeBytes (written : tree.writeBytes path bytes = .ok after) :
    after.readBytes path = .ok bytes := by
  obtain ⟨location, below, visible, -, rfl, again⟩ := exists_put_of_writeBytes written
  rw [readBytes, visible, again]
  simp only [get?_put below, if_true, Bool.false_eq_true, if_false]

end DocAudit.FileTree
