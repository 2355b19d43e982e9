import DocAudit.Files.Content
import DocAudit.Proofs.Files.Writing

/-!
# Trees that differ in bytes

Where a path leads does not depend on what is in the files of a tree: a look-up asks for directories
and follows links. So in trees with the same outline every path leads to the same location, and what
is read there depends on the entry at that location alone.
-/

namespace DocAudit

/-- What stands at a location, without the bytes of a file. -/
inductive Entry.SameKind : Option Entry → Option Entry → Prop
  | nothing : SameKind none none
  | directory : SameKind (some .directory) (some .directory)
  | link (target : Text) : SameKind (some (.link target)) (some (.link target))
  | file (bytes others : List UInt8) : SameKind (some (.file bytes)) (some (.file others))

namespace FileTree

/-- Two trees that differ in the bytes of files only. -/
structure SameOutline (first second : FileTree) : Prop where
  here : second.here = first.here
  kind : ∀ location, Entry.SameKind (first.get? location) (second.get? location)

variable {first second : FileTree} {location : Location} {path : Path}

theorem SameOutline.isDirectoryAt (same : SameOutline first second) (location : Location) :
    second.isDirectoryAt location = first.isDirectoryAt location := by
  rw [FileTree.isDirectoryAt, FileTree.isDirectoryAt]
  generalize first.get? location = old, second.get? location = new, same.kind location = kind
  cases kind <;> rfl

theorem SameOutline.get?_link (same : SameOutline first second) {target : Text}
    (link : second.get? location = some (.link target)) :
    first.get? location = some (.link target) := by
  have kind := same.kind location
  rw [link] at kind
  generalize first.get? location = old at kind
  cases kind
  rfl

/-- A look-up takes the same turns. -/
theorem walk_eq_of_sameOutline (same : SameOutline first second) (create : Bool)
    (steps links : Nat) (place : Location) (pending : List Text) :
    walk second create steps links place pending = walk first create steps links place pending := by
  induction steps generalizing links place pending with
  | zero => cases pending <;> rfl
  | succ steps ih =>
      cases pending with
      | nil => rfl
      | cons name rest =>
          simp only [walk, same.isDirectoryAt, ih]
          generalize first.get? (place ++ [name]) = old, second.get? (place ++ [name]) = new,
            same.kind (place ++ [name]) = kind
          cases kind <;> rfl

theorem resolve_eq_of_sameOutline (same : SameOutline first second) (create : Bool) (path : Path) :
    second.resolve create path = first.resolve create path := by
  rw [resolve, resolve, ← walk_stepBound_of_links same.get?_link, walk_eq_of_sameOutline same,
    start, start, same.here]

/-- A path that leads to an unchanged entry is a file as before and is read as before. -/
theorem read_eq_of_sameOutline (same : SameOutline first second)
    (kept : ∀ location, first.resolve false path = .ok location →
      second.get? location = first.get? location) :
    second.isFile path = first.isFile path ∧ second.readText path = first.readText path := by
  have resolved := resolve_eq_of_sameOutline same false path
  rw [isFile, isFile, readText, readText, readBytes, readBytes, entry?, entry?, resolved]
  cases led : first.resolve false path with
  | error reason => cases reason <;> exact ⟨rfl, rfl⟩
  | ok location => simp only [kept location led, and_self]

end FileTree

end DocAudit
