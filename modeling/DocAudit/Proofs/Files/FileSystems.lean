import DocAudit.Proofs.Files.PlainTrees
import Mathlib.Data.List.Nodup

/-!
# File systems

In a file tree that is a file system, no two entries share a location, and every entry stands in a
directory under a proper name. What lies below a location is a filter over all entries; in a file
system it is also what is found by going down, from directory to directory, and each entry is found
under its names alone.
-/

namespace DocAudit.FileTree

/-- A file tree in which every entry has a location of its own, under a proper name in a directory,
and the working directory is a directory. -/
structure IsFileSystem (tree : FileTree) : Prop where
  unique : (tree.entries.map Prod.fst).Nodup
  placed : ∀ entry ∈ tree.entries, entry.1 ≠ [] ∧ tree.get? entry.1.dropLast = some .directory
  named : ∀ entry ∈ tree.entries, ∀ name ∈ entry.1, Path.IsEntryName name
  working : tree.get? tree.here = some .directory

/-- Going down from a directory leads to an entry under some names. Links are not followed. -/
inductive Descends (tree : FileTree) : Location → List Text → Entry → Prop
  | child {location : Location} {name : Text} {entry : Entry}
      (there : tree.get? (location ++ [name]) = some entry) : Descends tree location [name] entry
  | deeper {location : Location} {name : Text} {names : List Text} {entry : Entry}
      (directory : tree.get? (location ++ [name]) = some .directory)
      (descends : Descends tree (location ++ [name]) names entry) :
      Descends tree location (name :: names) entry

variable {tree : FileTree} {location place : Location} {name : Text} {names rest : List Text}
  {entry : Entry}

/-! ## Entries by their locations -/

/-- What lies below a location are the entries behind it. -/
theorem mem_below_iff : (names, entry) ∈ tree.below location ↔
    names ≠ [] ∧ (location ++ names, entry) ∈ tree.entries := by
  rw [below, List.mem_filterMap]
  constructor
  · rintro ⟨⟨other, found⟩, inTree, seen⟩
    simp only at seen
    split at seen
    case h_1 first others dropped =>
        obtain ⟨rfl, rfl⟩ := Prod.mk.inj (Option.some.inj seen)
        obtain rfl := Path.dropParts_eq_some_iff.mp dropped
        exact ⟨List.cons_ne_nil _ _, inTree⟩
    case h_2 => cases seen
  · rintro ⟨filled, inTree⟩
    obtain ⟨first, others, rfl⟩ := List.exists_cons_of_ne_nil filled
    refine ⟨_, inTree, ?_⟩
    simp only [Path.dropParts_eq_some_iff.mpr rfl]

theorem names_below : (tree.below location).map Prod.fst = (tree.entries.map Prod.fst).filterMap
    fun other => (Path.dropParts other location).filter (· ≠ []) := by
  rw [below, List.map_filterMap, List.filterMap_map]
  congr 1
  funext ⟨other, entry⟩
  simp only [Function.comp_apply]
  rcases Path.dropParts other location with _ | _ | ⟨first, others⟩ <;> rfl

namespace IsFileSystem

/-- An entry is the one that is found at its location. -/
theorem get?_of_mem (system : tree.IsFileSystem) (mem : (location, entry) ∈ tree.entries) :
    tree.get? location = some entry := by
  have listed : (tree.entries.find? (·.1 = location)).isSome :=
    List.find?_isSome.mpr ⟨_, mem, decide_eq_true rfl⟩
  obtain ⟨found, first⟩ := Option.isSome_iff_exists.mp listed
  have here : found.1 = location := by simpa using List.find?_some first
  have same : found = (location, entry) :=
    List.inj_on_of_nodup_map system.unique (List.mem_of_find?_eq_some first) mem here
  rw [get?, if_neg (system.placed _ mem).1, first, same]
  rfl

/-- A directory stands at every location on the way to an entry. -/
theorem get?_of_prefix (system : tree.IsFileSystem) (filled : rest ≠ [])
    (mem : (location ++ rest, entry) ∈ tree.entries) : tree.get? location = some .directory := by
  induction rest using List.reverseRecOn generalizing entry with
  | nil => exact absurd rfl filled
  | append_singleton front last ih =>
      have above := (system.placed _ mem).2
      rw [← List.append_assoc, List.dropLast_concat] at above
      by_cases top : front = []
      · rwa [top, List.append_nil] at above
      · exact ih top (mem_entries_of_get? (by simp [top]) above)

/-- What lies below a location is found by going down from there, under the same names. -/
theorem mem_below_iff_descends (system : tree.IsFileSystem) :
    (names, entry) ∈ tree.below location ↔ Descends tree location names entry := by
  rw [mem_below_iff]
  constructor
  · rintro ⟨filled, mem⟩
    induction names generalizing location with
    | nil => exact absurd rfl filled
    | cons name rest ih =>
        cases rest with
        | nil => exact .child (system.get?_of_mem mem)
        | cons next others =>
            have split :
                (location ++ [name]) ++ next :: others = location ++ name :: next :: others :=
              List.append_assoc _ _ _
            rw [← split] at mem
            exact .deeper (system.get?_of_prefix (List.cons_ne_nil _ _) mem)
              (ih (List.cons_ne_nil _ _) mem)
  · intro descends
    induction descends with
    | child there => exact ⟨List.cons_ne_nil _ _, mem_entries_of_get? (by simp) there⟩
    | deeper directory descends ih =>
        rw [List.append_assoc] at ih
        exact ⟨List.cons_ne_nil _ _, ih.2⟩

/-- Nothing is listed twice below a location. -/
theorem nodup_below (system : tree.IsFileSystem) (location : Location) :
    ((tree.below location).map Prod.fst).Nodup := by
  rw [names_below]
  refine system.unique.filterMap fun first second names found again => ?_
  have spelt {other : Location}
      (dropped : names ∈ (Path.dropParts other location).filter (· ≠ [])) :
      other = location ++ names :=
    Path.dropParts_eq_some_iff.mp (Option.filter_eq_some_iff.mp dropped).1
  rw [spelt found, spelt again]

end IsFileSystem

end DocAudit.FileTree
