import DocAudit.Proofs.Files.FileSystems
import Mathlib.Data.List.Perm.Subperm
import Mathlib.Logic.Relation

/-!
# Files through links

Listing the files below a directory so that directories behind links are entered as well ends only
because the depth is bounded. Where no directory can be entered from itself, the bound that is used
is out of reach: the directories on the way to a file are distinct, and there are no more of them
than entries and the root. So exactly the files are listed that going through links leads to, each
under its names once.
-/

namespace DocAudit.FileTree

/-- A name in a directory leads to a location, behind all links. -/
def LeadsInto (tree : FileTree) (location : Location) (name : Text) (place : Location) : Prop :=
  (∃ entry, tree.get? (location ++ [name]) = some entry) ∧
    tree.resolve false ⟨.single, location ++ [name]⟩ = .ok place

/-- Some name in a directory leads to another directory. -/
def Enters (tree : FileTree) (location place : Location) : Prop :=
  ∃ name, tree.LeadsInto location name place ∧ tree.get? place = some .directory

/-- No directory can be entered from itself. -/
def Loopless (tree : FileTree) : Prop :=
  ∀ location, ¬ Relation.TransGen tree.Enters location location

/-- Going through directories and links leads to a file under some names. -/
inductive Reaches (tree : FileTree) : Location → List Text → Prop
  | file {location place : Location} {name : Text} {bytes : List UInt8}
      (leads : tree.LeadsInto location name place) (there : tree.get? place = some (.file bytes)) :
      Reaches tree location [name]
  | deeper {location place : Location} {name : Text} {names : List Text}
      (leads : tree.LeadsInto location name place) (there : tree.get? place = some .directory)
      (reaches : Reaches tree place names) : Reaches tree location (name :: names)

variable {tree : FileTree} {location place : Location} {name : Text} {names : List Text}
  {depth : Nat} {entry : Entry}

/-- There are no loops if every entry that leads to a directory leads to one of a higher rank than
the directory in which it stands. -/
theorem loopless_of_rank (rank : Location → Nat)
    (rises : ∀ entry ∈ tree.entries, ∀ place ∈ (tree.resolve false ⟨.single, entry.1⟩).toOption,
      tree.get? place = some .directory → rank entry.1.dropLast < rank place) : tree.Loopless := by
  have step {location place : Location} (enters : tree.Enters location place) :
      rank location < rank place := by
    obtain ⟨name, ⟨⟨entry, there⟩, resolved⟩, directory⟩ := enters
    have higher := rises _ (mem_entries_of_get? (by simp) there) place (by rw [resolved]; rfl)
      directory
    rwa [List.dropLast_concat] at higher
  have way {location place : Location} (enters : Relation.TransGen tree.Enters location place) :
      rank location < rank place := by
    induction enters with
    | single enters => exact step enters
    | tail _ enters ih => exact ih.trans (step enters)
  exact fun location again => lt_irrefl _ (way again)

/-! ## One directory -/

/-- The entries of a directory have one name. -/
theorem mem_children_iff (system : tree.IsFileSystem) :
    (names, entry) ∈ (tree.below location).filter (·.1.length = 1) ↔
      ∃ name, names = [name] ∧ tree.get? (location ++ [name]) = some entry := by
  rw [List.mem_filter, mem_below_iff, decide_eq_true_eq, List.length_eq_one_iff]
  constructor
  · rintro ⟨⟨-, mem⟩, name, rfl⟩
    exact ⟨name, rfl, system.get?_of_mem mem⟩
  · rintro ⟨name, rfl, there⟩
    exact ⟨⟨List.cons_ne_nil _ _, mem_entries_of_get? (by simp) there⟩, name, rfl⟩

/-- The files that are listed for the entry of a directory with some names. -/
def filesUnder (tree : FileTree) (depth : Nat) (location : Location) (names : List Text) :
    List (List Text) :=
  match tree.resolve false ⟨.single, location ++ names⟩ with
  | .error _ => []
  | .ok target =>
    match tree.get? target with
    | some (.file _) => [names]
    | some .directory => (tree.filesThroughLinks depth target).map (names ++ ·)
    | _ => []

theorem filesThroughLinks_succ (tree : FileTree) (depth : Nat) (location : Location) :
    tree.filesThroughLinks (depth + 1) location =
      ((tree.below location).filter (·.1.length = 1)).flatMap fun child =>
        tree.filesUnder depth location child.1 :=
  rfl

theorem mem_filesUnder_iff {found : List Text} :
    found ∈ tree.filesUnder depth location names ↔
      ∃ target, tree.resolve false ⟨.single, location ++ names⟩ = .ok target ∧
        ((∃ bytes, tree.get? target = some (.file bytes) ∧ found = names) ∨
          tree.get? target = some .directory ∧
            ∃ deeper ∈ tree.filesThroughLinks depth target, found = names ++ deeper) := by
  rw [filesUnder]
  cases tree.resolve false ⟨.single, location ++ names⟩ with
  | error reason => simp
  | ok target =>
      simp only [Except.ok.injEq, exists_eq_left']
      rcases there : tree.get? target with _ | entry
      · simp
      · cases entry <;> simp [eq_comm]

/-- Of the directory and the depth left, what is listed is one step further. -/
theorem mem_filesThroughLinks_succ_iff (system : tree.IsFileSystem) :
    names ∈ tree.filesThroughLinks (depth + 1) location ↔
      ∃ name place, tree.LeadsInto location name place ∧
        ((∃ bytes, tree.get? place = some (.file bytes) ∧ names = [name]) ∨
          tree.get? place = some .directory ∧
            ∃ deeper ∈ tree.filesThroughLinks depth place, names = name :: deeper) := by
  rw [filesThroughLinks_succ, List.mem_flatMap]
  constructor
  · rintro ⟨⟨child, entry⟩, mem, found⟩
    obtain ⟨name, rfl, there⟩ := (mem_children_iff system).mp mem
    obtain ⟨place, resolved, found⟩ := mem_filesUnder_iff.mp found
    exact ⟨name, place, ⟨⟨entry, there⟩, resolved⟩, found⟩
  · rintro ⟨name, place, ⟨⟨entry, there⟩, resolved⟩, found⟩
    exact ⟨([name], entry), (mem_children_iff system).mpr ⟨name, rfl, there⟩,
      mem_filesUnder_iff.mpr ⟨place, resolved, found⟩⟩

/-! ## All directories -/

theorem reaches_of_mem (system : tree.IsFileSystem)
    (mem : names ∈ tree.filesThroughLinks depth location) : Reaches tree location names := by
  induction depth generalizing location names with
  | zero => exact absurd mem List.not_mem_nil
  | succ depth ih =>
      obtain ⟨name, place, leads, ⟨bytes, there, rfl⟩ | ⟨there, deeper, further, rfl⟩⟩ :=
        (mem_filesThroughLinks_succ_iff system).mp mem
      · exact .file leads there
      · exact .deeper leads there (ih further)

/-- A directory is the root or has an entry. -/
theorem mem_of_directory (there : tree.get? location = some .directory) :
    location ∈ [] :: tree.entries.map Prod.fst := by
  by_cases below : location = []
  · exact below ▸ List.mem_cons_self
  · exact List.mem_cons_of_mem _ (List.mem_map.mpr ⟨_, mem_entries_of_get? below there, rfl⟩)

/-- A directory and those behind it, through which it was entered, with a depth left that makes up
for the entries that are not among them. -/
structure WayDown (tree : FileTree) (location : Location) (behind : List Location) (depth : Nat) :
    Prop where
  directories : ∀ place ∈ location :: behind, tree.get? place = some .directory
  entered : ∀ place ∈ behind, Relation.TransGen tree.Enters place location
  distinct : behind.Nodup
  room : tree.entries.length + 1 ≤ depth + behind.length

namespace WayDown

variable {behind : List Location}

/-- Without loops a directory is not among those behind it. -/
theorem nodup_cons (way : WayDown tree location behind depth) (loopless : tree.Loopless) :
    (location :: behind).Nodup :=
  List.nodup_cons.mpr ⟨fun again => loopless location (way.entered location again), way.distinct⟩

/-- Some depth is left, since distinct directories are no more than entries and the root. -/
theorem exists_depth_eq (way : WayDown tree location behind depth) (loopless : tree.Loopless) :
    ∃ less, depth = less + 1 := by
  have inside : location :: behind ⊆ [] :: tree.entries.map Prod.fst :=
    fun place mem => mem_of_directory (way.directories place mem)
  have fewer := (List.subperm_of_subset (way.nodup_cons loopless) inside).length_le
  have room := way.room
  simp only [List.length_cons, List.length_map] at fewer
  exact Nat.exists_eq_succ_of_ne_zero (by omega)

/-- Entering one more directory takes one of the depth. -/
theorem enter (way : WayDown tree location behind (depth + 1)) (loopless : tree.Loopless)
    (enters : tree.Enters location place) : WayDown tree place (location :: behind) depth where
  directories := List.forall_mem_cons.mpr ⟨enters.choose_spec.2, way.directories⟩
  entered := List.forall_mem_cons.mpr
    ⟨.single enters, fun other mem => (way.entered other mem).tail enters⟩
  distinct := way.nodup_cons loopless
  room := by
    have room := way.room
    rw [List.length_cons]
    omega

end WayDown

/-- A file that is reached is listed, by induction on the way to it. -/
theorem mem_of_reaches (system : tree.IsFileSystem) (loopless : tree.Loopless)
    (reaches : Reaches tree location names) {behind : List Location}
    (way : WayDown tree location behind depth) : names ∈ tree.filesThroughLinks depth location := by
  induction reaches generalizing behind depth with
  | @file location place name bytes leads there =>
      obtain ⟨less, rfl⟩ := way.exists_depth_eq loopless
      exact (mem_filesThroughLinks_succ_iff system).mpr
        ⟨name, place, leads, .inl ⟨bytes, there, rfl⟩⟩
  | @deeper location place name names leads there reaches ih =>
      obtain ⟨less, rfl⟩ := way.exists_depth_eq loopless
      have further := ih (way.enter loopless ⟨name, leads, there⟩)
      exact (mem_filesThroughLinks_succ_iff system).mpr
        ⟨name, place, leads, .inr ⟨there, names, further, rfl⟩⟩

/-- A file is reached only from a directory. -/
theorem Reaches.directory (system : tree.IsFileSystem) (reaches : Reaches tree location names) :
    tree.get? location = some .directory := by
  have above {name : Text} {place : Location} (leads : tree.LeadsInto location name place) :
      tree.get? location = some .directory := by
    obtain ⟨⟨entry, there⟩, -⟩ := leads
    exact system.get?_of_prefix (List.cons_ne_nil name []) (mem_entries_of_get? (by simp) there)
  cases reaches with
  | file leads => exact above leads
  | deeper leads => exact above leads

/-- Without loops, the bound that is used for the depth cuts nothing off. -/
theorem mem_filesThroughLinks_iff (system : tree.IsFileSystem) (loopless : tree.Loopless) :
    names ∈ tree.filesThroughLinks (tree.entries.length + 1) location ↔
      Reaches tree location names := by
  refine ⟨reaches_of_mem system, fun reaches => ?_⟩
  have way : WayDown tree location [] (tree.entries.length + 1) :=
    { directories := List.forall_mem_singleton.mpr (reaches.directory system)
      entered := fun _ mem => absurd mem List.not_mem_nil
      distinct := List.nodup_nil
      room := Nat.le_refl _ }
  exact mem_of_reaches system loopless reaches way

/-! ## No file twice -/

/-- What is listed for an entry begins with its names. -/
theorem prefix_of_mem_filesUnder {found : List Text}
    (mem : found ∈ tree.filesUnder depth location names) : names <+: found := by
  obtain ⟨target, -, ⟨bytes, -, rfl⟩ | ⟨-, deeper, -, rfl⟩⟩ := mem_filesUnder_iff.mp mem
  · exact List.prefix_refl _
  · exact List.prefix_append _ _

theorem nodup_filesThroughLinks (system : tree.IsFileSystem) (depth : Nat) (location : Location) :
    (tree.filesThroughLinks depth location).Nodup := by
  induction depth generalizing location with
  | zero => exact List.nodup_nil
  | succ depth ih =>
      rw [filesThroughLinks_succ, List.nodup_flatMap]
      constructor
      · rintro ⟨names, entry⟩ -
        rw [filesUnder]
        split
        · exact List.nodup_nil
        · split
          · exact List.nodup_singleton _
          · exact (ih _).map (List.append_right_injective names)
          · exact List.nodup_nil
      · -- Files under two entries begin with different names.
        have distinct : ((tree.below location).filter (·.1.length = 1)).Pairwise
            fun child other => child.1 ≠ other.1 :=
          (List.pairwise_map.mp (system.nodup_below location)).filter _
        refine distinct.imp_of_mem fun {child other} mem otherMem differ found inside outside => ?_
        have same : child.1.length = other.1.length :=
          (of_decide_eq_true (List.mem_filter.mp mem).2).trans
            (of_decide_eq_true (List.mem_filter.mp otherMem).2).symm
        have extended := List.prefix_of_prefix_length_le (prefix_of_mem_filesUnder inside)
          (prefix_of_mem_filesUnder outside) same.le
        exact differ (extended.eq_of_length same)

end DocAudit.FileTree
