import Mathlib.Data.List.MinMax
import Mathlib.Data.List.Nodup
import WorkspaceLint.FileTree.Host
import WorkspaceLint.Proofs.Path.Text

/-!
# Well-formed file trees

What a file system promises of its entries and this library relies on: at each location stands one
entry, and the names of entries are names that a path can have. `namesIn_nodup` and
`isEntryName_of_mem_namesIn` say what this means for the names that a directory holds.
-/

namespace WorkspaceLint

/-- A name under which an entry can stand in a directory. Two dots are no such name, although they
can be a part of a path. -/
def IsEntryName (name : String) : Prop := Path.IsName name ∧ name ≠ ".."

instance (name : String) : Decidable (IsEntryName name) := inferInstanceAs (Decidable (_ ∧ _))

/-- At each location stands one entry, and all names on it are entry names. -/
structure FileTree.WellFormed {F : Type} (tree : FileTree F) : Prop where
  distinct : (tree.entries.map (·.1)).Nodup
  named : ∀ location ∈ tree.entries.map (·.1), ∀ name ∈ location, IsEntryName name

/-- The tree is well-formed, the working directory is a place in it by its names, and the home
directory is a path. -/
structure Host.WellFormed {F : Type} (host : Host F) : Prop where
  tree : host.tree.WellFormed
  working : ∀ name ∈ host.working, IsEntryName name
  home : host.home.IsProper

namespace FileTree

variable {F : Type} {tree : FileTree F}

/-- A name in a directory is what follows the directory on the location of an entry. -/
theorem mem_namesIn {directory : Location} {name : String} :
    name ∈ tree.namesIn directory ↔ directory ++ [name] ∈ tree.entries.map (·.1) := by
  simp only [namesIn, List.mem_filterMap, List.mem_map, beq_iff_eq]
  refine exists_congr fun entry => and_congr_right fun _ => ?_
  constructor
  · intro h
    split at h
    next hdirectory => rw [← hdirectory, List.dropLast_append_getLast? name h]
    next => cases h
  · intro h
    simp [h]

/-- No location of an entry is longer than the depth of the tree. -/
theorem length_le_depth_of_mem {location : Location} (h : location ∈ tree.entries.map (·.1)) :
    location.length ≤ tree.depth := by
  obtain ⟨entry, hentry, rfl⟩ := List.mem_map.mp h
  exact List.le_max_of_le' 0 (List.mem_map_of_mem hentry) (Nat.le_refl _)

/-- A directory of a well-formed tree holds no name twice. -/
theorem namesIn_nodup (htree : tree.WellFormed) (directory : Location) :
    (tree.namesIn directory).Nodup := by
  have hnames : tree.namesIn directory = (tree.entries.map (·.1)).filterMap fun location =>
      if location.dropLast == directory then location.getLast? else none := by
    rw [List.filterMap_map]
    rfl
  rw [hnames]
  refine htree.distinct.filterMap fun location other name hname hother => ?_
  simp only [Option.mem_def, beq_iff_eq] at hname hother
  split at hname <;> split at hother <;> try contradiction
  next hlocation hother' =>
    rw [← List.dropLast_append_getLast? name hname, ← List.dropLast_append_getLast? name hother,
      hlocation, hother']

/-- The names that a directory holds are entry names. -/
theorem isEntryName_of_mem_namesIn (htree : tree.WellFormed) {directory : Location} {name : String}
    (h : name ∈ tree.namesIn directory) : IsEntryName name :=
  htree.named _ (mem_namesIn.mp h) name (by simp)

end FileTree

end WorkspaceLint
