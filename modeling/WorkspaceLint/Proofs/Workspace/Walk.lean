import Mathlib.Data.List.Nodup
import WorkspaceLint.Proofs.FileTree.Resolve
import WorkspaceLint.Proofs.Path.Order
import WorkspaceLint.Workspace.Discovery

/-!
# What a walk finds

A file that a walk finds is told by the names that lead from the directory of the walk down to it.
`Finds` says which names these are, apart from the order and the bound of the walk.

* `mem_walk`          — the walk finds what `Finds` says, as far down as it goes.
* `Finds.not_skipped` — on the way to a file there is no directory that the walk keeps out of.
* `walk_nodup`        — the walk finds every file once.
* `mem_sourceFiles`   — the walk of a project goes down far enough to find all files that there are.
-/

namespace WorkspaceLint

namespace Path

/-- The path that names lead to. -/
def descend (path : Path) (names : List String) : Path :=
  { path with parts := path.parts ++ names }

/-- Going down from a child is going down by its name first. -/
theorem child_descend (path : Path) (name : String) (names : List String) :
    (path.child name).descend names = path.descend (name :: names) := by
  simp [child, descend]

/-- Paths below a path are told apart by the names that lead to them. -/
theorem descend_injective (path : Path) : Function.Injective path.descend := by
  intro names others h
  exact List.append_cancel_left (congrArg Path.parts h)

/-- Going down from a resolved path by entry names leads to a resolved path. -/
theorem IsResolved.descend {path : Path} (hpath : path.IsResolved) {names : List String}
    (hnames : ∀ name ∈ names, IsEntryName name) : (path.descend names).IsResolved := by
  exact ⟨hpath.anchor, List.forall_mem_append.mpr ⟨hpath.parts, hnames⟩⟩

end Path

namespace FileTree

variable {F : Type}

/-- The names from a directory down to a source file: at each but the last stands a directory that
the walk enters, and at the last a file that it takes. -/
inductive Finds (tree : FileTree F) (scope : WalkScope) : Location → Path → List String → Prop
  | file {location : Location} {path : Path} {name : String}
      (hname : name ∈ tree.namesIn location)
      (hfile : tree.holdsDirectory location name = false)
      (htaken : scope.takesFile (path.child name) = true) : Finds tree scope location path [name]
  | directory {location : Location} {path : Path} {name : String} {names : List String}
      (hentered : name ∈ tree.entered scope location path)
      (hbelow : Finds tree scope (location ++ [name]) (path.child name) names) :
      Finds tree scope location path (name :: names)

variable {tree : FileTree F} {scope : WalkScope} {location : Location} {path : Path}

namespace Finds

variable {names : List String}

/-- What a walk finds has at least one name. -/
theorem ne_nil (h : tree.Finds scope location path names) : names ≠ [] := by
  cases h <;> exact List.cons_ne_nil _ _

/-- The names that a walk goes by are entry names. -/
theorem isEntryName (htree : tree.WellFormed) (h : tree.Finds scope location path names) :
    ∀ name ∈ names, IsEntryName name := by
  induction h with
  | file hname =>
    exact List.forall_mem_singleton.mpr (isEntryName_of_mem_namesIn htree hname)
  | directory hentered _ ih =>
    have hname := isEntryName_of_mem_namesIn htree (List.mem_filter.mp hentered).1
    exact List.forall_mem_cons.mpr ⟨hname, ih⟩

/-- On the way to a file there is no directory that the walk keeps out of. -/
theorem not_skipped (h : tree.Finds scope location path names) {way rest : List String}
    (hnames : names = way ++ rest) (hway : way ≠ []) (hrest : rest ≠ []) :
    scope.skipsDirectory (path.descend way) = false := by
  induction h generalizing way with
  | file =>
    -- A single name cannot be divided into two parts that are not empty.
    obtain ⟨first, way, rfl⟩ := List.exists_cons_of_ne_nil hway
    obtain ⟨-, hempty⟩ := List.cons.inj hnames
    exact absurd (List.append_eq_nil_iff.mp hempty.symm).2 hrest
  | directory hentered _ ih =>
    obtain ⟨first, way, rfl⟩ := List.exists_cons_of_ne_nil hway
    obtain ⟨rfl, hbelow⟩ := List.cons.inj hnames
    rw [← Path.child_descend]
    -- The first directory on the way was entered, and those below it were entered from there.
    by_cases hempty : way = []
    · subst hempty
      simpa [Path.descend] using (Bool.and_eq_true_iff.mp (List.mem_filter.mp hentered).2).2
    · exact ih hbelow hempty

/-- The names lead to an entry of the tree. -/
theorem mem_locations (h : tree.Finds scope location path names) :
    location ++ names ∈ tree.entries.map (·.1) := by
  induction h with
  | file hname => exact mem_namesIn.mp hname
  | directory _ _ ih => rwa [List.append_assoc] at ih

/-- A walk goes no deeper than the tree is. -/
theorem length_le_depth (h : tree.Finds scope location path names) :
    names.length ≤ tree.depth := by
  have hentry := length_le_depth_of_mem h.mem_locations
  rw [List.length_append] at hentry
  omega

end Finds

/-- The files that a walk lists in a directory are the names in it that are no directories and are
taken. -/
theorem mem_filesIn {file : Path} :
    file ∈ tree.filesIn scope location path
      ↔ ∃ name ∈ tree.namesIn location, tree.holdsDirectory location name = false
          ∧ scope.takesFile (path.child name) = true ∧ file = path.child name := by
  simp only [filesIn, List.mem_filterMap, List.mem_filter, Bool.not_eq_true', and_assoc]
  refine exists_congr fun name => and_congr_right fun _ => and_congr_right fun _ => ?_
  constructor
  · intro h
    split at h
    next htaken => exact ⟨htaken, (Option.some.inj h).symm⟩
    next => cases h
  · rintro ⟨htaken, rfl⟩
    rw [if_pos htaken]

/-- A walk finds the files that names of at most one more than its levels lead to. -/
theorem mem_walk {levels : Nat} {file : Path} :
    file ∈ tree.walk scope levels location path
      ↔ ∃ names, names.length ≤ levels + 1 ∧ tree.Finds scope location path names
          ∧ file = path.descend names := by
  induction levels generalizing location path with
  | zero =>
    rw [walk, mem_filesIn]
    constructor
    · rintro ⟨name, hname, hfile, htaken, rfl⟩
      exact ⟨[name], Nat.le_refl _, .file hname hfile htaken, rfl⟩
    · rintro ⟨names, hlength, hfinds, rfl⟩
      cases hfinds with
      | file hname hfile htaken => exact ⟨_, hname, hfile, htaken, rfl⟩
      | directory _ hbelow =>
        -- Below a directory there is one more name, which is too many for no level.
        have := List.length_pos_iff.mpr hbelow.ne_nil
        simp only [List.length_cons] at hlength
        omega
  | succ levels ih =>
    rw [walk, List.mem_append, mem_filesIn, List.mem_flatMap]
    simp only [ih]
    constructor
    · rintro (⟨name, hname, hfile, htaken, rfl⟩ | ⟨name, hentered, names, hlength, hbelow, rfl⟩)
      · exact ⟨[name], by simp, .file hname hfile htaken, rfl⟩
      · exact ⟨name :: names, by simpa using hlength, .directory hentered hbelow,
          Path.child_descend path name names⟩
    · rintro ⟨names, hlength, hfinds, rfl⟩
      cases hfinds with
      | file hname hfile htaken => exact .inl ⟨_, hname, hfile, htaken, rfl⟩
      | directory hentered hbelow =>
        exact .inr ⟨_, hentered, _, by simpa using hlength, hbelow,
          (Path.child_descend path _ _).symm⟩

/-- A directory lists no file twice. -/
theorem filesIn_nodup (htree : tree.WellFormed) : (tree.filesIn scope location path).Nodup := by
  refine ((namesIn_nodup htree location).filter _).filterMap fun name other file hname hother => ?_
  simp only [Option.mem_def, Option.ite_none_right_eq_some, Option.some.injEq] at hname hother
  exact List.singleton_injective (path.descend_injective (hname.2.trans hother.2.symm))

/-- A walk finds every file once: the files of a directory have one more name than the directory,
and below it the next name tells files apart. -/
theorem walk_nodup (htree : tree.WellFormed) (levels : Nat) :
    (tree.walk scope levels location path).Nodup := by
  induction levels generalizing location path with
  | zero => exact filesIn_nodup htree
  | succ levels ih =>
    rw [walk, List.nodup_append']
    refine ⟨filesIn_nodup htree, List.nodup_flatMap.mpr ⟨fun name _ => ih, ?_⟩, ?_⟩
    · refine ((namesIn_nodup htree location).filter _).imp fun hne file hfile hother => ?_
      obtain ⟨names, -, -, rfl⟩ := mem_walk.mp hfile
      obtain ⟨others, -, -, heq⟩ := mem_walk.mp hother
      rw [Path.child_descend, Path.child_descend] at heq
      exact hne (List.cons.inj (path.descend_injective heq)).1
    · intro file hfile hbelow
      obtain ⟨name, -, -, -, rfl⟩ := mem_filesIn.mp hfile
      obtain ⟨other, -, hbelow⟩ := List.mem_flatMap.mp hbelow
      obtain ⟨names, -, hfinds, heq⟩ := mem_walk.mp hbelow
      have hnames : path.descend [name] = path.descend (other :: names) :=
        heq.trans (Path.child_descend path other names)
      exact hfinds.ne_nil (List.cons.inj (path.descend_injective hnames)).2.symm

/-! ## Source files of a project -/

section SourceFiles

variable {working : Location} {root base : Path} {exclusions : List String}
  {foreignRoots : List Path}

/-- Names lead from the directory of a project to each of its source files, and no other project has
its directory on the way. -/
theorem exists_of_mem_sourceFiles (htree : tree.WellFormed) {file : Path}
    (h : file ∈ tree.sourceFiles working root base exclusions foreignRoots) :
    ∃ names, names ≠ [] ∧ (∀ name ∈ names, IsEntryName name) ∧ file = root.descend names
      ∧ ∀ way rest, names = way ++ rest → way ≠ [] → rest ≠ [] →
          root.descend way ∉ foreignRoots := by
  unfold sourceFiles at h
  split at h
  · cases h
  next location hlocation =>
    obtain ⟨names, -, hfinds, rfl⟩ := mem_walk.mp ((List.mergeSort_perm _ _).mem_iff.mp h)
    refine ⟨names, hfinds.ne_nil, hfinds.isEntryName htree, rfl, ?_⟩
    intro way rest hnames hway hrest hforeign
    have hskipped := hfinds.not_skipped hnames hway hrest
    simp only [WalkScope.skipsDirectory, Bool.or_eq_false_iff, List.contains_eq_mem,
      decide_eq_false_iff_not] at hskipped
    refine hskipped.1.2 (List.mem_filter.mpr ⟨hforeign, ?_⟩)
    -- The directory lies below the root of the walk, so it is not the root itself.
    have hne : root.descend way ≠ root := fun heq =>
      hway (List.append_right_eq_self.mp (congrArg Path.parts heq))
    simpa using hne

/-- The source files of a project are those that a walk of its directory finds, however far down
they lie. -/
theorem mem_sourceFiles {file : Path} :
    file ∈ tree.sourceFiles working root base exclusions foreignRoots
      ↔ ∃ location names, tree.locate working root = .ok location
          ∧ tree.Finds ⟨base, exclusions, foreignRoots.filter fun path => path ≠ root⟩ location root
              names
          ∧ file = root.descend names := by
  unfold sourceFiles
  split
  next fault hfault => simp [hfault]
  next location hlocation =>
    rw [Path.mem_sorted, mem_walk]
    constructor
    · rintro ⟨names, -, hfinds, hfile⟩
      exact ⟨location, names, hlocation, hfinds, hfile⟩
    · rintro ⟨other, names, hother, hfinds, hfile⟩
      obtain rfl : location = other := Except.ok.inj (hlocation.symm.trans hother)
      exact ⟨names, Nat.le_succ_of_le hfinds.length_le_depth, hfinds, hfile⟩

/-- The source files of a project are in order. -/
theorem pairwise_sourceFiles :
    (tree.sourceFiles working root base exclusions foreignRoots).Pairwise fun file other =>
      file.precedes other = true := by
  unfold sourceFiles
  split
  · exact List.Pairwise.nil
  · exact Path.pairwise_sorted _

/-- The source files of a project are all different. -/
theorem sourceFiles_nodup (htree : tree.WellFormed) :
    (tree.sourceFiles working root base exclusions foreignRoots).Nodup := by
  unfold sourceFiles
  split
  · exact List.nodup_nil
  · exact (List.mergeSort_perm _ _).nodup_iff.mpr (walk_nodup htree _)

end SourceFiles

end FileTree

end WorkspaceLint
