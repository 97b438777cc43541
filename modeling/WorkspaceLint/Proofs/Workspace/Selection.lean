import WorkspaceLint.Proofs.FileTree.Enumeration
import WorkspaceLint.Proofs.Workspace.Exclusion

/-!
# Which source files a project has

The walk of a project is told entry by entry: a file belongs to the project if at each name on the
way from the project's directory down to it stands a directory that may be entered, and at the last
name a source file. Nothing is said here of the order in which the walk comes by, of the levels that
bound it, or of what it keeps out of with a directory.

* `FileTree.finds_iff` — the walk, as a condition on the beginnings of the way.
* `skipsDirectory_eq_false_iff`, `takesFile_iff` — the two tests of the walk.
* `sourceFiles_selected` — the source files of a project, in order.
-/

namespace WorkspaceLint

variable {F : Type} {tree : FileTree F}

namespace FileTree

/-- A directory is one of the names that are held above it. -/
theorem mem_namesIn_of_isRealDirectory {location : Location} {name : String}
    (h : tree.isRealDirectory (location ++ [name]) = true) : name ∈ tree.namesIn location := by
  unfold isRealDirectory at h
  split at h
  next hentry =>
    unfold entryAt at hentry
    split at hentry
    next hnil => simp at hnil
    next =>
      obtain ⟨entry, hfound, -⟩ := Option.map_eq_some_iff.mp hentry
      obtain hlocation : entry.1 = location ++ [name] := by
        simpa using List.find?_some hfound
      exact mem_namesIn.mpr (hlocation ▸ List.mem_map_of_mem (List.mem_of_find?_eq_some hfound))
  next => cases h

/-- A walk finds the files to which names lead through directories that it enters: each beginning of
the way has to be a directory itself, and one that the walk does not keep out of. -/
theorem finds_iff {scope : WalkScope} {location : Location} {path : Path} {names : List String} :
    tree.Finds scope location path names
      ↔ ∃ way name, names = way ++ [name]
          ∧ (∀ before, before ≠ [] → before <+: way →
              tree.isRealDirectory (location ++ before) = true
              ∧ scope.skipsDirectory (path.descend before) = false)
          ∧ name ∈ tree.namesIn (location ++ way)
          ∧ tree.holdsDirectory (location ++ way) name = false
          ∧ scope.takesFile (path.descend (way ++ [name])) = true := by
  constructor
  · intro h
    induction h with
    | @file location path name hname hfile htaken =>
      refine ⟨[], name, rfl, fun before hne hbefore => ?_, by simpa using hname,
        by simpa using hfile, htaken⟩
      exact absurd (List.prefix_nil.mp hbefore) hne
    | @directory location path first names hentered _ ih =>
      obtain ⟨way, name, rfl, hway, hname, hfile, htaken⟩ := ih
      rw [List.append_assoc] at hname hfile
      rw [Path.child_descend] at htaken
      refine ⟨first :: way, name, rfl, fun before hne hbefore => ?_, hname, hfile, htaken⟩
      obtain ⟨rest, rfl⟩ : ∃ rest, before = first :: rest := by
        cases before with
        | nil => exact absurd rfl hne
        | cons head rest => exact ⟨rest, by rw [(List.cons_prefix_cons.mp hbefore).1]⟩
      -- The first directory on the way was entered, and those below it were entered from there.
      by_cases hrest : rest = []
      · subst hrest
        have htests := (List.mem_filter.mp hentered).2
        rw [Bool.and_eq_true_iff, Bool.not_eq_true'] at htests
        exact htests
      · have hbelow := hway rest hrest (List.cons_prefix_cons.mp hbefore).2
        rwa [List.append_assoc, Path.child_descend] at hbelow
  · rintro ⟨way, name, rfl, hway, hname, hfile, htaken⟩
    induction way generalizing location path with
    | nil =>
      rw [List.append_nil] at hname hfile
      exact .file hname hfile htaken
    | cons first way ih =>
      obtain ⟨hreal, hkept⟩ := hway [first] (List.cons_ne_nil _ _) ⟨way, rfl⟩
      refine .directory (List.mem_filter.mpr ⟨mem_namesIn_of_isRealDirectory hreal, ?_⟩)
        (ih ?_ ?_ ?_ ?_)
      · rw [Bool.and_eq_true_iff, Bool.not_eq_true']
        exact ⟨hreal, hkept⟩
      · intro before hne hbefore
        have hbelow := hway (first :: before) (List.cons_ne_nil _ _)
          (List.cons_prefix_cons.mpr ⟨rfl, hbefore⟩)
        rwa [List.append_assoc, Path.child_descend]
      · rwa [List.append_assoc]
      · rwa [List.append_assoc]
      · rwa [Path.child_descend]

end FileTree

/-! ## The tests of the walk -/

/-- A directory below that of a project may be entered: it is a directory itself and not a link to
one, its name is not that of a directory of tools or build products, it belongs to no other project,
and no exclusion matches it. -/
structure MayEnter (tree : FileTree F) (base : Path) (exclusions : List String)
    (foreignRoots : List Path) (location : Location) (path : Path) : Prop where
  real : tree.entryAt location = some .directory
  notSkipped : path.name ∉ skippedDirectories
  notMetadata : ¬ ".egg-info".toList <:+ path.name.toList
  notForeign : path ∉ foreignRoots
  notExcluded : ∀ pattern ∈ exclusions, ¬ Excludes base pattern path

/-- At a name in a directory stands a source file: an entry that is no directory and no link to one,
the name of which has the ending of source files, and which no exclusion matches. -/
structure HoldsSource (tree : FileTree F) (base : Path) (exclusions : List String)
    (directory : Location) (path : Path) (name : String) : Prop where
  entry : ∃ entry, tree.entryAt (directory ++ [name]) = some entry
  notDirectory : tree.holdsDirectory directory name = false
  ending : ".py".toList <:+ name.toList
  notExcluded : ∀ pattern ∈ exclusions, ¬ Excludes base pattern path

namespace FileTree

/-- A location is a directory if and only if one stands there. -/
theorem isRealDirectory_iff {location : Location} :
    tree.isRealDirectory location = true ↔ tree.entryAt location = some .directory := by
  unfold isRealDirectory
  split
  next h => simp [h]
  next h => simpa using h

/-- A directory holds a name if and only if something stands there. -/
theorem mem_namesIn_iff_entryAt (htree : tree.WellFormed) {directory : Location} {name : String} :
    name ∈ tree.namesIn directory ↔ ∃ entry, tree.entryAt (directory ++ [name]) = some entry := by
  have hne : directory ++ [name] ≠ [] := List.concat_ne_nil name directory
  simp only [mem_namesIn, entryAt_eq_some_iff htree hne, List.mem_map, Prod.exists]
  exact ⟨fun ⟨location, entry, hmem, h⟩ => ⟨entry, h ▸ hmem⟩,
    fun ⟨entry, hmem⟩ => ⟨_, entry, hmem, rfl⟩⟩

/-- The names on the location of an entry lead down to a proper path. -/
theorem descend_isProper_of_entryAt (htree : tree.WellFormed) {root : Path} (hroot : root.IsProper)
    {location names : List String} (hne : names ≠ []) {entry : Entry F}
    (h : tree.entryAt (location ++ names) = some entry) : (root.descend names).IsProper := by
  have hmem := (entryAt_eq_some_iff htree (List.append_ne_nil_of_right_ne_nil location hne)).mp h
  have hnamed := htree.named _ (List.mem_map_of_mem hmem)
  exact List.forall_mem_append.mpr
    ⟨hroot, fun name hname => (hnamed name (List.mem_append_right _ hname)).1⟩

end FileTree

/-- A directory is not skipped if its name is none of those and has no such ending. -/
theorem isSkippedName_eq_false_iff {name : String} :
    isSkippedName name = false
      ↔ name ∉ skippedDirectories ∧ ¬ ".egg-info".toList <:+ name.toList := by
  rw [isSkippedName, Bool.or_eq_false_iff, ← Bool.not_eq_true, List.contains_iff_mem,
    ← Bool.not_eq_true, List.isSuffixOf_iff_suffix]

section

variable {root base : Path} {exclusions : List String} {foreignRoots : List Path}
  (htree : tree.WellFormed) (hroot : root.IsProper) (hbase : base.IsProper)
  {location : Location}

include htree hroot hbase

/-- A walk enters a directory below its root exactly if it may. The root itself is never on the way,
so it does not matter whether it is among the directories of other projects. -/
theorem mayEnter_iff {way : List String} (hne : way ≠ []) :
    tree.isRealDirectory (location ++ way) = true
        ∧ WalkScope.skipsDirectory ⟨base, exclusions, foreignRoots.filter fun path => path ≠ root⟩
            (root.descend way) = false
      ↔ MayEnter tree base exclusions foreignRoots (location ++ way) (root.descend way) := by
  have hbelow : root.descend way ≠ root := fun heq =>
    hne (List.append_right_eq_self.mp (congrArg Path.parts heq))
  have hforeign : (foreignRoots.filter fun path => path ≠ root).contains (root.descend way) = false
      ↔ root.descend way ∉ foreignRoots := by
    rw [← Bool.not_eq_true, List.contains_iff_mem, List.mem_filter]
    simp [hbelow]
  have hexcluded (hreal : tree.entryAt (location ++ way) = some .directory) :
      isExcluded exclusions base (root.descend way) = false
        ↔ ∀ pattern ∈ exclusions, ¬ Excludes base pattern (root.descend way) :=
    isExcluded_eq_false_iff (FileTree.descend_isProper_of_entryAt htree hroot hne hreal) hbase
  rw [FileTree.isRealDirectory_iff, WalkScope.skipsDirectory, Bool.or_eq_false_iff,
    Bool.or_eq_false_iff, isSkippedName_eq_false_iff, hforeign]
  constructor
  · rintro ⟨hreal, ⟨⟨hskipped, hmetadata⟩, hforeign⟩, hkept⟩
    exact ⟨hreal, hskipped, hmetadata, hforeign, (hexcluded hreal).mp hkept⟩
  · intro h
    exact ⟨h.real, ⟨⟨h.notSkipped, h.notMetadata⟩, h.notForeign⟩,
      (hexcluded h.real).mpr h.notExcluded⟩

/-- A walk takes a name in a directory exactly if a source file stands there. -/
theorem holdsSource_iff {way : List String} {name : String} :
    name ∈ tree.namesIn (location ++ way) ∧ tree.holdsDirectory (location ++ way) name = false
        ∧ WalkScope.takesFile ⟨base, exclusions, foreignRoots⟩ (root.descend (way ++ [name])) = true
      ↔ HoldsSource tree base exclusions (location ++ way) (root.descend (way ++ [name])) name := by
  have hname : (root.descend (way ++ [name])).name = name := by simp [Path.name, Path.descend]
  have hexcluded {entry : Entry F} (hentry : tree.entryAt (location ++ way ++ [name]) = some entry) :
      isExcluded exclusions base (root.descend (way ++ [name])) = false
        ↔ ∀ pattern ∈ exclusions, ¬ Excludes base pattern (root.descend (way ++ [name])) :=
    isExcluded_eq_false_iff (FileTree.descend_isProper_of_entryAt htree hroot
      (List.concat_ne_nil name way) (List.append_assoc location way [name] ▸ hentry)) hbase
  rw [FileTree.mem_namesIn_iff_entryAt htree, WalkScope.takesFile, Bool.and_eq_true_iff,
    Bool.not_eq_true', isSourceName, hname, List.isSuffixOf_iff_suffix]
  constructor
  · rintro ⟨⟨entry, hentry⟩, hfile, hending, hkept⟩
    exact ⟨⟨entry, hentry⟩, hfile, hending, (hexcluded hentry).mp hkept⟩
  · rintro ⟨⟨entry, hentry⟩, hfile, hending, hkept⟩
    exact ⟨⟨entry, hentry⟩, hfile, hending, (hexcluded hentry).mpr hkept⟩

end

/-! ## Source files in order -/

namespace FileTree

section

variable {working : Location} {root base : Path} {exclusions : List String}
  {foreignRoots : List Path}

/-- Of two source files, the one that comes first precedes the other, and not the other way round.
-/
theorem sourceFiles_increasing (htree : tree.WellFormed) (hroot : root.IsProper) :
    (tree.sourceFiles working root base exclusions foreignRoots).Pairwise fun file other =>
      file.precedes other = true ∧ other.precedes file = false := by
  have hproper : ∀ file ∈ tree.sourceFiles working root base exclusions foreignRoots,
      file.IsProper := by
    intro file hfile
    obtain ⟨names, -, hnames, rfl, -⟩ := exists_of_mem_sourceFiles htree hfile
    exact List.forall_mem_append.mpr ⟨hroot, fun name hname => (hnames name hname).1⟩
  refine (pairwise_sourceFiles.and (sourceFiles_nodup htree)).imp_of_mem
    fun {file other} hfile hother ⟨hle, hne⟩ => ⟨hle, ?_⟩
  rw [← Bool.not_eq_true]
  intro hge
  exact hne (Path.eq_of_components_eq (hproper file hfile) (hproper other hother)
    (Path.eq_of_namesPrecede hle hge))

/-- A directory among those of the other projects that is the project's own has no effect. -/
theorem sourceFiles_own_root :
    tree.sourceFiles working root base exclusions (root :: foreignRoots)
      = tree.sourceFiles working root base exclusions foreignRoots := by
  have hfilter : ((root :: foreignRoots).filter fun path => path ≠ root)
      = foreignRoots.filter fun path => path ≠ root := by
    rw [List.filter_cons_of_neg]
    simp
  unfold sourceFiles
  simp only [hfilter]

end

end FileTree

/-- A tree with a project that has a source file below a directory with a link back to it, and
others in a directory of build products, in the directory of another project and under an exclusion.
-/
def tangledTree : FileTree Unit :=
  ⟨[(["w"], .directory), (["w", "a"], .directory), (["w", "a", "m.py"], .file ()),
    (["w", "a", "back"], .link ".."), (["w", "b"], .directory), (["w", "b", "n.py"], .file ()),
    (["w", "build"], .directory), (["w", "build", "o.py"], .file ()), (["w", "old.py"], .file ())]⟩

end WorkspaceLint
