import Mathlib.Data.List.Perm.Basic
import Mathlib.Data.Option.Basic
import WorkspaceLint.FileTree.Glob
import WorkspaceLint.Proofs.Agreement
import WorkspaceLint.Proofs.Workspace.Walk

/-!
# The order of enumeration

A directory enumerates what it holds in an order that nobody promises. `FileTree.Reorders` relates
trees that differ in nothing else. Where the names of a directory are not enumerated the order is
never seen: `entryAt_reorders`, `locate_reorders`, `resolve_reorders`. Where they are, the same
paths come out in another order, `namesIn_perm`, `directoriesBelow_perm`, `walk_perm`, and a pattern
may meet a name that is too long sooner or later, `glob_agrees`. Sorting takes the order out again,
`Path.sorted_eq_of_perm`, so the source files of a project are the same, `sourceFiles_reorders`.
-/

namespace WorkspaceLint

namespace Path

/-- Lists of names that precede one another are the same. -/
theorem eq_of_namesPrecede {names others : List String} (h : namesPrecede names others = true)
    (h' : namesPrecede others names = true) : names = others := by
  induction names generalizing others with
  | nil =>
    cases others with
    | nil => rfl
    | cons => cases h'
  | cons name names ih =>
    cases others with
    | nil => cases h
    | cons other others =>
      rw [namesPrecede] at h h'
      by_cases hname : name = other
      · subst hname
        rw [if_pos rfl] at h h'
        rw [ih h h']
      · rw [if_neg hname, decide_eq_true_iff] at h
        rw [if_neg (Ne.symm hname), decide_eq_true_iff] at h'
        exact absurd h' (String.lt_asymm h)

/-- Proper paths with the same components are the same: a part is never the text of an anchor. -/
theorem eq_of_components_eq {path other : Path} (hpath : path.IsProper) (hother : other.IsProper)
    (h : path.components = other.components) : path = other := by
  have hslash : ¬ IsName "/" := by decide
  have hslashes : ¬ IsName "//" := by decide
  obtain ⟨anchor, parts⟩ := path
  obtain ⟨anchor', parts'⟩ := other
  cases anchor <;> cases anchor' <;> simp only [components, Anchor.text] at h
  case relative.relative | root.root | doubleRoot.doubleRoot => simp_all
  case relative.root | relative.doubleRoot =>
    have := hpath _ (h ▸ List.mem_cons_self)
    contradiction
  case root.relative | doubleRoot.relative =>
    have := hother _ (h ▸ List.mem_cons_self)
    contradiction
  all_goals simp at h

/-- Sorting takes out the order in which paths were found. -/
theorem sorted_eq_of_perm {paths others : List Path} (hproper : ∀ path ∈ paths, path.IsProper)
    (h : paths.Perm others) : sorted paths = sorted others := by
  refine List.Perm.eq_of_pairwise ?_ (pairwise_sorted paths) (pairwise_sorted others)
    ((sorted_perm paths).trans (h.trans (sorted_perm others).symm))
  intro path other hpath hother hle hge
  exact eq_of_components_eq (hproper path (mem_sorted.mp hpath))
    (hproper other (h.mem_iff.mpr (mem_sorted.mp hother))) (eq_of_namesPrecede hle hge)

end Path

namespace FileTree

variable {F : Type}

/-- Another tree has the same entries, and enumerates them in an order of its own. -/
def Reorders (tree other : FileTree F) : Prop := tree.entries.Perm other.entries

variable {tree other : FileTree F}

/-- A tree stays well-formed when its entries are enumerated in another order. -/
theorem WellFormed.reorders (htree : tree.WellFormed) (h : tree.Reorders other) :
    other.WellFormed :=
  ⟨(h.map _).nodup_iff.mp htree.distinct,
    fun location hlocation => htree.named location ((h.map _).mem_iff.mpr hlocation)⟩

/-- Where each location has one entry, it is found wherever it stands in the list. -/
theorem entryAt_eq_some_iff (htree : tree.WellFormed) {location : Location} (hne : location ≠ [])
    {entry : Entry F} : tree.entryAt location = some entry ↔ (location, entry) ∈ tree.entries := by
  have hfind : tree.entryAt location
      = (tree.entries.find? fun entry => entry.1 == location).map (·.2) := by
    cases location with
    | nil => contradiction
    | cons => rfl
  rw [hfind, Option.map_eq_some_iff]
  constructor
  · rintro ⟨found, hfound, rfl⟩
    have hlocation : found.1 = location := by simpa using List.find?_some hfound
    exact hlocation ▸ List.mem_of_find?_eq_some hfound
  · intro hmem
    obtain ⟨found, hfound⟩ : ∃ found, tree.entries.find? (fun entry => entry.1 == location)
        = some found := by
      rw [← Option.isSome_iff_exists, List.find?_isSome]
      exact ⟨_, hmem, beq_self_eq_true location⟩
    have hlocation : found.1 = location := by simpa using List.find?_some hfound
    -- Only one entry stands at a location, so the first one that is found is the entry.
    have heq : found = (location, entry) :=
      List.inj_on_of_nodup_map htree.distinct (List.mem_of_find?_eq_some hfound) hmem hlocation
    exact ⟨found, hfound, congrArg Prod.snd heq⟩

/-! ## What does not enumerate -/

/-- The order of enumeration does not change how deep a tree is. -/
theorem depth_reorders (h : tree.Reorders other) : other.depth = tree.depth :=
  ((h.map _).foldr_op_eq).symm

/-- It does not change how many links there are. -/
theorem linkCount_reorders (h : tree.Reorders other) : other.linkCount = tree.linkCount :=
  (h.filter _).length_eq.symm

section

variable (htree : tree.WellFormed) (h : tree.Reorders other)

include htree h

/-- It does not change what stands at a location. -/
theorem entryAt_reorders : other.entryAt = tree.entryAt := by
  funext location
  by_cases hne : location = []
  · subst hne
    rfl
  · apply Option.ext
    intro entry
    rw [entryAt_eq_some_iff (htree.reorders h) hne, entryAt_eq_some_iff htree hne]
    exact h.symm.mem_iff

/-- It does not change which locations are directories. -/
theorem isRealDirectory_reorders : other.isRealDirectory = tree.isRealDirectory := by
  funext location
  rw [isRealDirectory, isRealDirectory, entryAt_reorders htree h]

/-- Following names does not see the order, if following a link does not. -/
theorem follow_reorders (throughLink : Location → List String → Except PathFault Location) :
    other.follow throughLink = tree.follow throughLink := by
  funext location names
  induction names generalizing location with
  | nil => rfl
  | cons name names ih =>
    simp only [follow, isRealDirectory_reorders htree h, entryAt_reorders htree h, ih]

/-- Links are followed the same way, however many of them may still be met. -/
theorem followWithin_reorders (links : Nat) :
    other.followWithin links = tree.followWithin links := by
  induction links with
  | zero => exact follow_reorders htree h _
  | succ links ih => rw [followWithin, followWithin, ih, follow_reorders htree h]

/-- A path leads to the same location. -/
theorem locate_reorders : other.locate = tree.locate := by
  funext working path
  rw [locate, locate, followWithin_reorders htree h]

/-- The same entry is looked up. -/
theorem lookup_reorders : other.lookup = tree.lookup := by
  funext working path
  rw [lookup, lookup, locate_reorders htree h, entryAt_reorders htree h]

/-- What the system says of a path is the same. -/
theorem probe_reorders : other.probe = tree.probe := by
  funext working question path
  rw [probe, probe, lookup_reorders htree h]

/-- The same paths are directories. -/
theorem isDirectory?_reorders : other.isDirectory? = tree.isDirectory? := by
  funext working path
  rw [isDirectory?, isDirectory?, probe_reorders htree h]

/-- The same paths are files. -/
theorem isFile?_reorders : other.isFile? = tree.isFile? := by
  funext working path
  rw [isFile?, isFile?, probe_reorders htree h]

/-- The same paths exist. -/
theorem exists?_reorders : other.exists? = tree.exists? := by
  funext working path
  rw [exists?, exists?, probe_reorders htree h]

/-- The same entries count as directories in a walk. -/
theorem holdsDirectory_reorders : other.holdsDirectory = tree.holdsDirectory := by
  funext directory name
  rw [holdsDirectory, holdsDirectory, followWithin_reorders htree h,
    isRealDirectory_reorders htree h]

/-- Finding where a path really leads does not see the order, if replacing a link does not. -/
theorem realFrom_reorders (replace : LinkTable → Location → String → Progress) :
    other.realFrom replace = tree.realFrom replace := by
  funext links location pieces
  induction pieces generalizing links location with
  | nil => rfl
  | cons piece pieces ih => simp only [realFrom, entryAt_reorders htree h, ih]

/-- Links are replaced the same way, however deep they are nested. -/
theorem realWithin_reorders (nested : Nat) : other.realWithin nested = tree.realWithin nested := by
  induction nested with
  | zero => rfl
  | succ nested ih =>
    funext links location target
    rw [realWithin, realWithin, ih, realFrom_reorders htree h]

/-- A path has the same resolved form, or the same fault. -/
theorem resolve_reorders : other.resolve = tree.resolve := by
  funext working path
  have hreal : other.real working path = tree.real working path := by
    rw [real, real, linkCount_reorders h, realWithin_reorders htree h, realFrom_reorders htree h]
  rw [resolve, resolve, hreal, lookup_reorders htree h]

end

/-! ## What enumerates -/

/-- A directory holds the same names in some order. -/
theorem namesIn_perm (h : tree.Reorders other) (directory : Location) :
    (tree.namesIn directory).Perm (other.namesIn directory) :=
  h.filterMap _

section

variable (htree : tree.WellFormed) (h : tree.Reorders other)

include htree h

/-- The same directories lie below a path, in some order. -/
theorem directoriesBelow_perm (levels : Nat) (location : Location) (path : Path) :
    (tree.directoriesBelow levels location path).Perm
      (other.directoriesBelow levels location path) := by
  induction levels generalizing location path with
  | zero => exact .refl _
  | succ levels ih =>
    rw [directoriesBelow, directoriesBelow, isRealDirectory_reorders htree h]
    refine List.Perm.cons path (List.Perm.flatMap ((namesIn_perm h location).filter _) ?_)
    exact fun name _ => ih (location ++ [name]) (path.child name)

/-- The same entries lead to directories for a pattern. -/
theorem leadsToDirectory?_reorders :
    other.leadsToDirectory? = tree.leadsToDirectory? := by
  funext working location path name
  rw [leadsToDirectory?, leadsToDirectory?, entryAt_reorders htree h, isDirectory?_reorders htree h]

/-- A scan finds the same names in some order, or meets a name that is too long in both trees. -/
theorem scan_agrees (working : Location) (path : Path) :
    Agree (fun found last => found.1 = last.1 ∧ found.2.Perm last.2) (tree.scan working path)
      (other.scan working path) := by
  rw [scan, scan, locate_reorders htree h]
  split
  · exact .ok ⟨rfl, namesIn_perm h _⟩
  · exact .error _ _
  · exact .ok ⟨rfl, .refl _⟩

/-- A pattern selects the same paths in some order, or meets a name that is too long in both trees.
-/
theorem select_agrees (working : Location) (directoriesOnly : Bool) (parts : List GlobPart)
    (path : Path) :
    Agree List.Perm (tree.select working directoriesOnly parts path)
      (other.select working directoriesOnly parts path) := by
  induction parts generalizing path with
  | nil => exact .ok (.refl _)
  | cons part parts ih =>
    cases part with
    | exact name =>
      simp only [select, isDirectory?_reorders htree h, exists?_reorders htree h]
      split
      · exact .error _ _
      · exact .ok (.refl _)
      · exact ih _
    | pattern pattern =>
      have hscan := scan_agrees htree h working path
      simp only [select, leadsToDirectory?_reorders htree h]
      generalize tree.scan working path = scanned, other.scan working path = last at hscan ⊢
      cases hscan with
      | error => exact .error _ _
      | @ok found listed hlisted =>
        obtain ⟨location, names⟩ := found
        obtain ⟨place, others⟩ := listed
        obtain ⟨rfl, hnames⟩ : location = place ∧ names.Perm others := hlisted
        refine Agree.map ?_ (agree_flatten_of_perm hnames fun name _ => ?_)
        · exact fun _ _ hperm => hperm
        · refine (Agree.of_eq rfl).bind fun suits _ hsuits => ?_
          subst hsuits
          split
          · exact ih (path.child name)
          · exact .ok (.refl _)
    | deep =>
      simp only [select, locate_reorders htree h, depth_reorders h]
      refine Agree.map ?_ (agree_flatten_of_perm ?_ fun directory _ => ?_)
      · -- Erasing repetitions leaves the same paths, which stand in some order again.
        intro found others hperm
        refine (List.perm_ext_iff_of_nodup (nodup_eraseDups _) (nodup_eraseDups _)).mpr fun file => ?_
        rw [List.mem_eraseDups, List.mem_eraseDups, hperm.mem_iff]
      · split
        · exact directoriesBelow_perm htree h tree.depth _ path
        · exact .refl _
      · refine (ih directory).bind fun found last hfound => ?_
        have hscan : Agree (fun _ _ : PUnit => True) (discard (tree.scan working directory))
            (discard (other.scan working directory)) :=
          (scan_agrees htree h working directory).map fun _ _ _ => trivial
        exact hscan.bind fun _ _ _ => .ok hfound

/-- A pattern matches the same paths in some order, or meets a name that is too long in both trees.
-/
theorem glob_agrees (working : Location) (directory : Path) (pattern : Glob) :
    Agree List.Perm (tree.glob working directory pattern)
      (other.glob working directory pattern) := by
  rw [glob, glob, isDirectory?_reorders htree h]
  split
  · exact .error _ _
  · exact .ok (.refl _)
  · exact select_agrees htree h working _ _ directory

/-- A directory has the same files to be listed, in some order. -/
theorem filesIn_perm (scope : WalkScope) (location : Location) (path : Path) :
    (tree.filesIn scope location path).Perm (other.filesIn scope location path) := by
  rw [filesIn, filesIn, holdsDirectory_reorders htree h]
  exact ((namesIn_perm h location).filter _).filterMap _

/-- A walk enters the same directories, in some order. -/
theorem entered_perm (scope : WalkScope) (location : Location) (path : Path) :
    (tree.entered scope location path).Perm (other.entered scope location path) := by
  rw [entered, entered, isRealDirectory_reorders htree h]
  exact (namesIn_perm h location).filter _

/-- A walk finds the same files in some order: at each level, the files of the directory and then
those of the directories in it. -/
theorem walk_perm (scope : WalkScope) (levels : Nat) (location : Location) (path : Path) :
    (tree.walk scope levels location path).Perm (other.walk scope levels location path) := by
  induction levels generalizing location path with
  | zero => exact filesIn_perm htree h scope location path
  | succ levels ih =>
    refine List.Perm.append (filesIn_perm htree h scope location path) ?_
    refine List.Perm.flatMap (entered_perm htree h scope location path) fun name _ => ?_
    exact ih (location ++ [name]) (path.child name)

/-- The source files of a project do not depend on the order of enumeration. -/
theorem sourceFiles_reorders (working : Location) {root : Path} (hroot : root.IsProper)
    (base : Path) (exclusions : List String) (foreignRoots : List Path) :
    other.sourceFiles working root base exclusions foreignRoots
      = tree.sourceFiles working root base exclusions foreignRoots := by
  rw [sourceFiles, sourceFiles, locate_reorders htree h, depth_reorders h]
  split
  · rfl
  · refine (Path.sorted_eq_of_perm ?_ (walk_perm htree h _ _ _ _)).symm
    intro file hfile
    obtain ⟨names, -, hfinds, rfl⟩ := mem_walk.mp hfile
    refine List.forall_mem_append.mpr ⟨hroot, fun name hname => ?_⟩
    exact (hfinds.isEntryName htree name hname).1

end

end FileTree

/-! ## Hosts -/

namespace Host

variable {F : Type}

/-- Another host is the same but for the order in which its directories enumerate what they hold. -/
structure Reorders (host other : Host F) : Prop where
  tree : host.tree.Reorders other.tree
  working : other.working = host.working
  home : other.home = host.home
  platform : other.platform = host.platform

variable {host other : Host F} (hhost : host.tree.WellFormed) (h : host.Reorders other)

include h in
/-- The home directory that a path begins with is the same. -/
theorem expandHome_reorders : other.expandHome = host.expandHome := by
  funext path
  simp only [expandHome, homeOf, h.home, h.platform]

include hhost h

/-- The host resolves paths the same way. -/
theorem resolve_reorders : other.resolve = host.resolve := by
  funext path
  rw [resolve, resolve, FileTree.resolve_reorders hhost h.tree, h.working, h.platform]

/-- The host reads the same bytes, or fails in the same way. -/
theorem readFile_reorders : other.readFile = host.readFile := by
  funext path
  rw [readFile, readFile, FileTree.lookup_reorders hhost h.tree, h.working]

/-- The host has the same directories. -/
theorem isDirectory?_reorders : other.isDirectory? = host.isDirectory? := by
  funext path
  rw [isDirectory?, isDirectory?, FileTree.isDirectory?_reorders hhost h.tree, h.working]

/-- The host has the same files. -/
theorem isFile?_reorders : other.isFile? = host.isFile? := by
  funext path
  rw [isFile?, isFile?, FileTree.isFile?_reorders hhost h.tree, h.working]

/-- On the host the same paths exist. -/
theorem exists?_reorders : other.exists? = host.exists? := by
  funext path
  rw [exists?, exists?, FileTree.exists?_reorders hhost h.tree, h.working]

end Host

end WorkspaceLint
