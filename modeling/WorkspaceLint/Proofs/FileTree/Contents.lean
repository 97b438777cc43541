import Mathlib.Data.List.Basic
import WorkspaceLint.FileTree.Glob
import WorkspaceLint.FileTree.Host
import WorkspaceLint.Workspace.Discovery

/-!
# What files hold

Only reading a file looks into it. Every other question about a file tree, such as where a path
leads, which paths a pattern matches and which source files a walk finds, has the same answer when
files hold something else: `locate_mapFiles`, `resolve_mapFiles`, `glob_mapFiles`,
`sourceFiles_mapFiles`.

Replacing what one file holds, `Host.withFile`, is the case that matters: reading gives what was put
there where a path reads that file, `readFile_withFile_of_readsFrom`, and what it gave before
everywhere else, `readFile_withFile_of_not_readsFrom`.
-/

namespace WorkspaceLint

variable {F G : Type}

/-- An entry with what it holds changed, if it is a file. -/
def Entry.mapFile (change : F → G) : Entry F → Entry G
  | .directory => .directory
  | .link target => .link target
  | .file contents => .file (change contents)

namespace FileTree

/-- A tree with what its files hold changed. -/
def mapFiles (change : Location → F → G) (tree : FileTree F) : FileTree G :=
  ⟨tree.entries.map fun entry => (entry.1, entry.2.mapFile (change entry.1))⟩

variable (change : Location → F → G) (tree : FileTree F)

/-! ## Names and entries -/

/-- At each location stands what stood there, with the bytes that the change makes of it. -/
theorem entryAt_mapFiles (location : Location) :
    (tree.mapFiles change).entryAt location
      = (tree.entryAt location).map (Entry.mapFile (change location)) := by
  cases location with
  | nil => rfl
  | cons name names =>
    simp only [entryAt, mapFiles, List.find?_map, Option.map_map, Function.comp_def]
    cases hentry : tree.entries.find? fun entry => entry.1 == name :: names with
    | none => rfl
    | some entry =>
      have hlocation : entry.1 = name :: names := by simpa using List.find?_some hentry
      rw [Option.map_some, Option.map_some, hlocation]

/-- A directory holds the same names. -/
theorem namesIn_mapFiles (directory : Location) :
    (tree.mapFiles change).namesIn directory = tree.namesIn directory := by
  simp only [namesIn, mapFiles, List.filterMap_map, Function.comp_def]

/-- The tree is as deep as before. -/
theorem depth_mapFiles : (tree.mapFiles change).depth = tree.depth := by
  simp only [depth, mapFiles, List.map_map, Function.comp_def]

/-- There are as many links as before. -/
theorem linkCount_mapFiles : (tree.mapFiles change).linkCount = tree.linkCount := by
  simp only [linkCount, mapFiles, List.filter_map, List.length_map]
  congr 2
  funext entry
  cases h : entry.2 <;> simp [Entry.mapFile, h]

/-- The same locations are directories. -/
theorem isRealDirectory_mapFiles (location : Location) :
    (tree.mapFiles change).isRealDirectory location = tree.isRealDirectory location := by
  rw [isRealDirectory, isRealDirectory, entryAt_mapFiles]
  cases tree.entryAt location with
  | none => rfl
  | some entry => cases entry <;> rfl

/-! ## Where paths lead -/

/-- Following names does not read any file, if following a link does not. -/
theorem follow_mapFiles
    (throughLink : Location → List String → Except PathFault Location) (location : Location)
    (names : List String) :
    (tree.mapFiles change).follow throughLink location names
      = tree.follow throughLink location names := by
  induction names generalizing location with
  | nil => rfl
  | cons name names ih =>
    rw [follow, follow, isRealDirectory_mapFiles, entryAt_mapFiles, ih, ih, ih]
    cases tree.entryAt (location ++ [name]) with
    | none => rfl
    | some entry => cases entry <;> rfl

/-- Links are followed the same way, however many of them may still be met. -/
theorem followWithin_mapFiles (links : Nat) :
    (tree.mapFiles change).followWithin links = tree.followWithin links := by
  induction links with
  | zero =>
    funext location names
    exact follow_mapFiles change tree _ location names
  | succ links ih =>
    funext location names
    rw [followWithin, followWithin, ih]
    exact follow_mapFiles change tree _ location names

/-- A path leads to the same location. -/
theorem locate_mapFiles (working : Location) (path : Path) :
    (tree.mapFiles change).locate working path = tree.locate working path := by
  rw [locate, locate, followWithin_mapFiles]

/-- What is looked up is what was there, changed by its location. -/
theorem lookup_mapFiles (working : Location) (path : Path) :
    (tree.mapFiles change).lookup working path
      = (tree.locate working path).bind fun location =>
          (tree.lookup working path).map (Entry.mapFile (change location)) := by
  rw [lookup, lookup, locate_mapFiles]
  cases tree.locate working path with
  | error fault => rfl
  | ok location =>
    simp only [entryAt_mapFiles]
    cases tree.entryAt location <;> rfl

/-- A question that does not look into files has the same answer. -/
theorem probe_mapFiles {question : Entry F → Bool} {question' : Entry G → Bool}
    (hquestion : ∀ location entry, question' (entry.mapFile (change location)) = question entry)
    (working : Location) (path : Path) :
    (tree.mapFiles change).probe working question' path = tree.probe working question path := by
  rw [probe, probe, lookup_mapFiles, lookup]
  cases tree.locate working path with
  | error fault => cases fault <;> rfl
  | ok location =>
    cases hentry : tree.entryAt location with
    | none => simp [hentry, Except.bind, Except.map]
    | some entry => simp [hentry, Except.bind, Except.map, hquestion]

/-- The same paths exist. -/
theorem exists?_mapFiles (working : Location) (path : Path) :
    (tree.mapFiles change).exists? working path = tree.exists? working path :=
  probe_mapFiles change tree (fun _ _ => rfl) working path

/-- The same paths are directories. -/
theorem isDirectory?_mapFiles (working : Location) (path : Path) :
    (tree.mapFiles change).isDirectory? working path = tree.isDirectory? working path :=
  probe_mapFiles change tree (fun _ entry => by cases entry <;> rfl) working path

/-- The same paths are files. -/
theorem isFile?_mapFiles (working : Location) (path : Path) :
    (tree.mapFiles change).isFile? working path = tree.isFile? working path :=
  probe_mapFiles change tree (fun _ entry => by cases entry <;> rfl) working path

/-- The same entries count as directories in a walk. -/
theorem holdsDirectory_mapFiles (directory : Location) (name : String) :
    (tree.mapFiles change).holdsDirectory directory name = tree.holdsDirectory directory name := by
  simp only [holdsDirectory, followWithin_mapFiles, isRealDirectory_mapFiles]

/-! ## What patterns match -/

/-- The same directories lie below a path. -/
theorem directoriesBelow_mapFiles (levels : Nat) (location : Location) (path : Path) :
    (tree.mapFiles change).directoriesBelow levels location path
      = tree.directoriesBelow levels location path := by
  induction levels generalizing location path with
  | zero => rfl
  | succ levels ih =>
    simp only [directoriesBelow, namesIn_mapFiles, isRealDirectory_mapFiles, ih]

/-- A scan lists names, and never what files hold. -/
theorem scan_mapFiles (working : Location) (path : Path) :
    (tree.mapFiles change).scan working path = tree.scan working path := by
  simp only [scan, locate_mapFiles, namesIn_mapFiles]

/-- The same entries lead to directories for a pattern. -/
theorem leadsToDirectory?_mapFiles (working location : Location) (path : Path) (name : String) :
    (tree.mapFiles change).leadsToDirectory? working location path name
      = tree.leadsToDirectory? working location path name := by
  simp only [leadsToDirectory?, entryAt_mapFiles, isDirectory?_mapFiles]
  cases tree.entryAt (location ++ [name]) with
  | none => rfl
  | some entry => cases entry <;> rfl

/-- The parts of a pattern select the same paths, by induction on the parts. -/
theorem select_mapFiles (working : Location) (directoriesOnly : Bool) (parts : List GlobPart) :
    (tree.mapFiles change).select working directoriesOnly parts
      = tree.select working directoriesOnly parts := by
  induction parts with
  | nil => rfl
  | cons part parts ih =>
    funext path
    cases part <;>
      simp only [select, isDirectory?_mapFiles, exists?_mapFiles, scan_mapFiles,
        leadsToDirectory?_mapFiles, locate_mapFiles, depth_mapFiles, directoriesBelow_mapFiles, ih]

/-- A pattern matches the same paths. -/
theorem glob_mapFiles (working : Location) (directory : Path) (pattern : Glob) :
    (tree.mapFiles change).glob working directory pattern = tree.glob working directory pattern := by
  simp only [glob, isDirectory?_mapFiles, select_mapFiles]

/-! ## What paths resolve to -/

/-- Finding where a path really leads reads no file, if replacing a link does not. -/
theorem realFrom_mapFiles (replace : LinkTable → Location → String → Progress) (links : LinkTable)
    (location : Location) (pieces : List String) :
    (tree.mapFiles change).realFrom replace links location pieces
      = tree.realFrom replace links location pieces := by
  induction pieces generalizing links location with
  | nil => rfl
  | cons piece pieces ih =>
    simp only [realFrom, entryAt_mapFiles, ih]
    cases tree.entryAt (location ++ [piece]) with
    | none => rfl
    | some entry => cases entry <;> rfl

/-- Links are replaced the same way, however deep they are nested. -/
theorem realWithin_mapFiles (nested : Nat) :
    (tree.mapFiles change).realWithin nested = tree.realWithin nested := by
  induction nested with
  | zero => rfl
  | succ nested ih =>
    funext links location target
    rw [realWithin, realWithin, ih, realFrom_mapFiles]

/-- A path really leads to the same place. -/
theorem real_mapFiles (working : Location) (path : Path) :
    (tree.mapFiles change).real working path = tree.real working path := by
  simp only [real, realFrom_mapFiles, realWithin_mapFiles, linkCount_mapFiles]

/-- A path has the same resolved form, or the same fault. -/
theorem resolve_mapFiles (working : Location) (path : Path) :
    (tree.mapFiles change).resolve working path = tree.resolve working path := by
  simp only [resolve, real_mapFiles, lookup_mapFiles]
  cases hlocation : tree.locate working (tree.real working path) with
  | error fault => cases fault <;> simp only [lookup, hlocation, Except.bind]
  | ok location =>
    cases hentry : tree.entryAt location <;>
      simp only [lookup, hlocation, hentry, Except.bind, Except.map]

/-! ## What walks find -/

/-- A walk finds the same files, level by level. -/
theorem walk_mapFiles (scope : WalkScope) (levels : Nat) (location : Location) (path : Path) :
    (tree.mapFiles change).walk scope levels location path
      = tree.walk scope levels location path := by
  induction levels generalizing location path with
  | zero => simp only [walk, filesIn, namesIn_mapFiles, holdsDirectory_mapFiles]
  | succ levels ih =>
    simp only [walk, filesIn, entered, namesIn_mapFiles, holdsDirectory_mapFiles,
      isRealDirectory_mapFiles, ih]

/-- A project has the same source files. -/
theorem sourceFiles_mapFiles (working : Location) (root base : Path) (exclusions : List String)
    (foreignRoots : List Path) :
    (tree.mapFiles change).sourceFiles working root base exclusions foreignRoots
      = tree.sourceFiles working root base exclusions foreignRoots := by
  simp only [sourceFiles, locate_mapFiles, depth_mapFiles, walk_mapFiles]

end FileTree

/-! ## Hosts -/

namespace Host

/-- A host with what its files hold changed. -/
def mapFiles (change : Location → F → G) (host : Host F) : Host G :=
  ⟨host.tree.mapFiles change, host.working, host.home, host.platform⟩

/-- The home directory that a path begins with is the same. -/
theorem expandHome_mapFiles (change : Location → F → G) (host : Host F) (path : Path) :
    (host.mapFiles change).expandHome path = host.expandHome path := rfl

/-- The host resolves paths the same way. -/
theorem resolve_mapFiles (change : Location → F → G) (host : Host F) (path : Path) :
    (host.mapFiles change).resolve path = host.resolve path := by
  simp only [resolve, mapFiles, FileTree.resolve_mapFiles]

/-- The host has the same directories. -/
theorem isDirectory?_mapFiles (change : Location → F → G) (host : Host F) (path : Path) :
    (host.mapFiles change).isDirectory? path = host.isDirectory? path :=
  congrArg (Except.mapError _) (FileTree.isDirectory?_mapFiles change host.tree host.working path)

/-- The host has the same files. -/
theorem isFile?_mapFiles (change : Location → F → G) (host : Host F) (path : Path) :
    (host.mapFiles change).isFile? path = host.isFile? path :=
  congrArg (Except.mapError _) (FileTree.isFile?_mapFiles change host.tree host.working path)

/-! ## Replacing what one file holds -/

/-- Reading a path reads the file at a place. -/
def ReadsFrom (host : Host F) (path : Path) (place : Location) : Prop :=
  host.tree.locate host.working path = .ok place ∧ ∃ contents, host.readFile path = .ok contents

/-- A host on which the file at a place, if there is one, holds something else. -/
def withFile (host : Host F) (place : Location) (contents : F) : Host F :=
  host.mapFiles fun location old => if location = place then contents else old

variable {host : Host F} {path : Path} {place : Location} (contents : F)

/-- What is read on a host with changed files is what was read before, with the change of the place
where the path leads. -/
theorem readFile_mapFiles {location : Location} (change : Location → F → G)
    (h : host.tree.locate host.working path = .ok location) :
    (host.mapFiles change).readFile path = (host.readFile path).map (change location) := by
  simp only [readFile, mapFiles, FileTree.lookup_mapFiles]
  simp only [FileTree.lookup, h]
  cases FileTree.hasNull path with
  | true => rfl
  | false =>
    cases host.tree.entryAt location with
    | none => rfl
    | some entry => cases entry <;> simp [Except.bind, Except.map, Entry.mapFile]

/-- A path that reads the file reads what was put there. -/
theorem readFile_withFile_of_readsFrom (h : host.ReadsFrom path place) :
    (host.withFile place contents).readFile path = .ok contents := by
  obtain ⟨hlocation, old, hread⟩ := h
  rw [withFile, readFile_mapFiles _ hlocation, hread, Except.map, if_pos rfl]

/-- Any other path reads what it read before. -/
theorem readFile_withFile_of_not_readsFrom (h : ¬ host.ReadsFrom path place) :
    (host.withFile place contents).readFile path = host.readFile path := by
  cases hlocation : host.tree.locate host.working path with
  | error fault =>
    simp only [readFile, withFile, mapFiles, FileTree.lookup_mapFiles]
    simp only [FileTree.lookup, hlocation, Except.bind]
  | ok location =>
    rw [withFile, readFile_mapFiles _ hlocation]
    cases hread : host.readFile path with
    | error fault => rfl
    | ok old =>
      have hother : location ≠ place := by
        rintro rfl
        exact h ⟨hlocation, old, hread⟩
      rw [Except.map, if_neg hother]

end Host

end WorkspaceLint
