import WorkspaceLint.Plugin.Loading
import WorkspaceLint.Proofs.FileTree.Enumeration

/-!
# What loading plugins sees of a host

Loading plugins reads files, asks where paths lead and what they resolve to, and looks whether a
directory holds a name. Hosts that give the same answers to this, `Plugin.SameAnswers`, provide the
same checkers and leave the session in the same state, `loadCheckers_sameAnswers`. The order in
which directories enumerate what they hold is not asked for, `Host.Reorders.sameAnswers`.
-/

namespace WorkspaceLint

namespace Plugin

/-- Two hosts give the same answers to what loading plugins asks. -/
structure SameAnswers (host other : Host SourceFile) : Prop where
  readFile : other.readFile = host.readFile
  isFile? : other.isFile? = host.isFile?
  isDirectory? : other.isDirectory? = host.isDirectory?
  exists? : other.exists? = host.exists?
  resolve : other.resolve = host.resolve
  expandHome : other.expandHome = host.expandHome
  working : other.working = host.working
  codecs : other.platform.codecs = host.platform.codecs
  holds : ∀ directory name,
    (namesAt other directory).contains name = (namesAt host directory).contains name
  size : other.tree.entries.length = host.tree.entries.length

variable {host other : Host SourceFile} (h : SameAnswers host other)

include h

/-! ## Finding and importing modules -/

/-- A directory has the same place for a name. -/
theorem placeIn_sameAnswers : placeIn other = placeIn host := by
  funext directory tail
  have hfile : leadsToFile other = leadsToFile host := by
    funext path
    rw [leadsToFile, leadsToFile, h.isFile?]
  have hdirectory : leadsToDirectory other = leadsToDirectory host := by
    funext path
    rw [leadsToDirectory, leadsToDirectory, h.isDirectory?]
  unfold placeIn
  rw [hfile, hdirectory]
  simp only [h.holds]

/-- Directories have the same place for a name. -/
theorem placeAmong_sameAnswers : placeAmong other = placeAmong host := by
  funext tail directories
  rw [placeAmong, placeAmong, placeIn_sameAnswers h]

/-- A module has the same place. -/
theorem placeOf_sameAnswers : placeOf other = placeOf host := by
  funext parent name tail
  have htop : topPlace other name = topPlace host name := by
    rw [topPlace, topPlace, placeAmong_sameAnswers h, h.working]
  have hwithin (directories : List Path) :
      placeWithin other directories name tail = placeWithin host directories name tail := by
    rw [placeWithin, placeWithin, placeAmong_sameAnswers h]
  simp only [placeOf, htop, hwithin]

/-- A file is executed the same way. -/
theorem runFile_sameAnswers : runFile other = runFile host := by
  funext importer handle path
  rw [runFile, runFile, h.readFile, h.codecs]

/-- A module is loaded the same way. -/
theorem loadModule_sameAnswers : loadModule other = loadModule host := by
  funext importer parent name tail
  rw [loadModule, loadModule, placeOf_sameAnswers h, runFile_sameAnswers h]

/-- The parts of a name are imported the same way. -/
theorem importParts_sameAnswers (importer : Importer) :
    importParts other importer = importParts host importer := by
  funext parts
  induction parts with
  | nil => rfl
  | cons tail parents ih => rw [importParts, importParts, ih, loadModule_sameAnswers h]

/-- Imports are nested the same way, by induction on how deep they may be. -/
theorem importWithin_sameAnswers (depth : Nat) :
    importWithin other depth = importWithin host depth := by
  induction depth with
  | zero => rfl
  | succ depth ih => rw [importWithin, importWithin, ih, importParts_sameAnswers h]

/-- A name is imported the same way. -/
theorem importName_sameAnswers : importName other = importName host := by
  rw [importName, importName, importDepth, importDepth, h.size, importWithin_sameAnswers h]

/-! ## Loading what is referred to -/

/-- A reference has the same loader. -/
theorem loaderFor_sameAnswers : loaderFor other = loaderFor host := by
  funext reference
  rw [loaderFor, loaderFor, looksLikePath, looksLikePath, h.exists?]

/-- A reference locates the same plugin. -/
theorem locatePlugin_sameAnswers : locatePlugin other = locatePlugin host := by
  funext reference
  have hsource : sourceAt other = sourceAt host := by
    funext reference path
    rw [sourceAt, sourceAt, h.isDirectory?, h.isFile?]
  have hname (path : Path) : nameOf other path = nameOf host path := by
    rw [nameOf, nameOf, h.resolve]
  simp only [locatePlugin, h.expandHome, hsource, hname]

/-- A plugin is loaded the same way. -/
theorem loadPlugin_sameAnswers : loadPlugin other = loadPlugin host := by
  funext reference
  have hfile : loadFile other reference = loadFile host reference := by
    rw [loadFile, loadFile, locatePlugin_sameAnswers h, runFile_sameAnswers h,
      importName_sameAnswers h]
  have hname : loadByName other reference = loadByName host reference := by
    rw [loadByName, loadByName, importName_sameAnswers h]
  rw [loadPlugin, loadPlugin, loaderFor_sameAnswers h, hfile, hname]

/-- The target of an entry point is loaded the same way. -/
theorem loadTarget_sameAnswers : loadTarget other = loadTarget host := by
  have hmake : makeModule other = makeModule host := by
    funext name statements
    rw [makeModule, makeModule, importName_sameAnswers h]
  funext target
  cases target <;> simp only [loadTarget, hmake]

/-- Entry points are loaded the same way, by induction on them. -/
theorem loadEntries_sameAnswers : loadEntries other = loadEntries host := by
  funext entries
  induction entries with
  | nil => rfl
  | cons entry entries ih => rw [loadEntries, loadEntries, ih, loadTarget_sameAnswers h]

/-- Hosts that give the same answers provide the same checkers, or the same fault. -/
theorem loadCheckers_sameAnswers : loadCheckers other = loadCheckers host := by
  funext installed withInstalled reference
  rw [loadCheckers, loadCheckers, loadPlugin_sameAnswers h, loadEntries_sameAnswers h]

end Plugin

/-- Loading plugins does not see the order of enumeration. -/
theorem Host.Reorders.sameAnswers {host other : Host SourceFile} (h : host.Reorders other)
    (hhost : host.tree.WellFormed) : Plugin.SameAnswers host other where
  readFile := readFile_reorders hhost h
  isFile? := isFile?_reorders hhost h
  isDirectory? := isDirectory?_reorders hhost h
  exists? := exists?_reorders hhost h
  resolve := resolve_reorders hhost h
  expandHome := expandHome_reorders h
  working := h.working
  codecs := congrArg Platform.codecs h.platform
  holds directory name := by
    rw [Plugin.namesAt, Plugin.namesAt, FileTree.locate_reorders hhost h.tree, h.working]
    cases host.tree.locate host.working directory with
    | error fault => rfl
    | ok location =>
      rw [Bool.eq_iff_iff, List.contains_iff_mem, List.contains_iff_mem]
      exact (FileTree.namesIn_perm h.tree location).mem_iff.symm
  size := h.tree.length_eq.symm

end WorkspaceLint
