import WorkspaceLint.Proofs.Workspace.Loading
import WorkspaceLint.Proofs.Workspace.Walk

/-!
# To which projects a source file belongs

The walk of a project keeps out of the directories of all other projects, so a source file below the
directories of two projects belongs to the inner one. Projects with the same directory are not kept
apart: descriptors of several names may stand in one directory, and each of them has all its source
files.

## Shape of the proof

If a file lies below the directories of two projects, one of them is on the way from the other one
to the file. The walk does not go that way, so the directories are the same: `eq_of_way`,
`parent_eq_of_mem_projectSources`. Paths are told apart by their texts since they are proper, so
what is said of source files holds of unit paths, `exists_common_path_iff`.
-/

namespace WorkspaceLint

variable {host : Host SourceFile} {scope : LoadScope} {member other : Path}

/-- A path of a unit is that of a source file of its project. -/
theorem exists_source_of_mem_unitPaths {path : String}
    (h : path ∈ (memberProject host scope member).unitPaths) :
    ∃ source ∈ projectSources host scope member, path = source.text := by
  obtain ⟨source, hsource, rfl⟩ :=
    List.mem_map.mp ((loadedUnits_paths_sublist host scope.mapper _).subset h)
  exact ⟨source, hsource, rfl⟩

/-- If names lead from a directory through another one on the way to a file, and no directory of a
project is on the way, the other one is the directory itself. -/
theorem eq_of_way {root inner : Path} {roots : List Path} {names way rest : List String}
    (hinner : inner ∈ roots) (heq : inner = root.descend way) (hnames : names = way ++ rest)
    (hrest : rest ≠ [])
    (hkept : ∀ way rest, names = way ++ rest → way ≠ [] → rest ≠ [] → root.descend way ∉ roots) :
    root = inner := by
  by_cases hway : way = []
  · rw [heq, hway, Path.descend, List.append_nil]
  · exact absurd (heq ▸ hinner) (hkept way rest hnames hway hrest)

/-- Projects with the same directory have the same units. -/
theorem units_eq_of_parent_eq (h : member.parent = other.parent) :
    (memberProject host scope member).units = (memberProject host scope other).units := by
  simp only [memberProject, projectSources, h]

/-- Projects have the same root if and only if their descriptors stand in the same directory. -/
theorem root_eq_iff (hmember : member.IsResolved) (hother : other.IsResolved) :
    (memberProject host scope member).root = (memberProject host scope other).root
      ↔ member.parent = other.parent :=
  ⟨Path.eq_of_text_eq hmember.parent.isProper hother.parent.isProper, congrArg Path.text⟩

section WellFormed

variable (hhost : host.WellFormed)

include hhost

/-- The source files of a project lie below its directory, with no directory of another project on
the way. -/
theorem exists_names_of_mem_projectSources {source : Path}
    (h : source ∈ projectSources host scope member) :
    ∃ names, names ≠ [] ∧ (∀ name ∈ names, IsEntryName name)
      ∧ source = member.parent.descend names
      ∧ ∀ way rest, names = way ++ rest → way ≠ [] → rest ≠ [] →
          member.parent.descend way ∉ scope.memberRoots :=
  FileTree.exists_of_mem_sourceFiles hhost.tree h

/-- The source files of a project are proper paths. -/
theorem projectSources_isProper (hmember : member.IsResolved) :
    ∀ source ∈ projectSources host scope member, source.IsProper := by
  intro source hsource
  obtain ⟨names, -, hnames, rfl, -⟩ := exists_names_of_mem_projectSources hhost hsource
  exact (hmember.parent.descend hnames).isProper

/-- No project has the same unit path twice. -/
theorem unitPaths_nodup (hmember : member.IsResolved) :
    (memberProject host scope member).unitPaths.Nodup := by
  have hproper : ∀ source ∈ projectSources host scope member, source.IsProper :=
    projectSources_isProper hhost hmember
  refine (loadedUnits_paths_sublist host scope.mapper _).nodup ?_
  refine (FileTree.sourceFiles_nodup hhost.tree).map_on fun source hsource source' hsource' h => ?_
  exact Path.eq_of_text_eq (hproper source hsource) (hproper source' hsource') h

/-- If two projects have a source file in common, their directories are the same. -/
theorem parent_eq_of_mem_projectSources (hmember : member.IsResolved) (hother : other.IsResolved)
    (hroot : member.parent ∈ scope.memberRoots) (hroot' : other.parent ∈ scope.memberRoots)
    {source : Path} (h : source ∈ projectSources host scope member)
    (h' : source ∈ projectSources host scope other) : member.parent = other.parent := by
  obtain ⟨names, hnames, -, rfl, hkept⟩ := exists_names_of_mem_projectSources hhost h
  obtain ⟨others, hothers, -, hsame, hkept'⟩ := exists_names_of_mem_projectSources hhost h'
  have hanchor : member.parent.anchor = other.parent.anchor :=
    hmember.parent.anchor.trans hother.parent.anchor.symm
  -- One of the directories lies on the way from the other one to the file.
  rcases List.append_eq_append_iff.mp (congrArg Path.parts hsame) with
    ⟨way, hparts, hway⟩ | ⟨way, hparts, hway⟩
  · have hdescend : other.parent = member.parent.descend way := by
      rw [Path.descend, ← hparts, hanchor]
    exact eq_of_way hroot' hdescend hway hothers hkept
  · have hdescend : member.parent = other.parent.descend way := by
      rw [Path.descend, ← hparts, ← hanchor]
    exact (eq_of_way hroot hdescend hway hnames hkept').symm

/-- Two projects have a unit path in common exactly if their directories are the same and there is a
unit in it. -/
theorem exists_common_path_iff (hmember : member.IsResolved) (hother : other.IsResolved)
    (hroot : member.parent ∈ scope.memberRoots) (hroot' : other.parent ∈ scope.memberRoots) :
    (∃ path, path ∈ (memberProject host scope member).unitPaths
        ∧ path ∈ (memberProject host scope other).unitPaths)
      ↔ (memberProject host scope member).root = (memberProject host scope other).root
        ∧ (memberProject host scope member).units ≠ [] := by
  rw [root_eq_iff hmember hother]
  constructor
  · rintro ⟨path, hpath, hpath'⟩
    obtain ⟨source, hsource, rfl⟩ := exists_source_of_mem_unitPaths hpath
    obtain ⟨source', hsource', htext⟩ := exists_source_of_mem_unitPaths hpath'
    obtain rfl := Path.eq_of_text_eq (projectSources_isProper hhost hmember source hsource)
      (projectSources_isProper hhost hother source' hsource') htext
    refine ⟨parent_eq_of_mem_projectSources hhost hmember hother hroot hroot' hsource hsource', ?_⟩
    rintro hnil
    rw [Project.unitPaths, hnil] at hpath
    cases hpath
  · rintro ⟨hparent, hunits⟩
    obtain ⟨unit, rest, hcons⟩ := List.exists_cons_of_ne_nil hunits
    have hmem : unit.path ∈ (memberProject host scope member).unitPaths := by
      rw [Project.unitPaths, hcons]
      exact List.mem_cons_self
    refine ⟨unit.path, hmem, ?_⟩
    rwa [Project.unitPaths, ← units_eq_of_parent_eq hparent]

end WellFormed

/-! ## Projects inside one another and projects side by side -/

/-- A file without contents. -/
def emptyFile : Entry SourceFile := .file ⟨[], none, none⟩

/-- A host with a workspace descriptor in one directory, a member with a source file in a second one
below it, and in a third one below that a source file with two descriptors beside it. -/
def sampleHost : Host SourceFile :=
  ⟨⟨[(["w"], .directory), (["w", "pyproject.toml"], emptyFile), (["w", "a"], .directory),
      (["w", "a", "pyproject.toml"], emptyFile), (["w", "a", "m.py"], emptyFile),
      (["w", "a", "b"], .directory), (["w", "a", "b", "pyproject.toml"], emptyFile),
      (["w", "a", "b", "extra.toml"], emptyFile), (["w", "a", "b", "n.py"], emptyFile)]⟩,
    ["w"], ⟨.root, ["w"]⟩, .standard⟩

/-- The tree of the sample workspace is well-formed. -/
theorem sampleHost_wellFormed : sampleHost.WellFormed :=
  ⟨⟨by decide, by decide⟩, by decide, by simp only [Path.IsProper]; decide⟩

/-- The standard settings with the members of a workspace named. -/
def settingsFor (members : List String) : Settings :=
  { Settings.standard with projects := some members }

/-- The workspace of two members one of which is inside the other. -/
def nestedWorkspace : Workspace :=
  ⟨"/w/pyproject.toml", "/w",
    [⟨"/w/a/pyproject.toml", "/w/a", [⟨"/w/a/m.py", [], .identity⟩]⟩,
      ⟨"/w/a/b/pyproject.toml", "/w/a/b", [⟨"/w/a/b/n.py", [], .identity⟩]⟩]⟩

/-- The sample workspace opens, one of its projects inside the other. -/
theorem nestedWorkspace_opens :
    (openWorkspace sampleHost (settingsFor ["a", "a/b"]) .identity
      (Path.ofText "/w/pyproject.toml")).outcome = .ok nestedWorkspace :=
  toOption_eq_some_iff.mp (by decide +kernel)

/-! ## Ownership -/

/-- **To which projects a source file belongs.** No project of an opened workspace has a unit path
twice. Two projects have a unit path in common exactly if they have the same directory and there are
units in it; then they have the same units. -/
theorem openWorkspace_ownership (hhost : host.WellFormed) {settings : Settings}
    {mapper : PositionMapper} {descriptor : String} {workspace : Workspace}
    (h : (openWorkspace host settings mapper (Path.ofText descriptor)).outcome = .ok workspace) :
    (∀ project ∈ workspace.projects, project.unitPaths.Nodup)
    ∧ workspace.projects.Pairwise fun project other =>
        ((∃ path, path ∈ project.unitPaths ∧ path ∈ other.unitPaths)
          ↔ project.root = other.root ∧ project.units ≠ [])
        ∧ (project.root = other.root → project.units = other.units) := by
  obtain ⟨members, loaded, scope, hresolved, hloaded, hroots, hprojects⟩ :=
    openWorkspace_eq_ok hhost (Path.ofText_isProper descriptor) h
  have hmember : ∀ member ∈ loaded, member.IsResolved ∧ member.parent ∈ scope.memberRoots := by
    intro member hmem
    have hmem := hloaded.subset hmem
    exact ⟨hresolved member hmem, hroots ▸ List.mem_map_of_mem hmem⟩
  rw [hprojects, List.pairwise_map]
  constructor
  · intro project hproject
    obtain ⟨member, hmem, rfl⟩ := List.mem_map.mp hproject
    exact unitPaths_nodup hhost (hmember member hmem).1
  · refine List.pairwise_of_forall_mem_list fun member hmem other hother => ⟨?_, fun hroot => ?_⟩
    · exact exists_common_path_iff hhost (hmember member hmem).1 (hmember other hother).1
        (hmember member hmem).2 (hmember other hother).2
    · exact units_eq_of_parent_eq
        ((root_eq_iff (hmember member hmem).1 (hmember other hother).1).mp hroot)

/-- A member inside another one has its own source files, and the outer one has the others. -/
theorem nestedWorkspace_ownership :
    (∀ project ∈ nestedWorkspace.projects, project.unitPaths.Nodup)
    ∧ nestedWorkspace.projects.Pairwise fun project other =>
        ¬ ∃ path, path ∈ project.unitPaths ∧ path ∈ other.unitPaths := by
  obtain ⟨hnodup, hcommon⟩ := openWorkspace_ownership sampleHost_wellFormed nestedWorkspace_opens
  have hroots : nestedWorkspace.projects.Pairwise fun project other => project.root ≠ other.root := by
    decide
  exact ⟨hnodup, hcommon.imp₂ (fun project other h hroot hpath => hroot (h.1.mp hpath).1) hroots⟩

/-- Two descriptors in one directory are two members with the same source files. -/
theorem neighbours_share_units :
    ∃ workspace,
      (openWorkspace sampleHost (settingsFor ["a/b/pyproject.toml", "a/b/extra.toml"]) .identity
        (Path.ofText "/w/pyproject.toml")).outcome = .ok workspace
      ∧ ¬ workspace.projects.Pairwise fun project other =>
          ¬ ∃ path, path ∈ project.unitPaths ∧ path ∈ other.unitPaths := by
  refine ⟨⟨"/w/pyproject.toml", "/w",
    [⟨"/w/a/b/pyproject.toml", "/w/a/b", [⟨"/w/a/b/n.py", [], .identity⟩]⟩,
      ⟨"/w/a/b/extra.toml", "/w/a/b", [⟨"/w/a/b/n.py", [], .identity⟩]⟩]⟩,
    toOption_eq_some_iff.mp (by decide +kernel), ?_⟩
  intro hpairs
  exact (List.pairwise_cons.mp hpairs).1 _ List.mem_cons_self
    ⟨"/w/a/b/n.py", by decide, by decide⟩

end WorkspaceLint
