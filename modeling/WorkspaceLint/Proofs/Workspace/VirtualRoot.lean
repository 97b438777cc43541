import WorkspaceLint.Proofs.Workspace.Naming

/-!
# When the descriptor of a workspace becomes one of its projects

A descriptor that describes no project of its own is still matched with the patterns it declares,
like any other file. So it becomes a project if a pattern leads back to it, and only then.

* `LeadsBack` — a pattern leads back to the descriptor, by a file or by a directory.
* `MatchesOwnPlace` — a glob matches the descriptor or the directory in which it stands.
* `leadsBack_iff_of_linkless` — without links and double dots, a glob leads back only so.
* `virtualRoot_isProject_iff` — when the descriptor becomes a project.
-/

namespace WorkspaceLint

section

variable {F : Type} {host : Host F}

/-- A pattern leads back to a descriptor: it declares a candidate that no exclusion matches, and
this is the descriptor itself, under some path, or a directory the project of which is described
there. -/
inductive LeadsBack (host : Host F) (descriptor : Path) (exclusions : List String)
    (pattern : String) : Prop
  | file {found : List Path} {candidate : Path}
      (hfound : Declares host descriptor.parent pattern found) (hmem : candidate ∈ found)
      (hkept : ∀ exclusion ∈ exclusions, ¬ Excludes descriptor.parent exclusion candidate)
      (hsuffix : candidate.suffix = ".toml") (hresolve : host.resolve candidate = .ok descriptor) :
      LeadsBack host descriptor exclusions pattern
  | directory {found : List Path} {candidate : Path}
      (hfound : Declares host descriptor.parent pattern found) (hmem : candidate ∈ found)
      (hkept : ∀ exclusion ∈ exclusions, ¬ Excludes descriptor.parent exclusion candidate)
      (hsuffix : candidate.suffix ≠ ".toml")
      (hresolve : host.resolve (candidate.child "pyproject.toml") = .ok descriptor) :
      LeadsBack host descriptor exclusions pattern

/-- A glob matches a descriptor, or the directory in which it stands, and no exclusion does. -/
inductive MatchesOwnPlace (host : Host F) (descriptor : Path) (exclusions : List String)
    (pattern : String) : Prop
  | file {glob : Glob} {matched : List Path} (hglob : Glob.ofText pattern = .ok glob)
      (hmatched : host.tree.glob host.working descriptor.parent glob = .ok matched)
      (hmem : descriptor ∈ matched)
      (hkept : ∀ exclusion ∈ exclusions, ¬ Excludes descriptor.parent exclusion descriptor)
      (hsuffix : descriptor.suffix = ".toml") : MatchesOwnPlace host descriptor exclusions pattern
  | directory {glob : Glob} {matched : List Path} (hglob : Glob.ofText pattern = .ok glob)
      (hmatched : host.tree.glob host.working descriptor.parent glob = .ok matched)
      (hmem : descriptor.parent ∈ matched)
      (hkept : ∀ exclusion ∈ exclusions, ¬ Excludes descriptor.parent exclusion descriptor.parent)
      (hsuffix : descriptor.parent.suffix ≠ ".toml") (hname : descriptor.name = "pyproject.toml") :
      MatchesOwnPlace host descriptor exclusions pattern

/-- A pattern leads back to a descriptor if this is a file that the exclusions leave to it. -/
theorem leadsBack_iff_stillNames {descriptor : Path} {exclusions : List String} {pattern : String} :
    LeadsBack host descriptor exclusions pattern
      ↔ StillNames host descriptor.parent exclusions pattern descriptor := by
  constructor
  · rintro (⟨hfound, hmem, hkept, hsuffix, hresolve⟩ | ⟨hfound, hmem, hkept, hsuffix, hresolve⟩)
    · refine ⟨_, ⟨⟨_, hfound, hmem⟩, ?_⟩, hkept⟩
      rwa [projectFileOf, if_pos hsuffix]
    · refine ⟨_, ⟨⟨_, hfound, hmem⟩, ?_⟩, hkept⟩
      rwa [projectFileOf, if_neg hsuffix]
  · rintro ⟨candidate, ⟨⟨found, hfound, hmem⟩, hresolve⟩, hkept⟩
    by_cases hsuffix : candidate.suffix = ".toml"
    · rw [projectFileOf, if_pos hsuffix] at hresolve
      exact .file hfound hmem hkept hsuffix hresolve
    · rw [projectFileOf, if_neg hsuffix] at hresolve
      exact .directory hfound hmem hkept hsuffix hresolve

/-! ## Globs in trees without links -/

/-- A directory in which a glob matches something is one. -/
theorem isDirectory?_of_mem_glob {directory file : Path} {glob : Glob} {matched : List Path}
    (h : host.tree.glob host.working directory glob = .ok matched) (hmem : file ∈ matched) :
    host.isDirectory? directory = .ok true := by
  unfold FileTree.glob at h
  split at h
  · cases h
  · cases h
    cases hmem
  next hdirectory => rw [Host.isDirectory?, hdirectory]; rfl

/-- What a glob without double dots matches below a resolved path is resolved. -/
theorem isResolved_of_mem_glob (hhost : host.WellFormed) {directory : Path}
    (hdirectory : directory.IsResolved) {pattern : String}
    (hdots : ".." ∉ (Path.ofText pattern).parts)
    {glob : Glob} (hglob : Glob.ofText pattern = .ok glob) {matched : List Path}
    (hmatched : host.tree.glob host.working directory glob = .ok matched) {file : Path}
    (hmem : file ∈ matched) : file.IsResolved := by
  obtain ⟨names, hnames, rfl⟩ := FileTree.exists_names_of_mem_glob hhost.tree (fun _ h => h)
    (fun name hname => ⟨Glob.ofText_isProper hglob name hname, fun heq =>
      hdots (heq ▸ Glob.mem_parts_of_exact hglob hname)⟩) hmatched file hmem
  exact ⟨hdirectory.anchor, List.forall_mem_append.mpr ⟨hdirectory.parts, hnames⟩⟩

/-- Once a pattern has been expanded, the candidates that exclusions leave have resolved
descriptors. -/
theorem exists_resolve_of_expandPattern (hhost : host.WellFormed) {root : Path}
    (hroot : root.IsProper) {exclusions : List String} {pattern : String} {files : List Path}
    (hfiles : (expandPattern host root exclusions pattern).outcome = .ok files) {found : List Path}
    (hfound : Declares host root pattern found) {candidate : Path} (hmem : candidate ∈ found)
    (hkept : ∀ exclusion ∈ exclusions, ¬ Excludes root exclusion candidate) :
    ∃ file, host.resolve (projectFileOf candidate) = .ok file := by
  obtain ⟨declared, hdeclared, hsteps⟩ := expandPattern_outcome_eq_ok_iff.mp hfiles
  have hmem' := (hfound.mem_iff (declares_of_candidates hdeclared)).mp hmem
  have hexcluded : isExcluded exclusions root candidate = false :=
    (isExcluded_eq_false_iff (hfound.isProper hhost hroot candidate hmem) hroot).mpr hkept
  obtain ⟨file, -, hresolve⟩ := exists_of_mem_forall₂ hsteps.flip
    (List.mem_filter.mpr ⟨hmem', by rw [hexcluded]; rfl⟩)
  exact ⟨file, hresolve⟩

/-- In a tree without links, a glob without double dots leads back to a descriptor only if it
matches the descriptor or its directory: there are no other paths that come to them. -/
theorem leadsBack_iff_of_linkless (hhost : host.WellFormed) (hlinks : host.tree.linkCount = 0)
    {descriptor : Path} (hdescriptor : descriptor.IsResolved) {exclusions : List String}
    {pattern : String} (hpattern : Glob.isPattern pattern = true)
    (hdots : ".." ∉ (Path.ofText pattern).parts) {files : List Path}
    (hfiles : (expandPattern host descriptor.parent exclusions pattern).outcome = .ok files) :
    LeadsBack host descriptor exclusions pattern
      ↔ MatchesOwnPlace host descriptor exclusions pattern := by
  have hself {path : Path} (hpath : path.IsResolved) (h : host.resolve path = .ok descriptor) :
      path = descriptor :=
    (Host.eq_of_resolve_of_linkless hlinks hpath h).symm
  obtain ⟨found, hdeclared, -⟩ := expandPattern_outcome_eq_ok_iff.mp hfiles
  have hfound := declares_of_candidates hdeclared
  -- A candidate of the descriptor's own has a resolved form, and that is the descriptor.
  have hresolve {candidate : Path} (hmem : candidate ∈ found)
      (hkept : ∀ exclusion ∈ exclusions, ¬ Excludes descriptor.parent exclusion candidate)
      (hfile : projectFileOf candidate = descriptor) : host.resolve descriptor = .ok descriptor := by
    obtain ⟨file, hresolved⟩ := exists_resolve_of_expandPattern hhost hdescriptor.parent.isProper
      hfiles hfound hmem hkept
    rw [hfile] at hresolved
    rwa [Host.eq_of_resolve_of_linkless hlinks hdescriptor hresolved] at hresolved
  obtain ⟨glob, matched, hglob, hmatched, hmatches⟩ := hfound.exists_glob hpattern
  have hmatch {other : List Path} (hother : Declares host descriptor.parent pattern other)
      {candidate : Path} (hmem : candidate ∈ other) : candidate ∈ matched ∧ candidate.IsResolved :=
    have hmem := ((hmatches candidate).mp ((hother.mem_iff hfound).mp hmem)).1
    ⟨hmem, isResolved_of_mem_glob hhost hdescriptor.parent hdots hglob hmatched hmem⟩
  constructor
  · rintro (⟨hother, hmem, hkept, hsuffix, hresolved⟩ | ⟨hother, hmem, hkept, hsuffix, hresolved⟩)
    · obtain ⟨hmem, hcandidate⟩ := hmatch hother hmem
      obtain rfl := hself hcandidate hresolved
      exact .file hglob hmatched hmem hkept hsuffix
    · obtain ⟨hmem, hcandidate⟩ := hmatch hother hmem
      obtain rfl := hself (hcandidate.child (by decide)) hresolved
      rw [Path.parent_child] at hkept hmatched
      refine .directory hglob (by rwa [Path.parent_child]) ?_ ?_ ?_ (Path.name_child _ _)
      all_goals rwa [Path.parent_child]
  · rintro (⟨hglob', hmatched', hmem, hkept, hsuffix⟩ |
      ⟨hglob', hmatched', hmem, hkept, hsuffix, hname⟩)
    all_goals
      obtain rfl := Except.ok.inj (hglob.symm.trans hglob')
      obtain rfl := Except.ok.inj (hmatched.symm.trans hmatched')
    · have hmem := (hmatches _).mpr ⟨hmem, .inr hsuffix⟩
      refine .file hfound hmem hkept hsuffix (hresolve hmem hkept ?_)
      rw [projectFileOf, if_pos hsuffix]
    · have hmem := (hmatches _).mpr ⟨hmem, .inl (isDirectory?_of_mem_glob hmatched hmem)⟩
      have hchild : descriptor.parent.child "pyproject.toml" = descriptor := by
        rw [← hname, Path.child_parent (by rw [hname]; decide)]
      refine .directory hfound hmem hkept hsuffix ?_
      rw [hchild]
      refine hresolve hmem hkept ?_
      rw [projectFileOf, if_neg hsuffix]
      exact hchild

end

/-! ## The descriptor among the projects -/

section

variable {host : Host SourceFile}

/-- As its descriptor can be loaded, the path of a workspace is that of a project if it is among the
members. -/
theorem exists_project_iff_mem {scope : LoadScope} {path : Path} (hpath : path.IsResolved)
    {document : List (String × Value)} (hdocument : readDescriptor host path = .ok document)
    {members : List Path} (hmembers : ∀ member ∈ members, member.IsResolved)
    {projects : List Project} (h : (loadProjects host scope members).outcome = .ok projects) :
    (∃ project ∈ projects, project.path = path.text) ↔ path ∈ members :=
  (exists_project_iff_loads hpath.isProper hmembers h).trans
    (and_iff_left (checkMember_of_readDescriptor hdocument))

/-- Unless it comes first anyway, a descriptor is among its members if a pattern leads back to it.
-/
theorem mem_memberFiles_iff (hhost : host.WellFormed) {path : Path} (hpath : path.IsResolved)
    {patterns exclusions : List String} {members : List Path}
    (h : (memberFiles host path patterns exclusions false).outcome = .ok members) :
    path ∈ members ↔ ∃ pattern ∈ patterns, LeadsBack host path exclusions pattern := by
  simp only [mem_memberFiles_iff_stillNames hhost hpath.isProper h, leadsBack_iff_stillNames,
    Bool.false_eq_true, false_and, false_or]

/-- **When the root of a workspace becomes one of its projects.** A descriptor with a workspace
table that describes no project of its own becomes a project of the workspace exactly if one of its
patterns leads back to it. In a tree without links, and for globs without double dots, this is so
exactly if one of them matches the descriptor itself or its directory. -/
theorem virtualRoot_isProject_iff (hhost : host.WellFormed) {settings : Settings}
    {mapper : PositionMapper} {descriptor path : Path} (hdescriptor : descriptor.IsProper)
    (hpath : descriptorPath host descriptor = .ok path) {document : List (String × Value)}
    (hdocument : readDescriptor host path = .ok document) (hprojects : settings.projects = none)
    {patterns exclusions : List String} {rootFirst : Bool}
    (hdeclaration : MemberDeclaration.of none path.name document
      = .ok (.patterns patterns exclusions rootFirst))
    (hvirtual : describesProject document = false) {workspace : Workspace}
    (h : (openWorkspace host settings mapper descriptor).outcome = .ok workspace) :
    ((∃ project ∈ workspace.projects, project.path = workspace.path)
      ↔ ∃ pattern ∈ patterns, LeadsBack host path exclusions pattern)
    ∧ (host.tree.linkCount = 0
      → (∀ pattern ∈ patterns, Glob.isPattern pattern = true
          ∧ ".." ∉ (Path.ofText pattern).parts)
      → ((∃ project ∈ workspace.projects, project.path = workspace.path)
        ↔ ∃ pattern ∈ patterns, MatchesOwnPlace host path exclusions pattern)) := by
  have hresolved := descriptorPath_isResolved hhost hdescriptor hpath
  obtain rfl : rootFirst = false := by
    rw [← Bool.not_eq_true, MemberDeclaration.rootFirst_eq_true_iff hdeclaration, hvirtual]
    simp
  simp only [openWorkspace, hpath, hdocument] at h
  obtain ⟨members, hmembers, hopened⟩ := Reported.andThen_outcome_eq_ok_iff.mp h
  obtain ⟨projects, hloaded, rfl⟩ := Reported.map_outcome_eq_ok_iff.mp hopened
  have hroot := exists_project_iff_mem hresolved hdocument
    (declaredMembers_isResolved hhost hresolved hmembers)
    (Reported.mapFault_outcome_eq_ok_iff.mp hloaded)
  simp only [declaredMembers, hprojects, hdeclaration] at hmembers
  have hmembers := Reported.mapFault_outcome_eq_ok_iff.mp hmembers
  -- The descriptor can be loaded, so it is a project exactly if it is among the members.
  have hback := hroot.trans (mem_memberFiles_iff hhost hresolved hmembers)
  refine ⟨hback, fun hlinks hglobs => hback.trans ?_⟩
  obtain ⟨expanded, hexpanded, -⟩ := memberFiles_firstOccurrences hmembers
  refine exists_congr fun pattern => and_congr_right fun hpattern => ?_
  obtain ⟨files, -, hfiles⟩ := exists_of_mem_forall₂ hexpanded.flip hpattern
  exact leadsBack_iff_of_linkless hhost hlinks hresolved (hglobs pattern hpattern).1
    (hglobs pattern hpattern).2 hfiles

end

/-- A host with a member and a descriptor that describes no project but matches a pattern of its
own. -/
def openedRootHost : Host SourceFile :=
  ⟨⟨[(["w"], .directory), (["w", "ws"], .directory),
      (["w", "ws", "pyproject.toml"], fileOf (Text.encodeUtf8
        "[tool.uv.workspace]\nmembers = [\"libs/*\", \"*.toml\"]\n")),
      (["w", "ws", "libs"], .directory), (["w", "ws", "libs", "core"], .directory),
      (["w", "ws", "libs", "core", "pyproject.toml"], fileOf []),
      (["w", "ws", "libs", "core", "core.py"], fileOf []),
      (["w", "ws", "stray.py"], fileOf [])]⟩,
    ["w"], ⟨.root, ["w"]⟩, .standard⟩

/-- The descriptor on this host. -/
def openedRoot : Path := Path.ofText "/w/ws/pyproject.toml"

/-- The host of the virtual root is well-formed. -/
theorem openedRootHost_wellFormed : openedRootHost.WellFormed :=
  ⟨⟨by decide, by decide⟩, by decide, Path.ofText_isProper "/w"⟩

/-- Its descriptor declares two patterns and describes no project. -/
theorem openedRoot_isVirtual :
    ∃ document, readDescriptor openedRootHost openedRoot = .ok document
      ∧ MemberDeclaration.of none openedRoot.name document
        = .ok (.patterns ["libs/*", "*.toml"] [] false)
      ∧ describesProject document = false := by
  have hread : ((readDescriptor openedRootHost openedRoot).toOption.map fun document =>
      ((MemberDeclaration.of none openedRoot.name document).toOption, describesProject document))
        = some (some (.patterns ["libs/*", "*.toml"] [] false), false) := by
    decide +kernel
  obtain ⟨document, hdocument, heq⟩ := Option.map_eq_some_iff.mp hread
  obtain ⟨hdeclaration, hvirtual⟩ := Prod.mk.inj heq
  exact ⟨document, toOption_eq_some_iff.mp hdocument, toOption_eq_some_iff.mp hdeclaration, hvirtual⟩

/-- The workspace, with the descriptor for a project that has a source file of its own. -/
def openedRootWorkspace : Workspace :=
  ⟨"/w/ws/pyproject.toml", "/w/ws",
    [⟨"/w/ws/libs/core/pyproject.toml", "/w/ws/libs/core",
        [⟨"/w/ws/libs/core/core.py", [], .identity⟩]⟩,
      ⟨"/w/ws/pyproject.toml", "/w/ws", [⟨"/w/ws/stray.py", [], .identity⟩]⟩]⟩

/-- It opens with the virtual root among its projects. -/
theorem openedRoot_opens :
    (openWorkspace openedRootHost Settings.standard .identity openedRoot).outcome
      = .ok openedRootWorkspace :=
  toOption_eq_some_iff.mp (by decide +kernel)

/-- The second pattern matches the descriptor, so there is a project with its path. -/
theorem openedRoot_isProject :
    MatchesOwnPlace openedRootHost openedRoot [] "*.toml"
    ∧ ∃ project ∈ openedRootWorkspace.projects, project.path = openedRootWorkspace.path := by
  obtain ⟨document, hdocument, hdeclaration, hvirtual⟩ := openedRoot_isVirtual
  have hmatched : openedRootHost.tree.glob openedRootHost.working openedRoot.parent
      ⟨[.pattern (Pattern.ofText "*.toml")], false⟩ = .ok [openedRoot] := rfl
  have hmatches : MatchesOwnPlace openedRootHost openedRoot [] "*.toml" :=
    .file rfl hmatched List.mem_cons_self (by simp) rfl
  obtain ⟨-, hlinkless⟩ := virtualRoot_isProject_iff openedRootHost_wellFormed
    (Path.ofText_isProper "/w/ws/pyproject.toml") rfl hdocument rfl hdeclaration hvirtual
    openedRoot_opens
  exact ⟨hmatches, (hlinkless rfl (by decide)).mpr ⟨"*.toml", by decide, hmatches⟩⟩

/-- A descriptor that describes no project can become a project of its workspace although all its
patterns are globs. -/
theorem virtualRoot_can_be_project :
    ∃ document workspace,
      readDescriptor openedRootHost openedRoot = .ok document
      ∧ (workspaceTable? document).isSome = true ∧ describesProject document = false
      ∧ (∃ patterns exclusions, MemberDeclaration.of none openedRoot.name document
            = .ok (.patterns patterns exclusions false)
          ∧ ∀ pattern ∈ patterns, Glob.isPattern pattern = true)
      ∧ (openWorkspace openedRootHost Settings.standard .identity openedRoot).outcome
        = .ok workspace
      ∧ ∃ project ∈ workspace.projects, project.path = workspace.path := by
  obtain ⟨document, hdocument, hdeclaration, hvirtual⟩ := openedRoot_isVirtual
  refine ⟨document, openedRootWorkspace, hdocument, ?_, hvirtual,
    ⟨_, _, hdeclaration, by decide⟩, openedRoot_opens,
    ⟨_, List.mem_cons_of_mem _ List.mem_cons_self, rfl⟩⟩
  cases htable : workspaceTable? document with
  | some table => rfl
  | none =>
    simp only [MemberDeclaration.of, htable] at hdeclaration
    split at hdeclaration <;> cases hdeclaration

end WorkspaceLint
