import WorkspaceLint.Proofs.Workspace.Damage
import WorkspaceLint.Proofs.Workspace.Naming

/-!
# When the spelling of a member matters

One project can be declared by its directory, by its descriptor file, by a glob that matches either,
or on a way through links and double dots. All these spellings come to one file, but exclusions are
matched with the spelling. So a project may be a member under one of them and none under another.

Two declarations are compared by changing what the workspace descriptor holds, and nothing else.

* `contains_iff` — the projects of a workspace with one pattern.
* `stillNames_withFile`, `checkMember_withFile` — what does not depend on the workspace descriptor.
* `spellings_agree` — two declarations of one project agree where exclusions treat them alike.
-/

namespace WorkspaceLint

/-! ## The projects of a workspace with one pattern -/

/-- A descriptor declares its members by one pattern. -/
def DeclaresOnly (host : Host SourceFile) (path : Path) (pattern : String)
    (exclusions : List String) (rootFirst : Bool) : Prop :=
  ∃ document, readDescriptor host path = .ok document
    ∧ MemberDeclaration.of none path.name document
      = .ok (.patterns [pattern] exclusions rootFirst)

/-- A workspace contains the project that a file describes. -/
def Workspace.Contains (workspace : Workspace) (file : Path) : Prop :=
  ∃ project ∈ workspace.projects, project.path = file.text

section

variable {host : Host SourceFile}

/-- A workspace contains a project if its descriptor can be loaded and either is that of the
workspace, listed first, or one that the exclusions leave to the pattern. -/
theorem contains_iff (hhost : host.WellFormed) {settings : Settings} {mapper : PositionMapper}
    {descriptor path : Path} (hdescriptor : descriptor.IsProper)
    (hpath : descriptorPath host descriptor = .ok path) (hprojects : settings.projects = none)
    {pattern : String} {exclusions : List String} {rootFirst : Bool}
    (hdeclares : DeclaresOnly host path pattern exclusions rootFirst) {workspace : Workspace}
    (hopens : (openWorkspace host settings mapper descriptor).outcome = .ok workspace)
    {file : Path} (hfile : file.IsProper) :
    workspace.Contains file
      ↔ checkMember host file = .ok none
        ∧ ((rootFirst = true ∧ file = path)
          ∨ StillNames host path.parent exclusions pattern file) := by
  obtain ⟨document, hdocument, hdeclaration⟩ := hdeclares
  have hresolved := descriptorPath_isResolved hhost hdescriptor hpath
  simp only [openWorkspace, hpath, hdocument] at hopens
  obtain ⟨members, hmembers, hopened⟩ := Reported.andThen_outcome_eq_ok_iff.mp hopens
  obtain ⟨projects, hloaded, rfl⟩ := Reported.map_outcome_eq_ok_iff.mp hopened
  have hall := declaredMembers_isResolved hhost hresolved hmembers
  simp only [declaredMembers, hprojects, hdeclaration] at hmembers
  have hmembers := Reported.mapFault_outcome_eq_ok_iff.mp hmembers
  have hproject := exists_project_iff_loads hfile hall
    (Reported.mapFault_outcome_eq_ok_iff.mp hloaded)
  have hmem : file ∈ members
      ↔ (rootFirst = true ∧ file = path) ∨ StillNames host path.parent exclusions pattern file := by
    simpa using mem_memberFiles_iff_stillNames hhost hresolved.isProper hmembers
  exact hproject.trans (and_comm.trans (and_congr_right fun _ => hmem))

end

/-! ## What does not depend on the descriptor -/

section

variable {F G : Type} {host : Host F} (change : Location → F → G)

/-- A host stays well-formed when its files are changed. -/
theorem Host.WellFormed.mapFiles (h : host.WellFormed) : (host.mapFiles change).WellFormed := by
  have hlocations : (host.tree.mapFiles change).entries.map (·.1) = host.tree.entries.map (·.1) := by
    simp only [FileTree.mapFiles, List.map_map, Function.comp_def]
  exact ⟨⟨hlocations ▸ h.tree.distinct, hlocations ▸ h.tree.named⟩, h.working, h.home⟩

/-- Patterns declare the same paths when files are changed. -/
theorem declares_mapFiles {root : Path} {pattern : String} {found : List Path} :
    Declares (host.mapFiles change) root pattern found ↔ Declares host root pattern found := by
  have hglob (glob : Glob) :
      (host.mapFiles change).tree.glob (host.mapFiles change).working root glob
        = host.tree.glob host.working root glob :=
    FileTree.glob_mapFiles change host.tree host.working root glob
  constructor
  · intro h
    cases h with
    | path hpattern => exact .path hpattern
    | glob hpattern hofText hmatched hfound hordered =>
      refine .glob hpattern hofText ((hglob _).symm.trans hmatched) (fun path => ?_) hordered
      rw [hfound, Host.isDirectory?_mapFiles]
  · intro h
    cases h with
    | path hpattern => exact .path hpattern
    | glob hpattern hofText hmatched hfound hordered =>
      refine .glob hpattern hofText ((hglob _).trans hmatched) (fun path => ?_) hordered
      rw [hfound, Host.isDirectory?_mapFiles]

/-- They name the same files. -/
theorem names_mapFiles {root file candidate : Path} {pattern : String} :
    Names (host.mapFiles change) root pattern file candidate
      ↔ Names host root pattern file candidate := by
  have hresolve := Host.resolve_mapFiles change host (projectFileOf candidate)
  constructor
  · rintro ⟨⟨found, hfound, hmem⟩, hresolved⟩
    exact ⟨⟨found, (declares_mapFiles change).mp hfound, hmem⟩, hresolve.symm.trans hresolved⟩
  · rintro ⟨⟨found, hfound, hmem⟩, hresolved⟩
    exact ⟨⟨found, (declares_mapFiles change).mpr hfound, hmem⟩, hresolve.trans hresolved⟩

end

section

variable {host : Host SourceFile} {path : Path} {place : Location} {contents : SourceFile}

/-- Which files are left to a pattern does not depend on what files hold. -/
theorem stillNames_withFile {root file : Path} {exclusions : List String} {pattern : String} :
    StillNames (host.withFile place contents) root exclusions pattern file
      ↔ StillNames host root exclusions pattern file :=
  exists_congr fun _ => and_congr_left fun _ => names_mapFiles _

/-- What is read from a place is the file there. -/
theorem entryAt_of_readFile {F : Type} {host : Host F} {path : Path} {contents : F}
    (hplace : host.tree.locate host.working path = .ok place)
    (hread : host.readFile path = .ok contents) :
    host.tree.entryAt place = some (.file contents) := by
  unfold Host.readFile at hread
  split at hread
  · cases hread
  split at hread
  next hlookup =>
    obtain rfl := Except.ok.inj hread
    simp only [FileTree.lookup, hplace] at hlookup
    split at hlookup
    next entry hentry => rw [hentry, Except.ok.inj hlookup]
    next => cases hlookup
  next => cases hread
  next => cases hread

/-- Where the file that changes holds a document before and after, the same members can be loaded.
-/
theorem checkMember_withFile {document changed : List (String × Value)}
    (hplace : host.ReadsFrom path place) (hdocument : readDescriptor host path = .ok document)
    (hchanged : readDescriptor (host.withFile place contents) path = .ok changed) (file : Path) :
    checkMember (host.withFile place contents) file = checkMember host file := by
  by_cases hreads : host.ReadsFrom file place
  · -- The file is the descriptor, if on another path, and loads before and after.
    obtain ⟨old, hold, hparsed⟩ := exists_file_of_readDescriptor hdocument
    obtain ⟨new, hnew, hreparsed⟩ := exists_file_of_readDescriptor hchanged
    obtain ⟨hlocation, other, hother⟩ := hreads
    have hsame := (entryAt_of_readFile hlocation hother).symm.trans
      (entryAt_of_readFile hplace.1 hold)
    obtain rfl := Entry.file.inj (Option.some.inj hsame)
    rw [Host.readFile_withFile_of_readsFrom contents hplace] at hnew
    obtain rfl := Except.ok.inj hnew
    have hafter := Host.readFile_withFile_of_readsFrom contents ⟨hlocation, other, hother⟩
    rw [checkMember_of_readFile hother hparsed, checkMember_of_readFile hafter hreparsed]
  · exact checkMember_withFile_of_not_readsFrom hreads

/-- **When two declarations of one project agree.** Take a workspace that declares its members by
one pattern, and the same workspace with another pattern in its descriptor, where both patterns name
the descriptor file of one project. Either workspace contains the project exactly if the file can be
loaded and, unless it is that of the workspace and listed first, the exclusions leave it to the
pattern: they match not all of the candidates by which the pattern names it. So both agree where the
exclusions treat the candidates of the two patterns alike. -/
theorem spellings_agree (hhost : host.WellFormed) {settings : Settings} {mapper : PositionMapper}
    {descriptor : Path} (hdescriptor : descriptor.IsProper)
    (hpath : descriptorPath host descriptor = .ok path) (hprojects : settings.projects = none)
    (hplace : host.ReadsFrom path place) {pattern other : String} {exclusions : List String}
    {rootFirst : Bool} (hpattern : DeclaresOnly host path pattern exclusions rootFirst)
    (hother : DeclaresOnly (host.withFile place contents) path other exclusions rootFirst)
    {workspace respelt : Workspace}
    (hopens : (openWorkspace host settings mapper descriptor).outcome = .ok workspace)
    (hreopens : (openWorkspace (host.withFile place contents) settings mapper descriptor).outcome
      = .ok respelt)
    {file : Path} (hnames : ∃ candidate, Names host path.parent pattern file candidate)
    (hrenames : ∃ candidate, Names host path.parent other file candidate) :
    (workspace.Contains file ↔ checkMember host file = .ok none
      ∧ ((rootFirst = true ∧ file = path) ∨ StillNames host path.parent exclusions pattern file))
    ∧ (respelt.Contains file ↔ checkMember host file = .ok none
      ∧ ((rootFirst = true ∧ file = path) ∨ StillNames host path.parent exclusions other file))
    ∧ ((∀ candidate respelling, Names host path.parent pattern file candidate →
          Names host path.parent other file respelling →
          ((∃ exclusion ∈ exclusions, Excludes path.parent exclusion candidate)
            ↔ ∃ exclusion ∈ exclusions, Excludes path.parent exclusion respelling))
      → (workspace.Contains file ↔ respelt.Contains file)) := by
  obtain ⟨candidate, hcandidate⟩ := hnames
  obtain ⟨respelling, hrespelling⟩ := hrenames
  have hroot := (descriptorPath_isResolved hhost hdescriptor hpath).parent.isProper
  have hfile := (hcandidate.isResolved hhost hroot).isProper
  have hcontains := contains_iff hhost hdescriptor hpath hprojects hpattern hopens hfile
  have hrespelt : respelt.Contains file ↔ checkMember host file = .ok none
      ∧ ((rootFirst = true ∧ file = path) ∨ StillNames host path.parent exclusions other file) := by
    have hpath' := (descriptorPath_withFile host place contents descriptor).trans hpath
    have hchanges : (host.withFile place contents).WellFormed := hhost.mapFiles _
    have hcontains' := contains_iff hchanges hdescriptor hpath' hprojects hother hreopens hfile
    obtain ⟨document, hdocument, -⟩ := hpattern
    obtain ⟨changed, hchanged, -⟩ := hother
    rwa [checkMember_withFile hplace hdocument hchanged, stillNames_withFile] at hcontains'
  refine ⟨hcontains, hrespelt, fun halike => ?_⟩
  -- One candidate that is kept means that none is excluded, neither here nor there.
  have hstill : StillNames host path.parent exclusions pattern file
      ↔ StillNames host path.parent exclusions other file := by
    constructor
    · rintro ⟨kept, hkept, hfree⟩
      refine ⟨respelling, hrespelling, fun exclusion hmem hexcluded => ?_⟩
      obtain ⟨matching, hmatching, h⟩ :=
        (halike kept respelling hkept hrespelling).mpr ⟨exclusion, hmem, hexcluded⟩
      exact hfree matching hmatching h
    · rintro ⟨kept, hkept, hfree⟩
      refine ⟨candidate, hcandidate, fun exclusion hmem hexcluded => ?_⟩
      obtain ⟨matching, hmatching, h⟩ :=
        (halike candidate kept hcandidate hkept).mp ⟨exclusion, hmem, hexcluded⟩
      exact hfree matching hmatching h
  rw [hcontains, hrespelt, hstill]

end

/-- A descriptor that declares one member and excludes a directory. -/
def declaringFile (member : String) : SourceFile :=
  ⟨Text.encodeUtf8 ("[tool.uv.workspace]\nmembers = [\"" ++ member ++ "\"]\nexclude = [\"lib\"]\n"),
    none, none⟩

/-- A host with a project in the excluded directory. -/
def excludedHost : Host SourceFile :=
  ⟨⟨[(["w"], .directory), (["w", "pyproject.toml"], .file (declaringFile "lib")),
      (["w", "lib"], .directory), (["w", "lib", "pyproject.toml"], fileOf [])]⟩,
    ["w"], ⟨.root, ["w"]⟩, .standard⟩

/-- The same host with another spelling of the member in the descriptor. -/
def respeltHost (member : String) : Host SourceFile :=
  excludedHost.withFile ["w", "pyproject.toml"] (declaringFile member)

/-- The host with an exclusion is well-formed. -/
theorem excludedHost_wellFormed : excludedHost.WellFormed :=
  ⟨⟨by decide, by decide⟩, by decide, Path.ofText_isProper "/w"⟩

/-- Where the document is right, the members are declared by the one pattern. -/
theorem declaresOnly_of_read {host : Host SourceFile} {pattern : String}
    (h : ((readDescriptor host (Path.ofText "/w/pyproject.toml")).toOption.bind fun document =>
        (MemberDeclaration.of none "pyproject.toml" document).toOption)
      = some (.patterns [pattern] ["lib"] false)) :
    DeclaresOnly host (Path.ofText "/w/pyproject.toml") pattern ["lib"] false := by
  obtain ⟨document, hdocument, hdeclaration⟩ := Option.bind_eq_some_iff.mp h
  exact ⟨document, toOption_eq_some_iff.mp hdocument, toOption_eq_some_iff.mp hdeclaration⟩

/-- Its descriptor declares the one member and the one exclusion. -/
theorem excludedHost_declaresOnly :
    DeclaresOnly excludedHost (Path.ofText "/w/pyproject.toml") "lib" ["lib"] false :=
  declaresOnly_of_read (by decide +kernel)

/-- It opens without projects. -/
theorem excludedHost_opens :
    (openWorkspace excludedHost Settings.standard .identity
        (Path.ofText "/w/pyproject.toml")).outcome = .ok ⟨"/w/pyproject.toml", "/w", []⟩ :=
  toOption_eq_some_iff.mp (by decide +kernel)

/-- The pattern names the member that is excluded. -/
theorem excludedHost_names : Names excludedHost (Path.ofText "/w") "lib"
    (Path.ofText "/w/lib/pyproject.toml") (Path.ofText "/w/lib") :=
  ⟨⟨_, .path rfl, List.mem_cons_self⟩, rfl⟩

/-- A glob that matches the excluded directory does not bring its project back. -/
theorem glob_agrees_with_directory :
    ∃ respelt, (openWorkspace (respeltHost "l*") Settings.standard .identity
        (Path.ofText "/w/pyproject.toml")).outcome = .ok respelt
      ∧ ¬ respelt.Contains (Path.ofText "/w/lib/pyproject.toml") := by
  have hreopens : (openWorkspace (respeltHost "l*") Settings.standard .identity
      (Path.ofText "/w/pyproject.toml")).outcome = .ok ⟨"/w/pyproject.toml", "/w", []⟩ :=
    toOption_eq_some_iff.mp (by decide +kernel)
  have hother : DeclaresOnly (respeltHost "l*") (Path.ofText "/w/pyproject.toml") "l*" ["lib"]
      false := declaresOnly_of_read (by decide +kernel)
  have hfound : Declares excludedHost (Path.ofText "/w") "l*" [Path.ofText "/w/lib"] :=
    declares_of_candidates (toOption_eq_some_iff.mp (by decide +kernel))
  have hrenames : Names excludedHost (Path.ofText "/w") "l*"
      (Path.ofText "/w/lib/pyproject.toml") (Path.ofText "/w/lib") :=
    ⟨⟨_, hfound, List.mem_cons_self⟩, rfl⟩
  obtain ⟨-, -, hagree⟩ := spellings_agree excludedHost_wellFormed
    (Path.ofText_isProper "/w/pyproject.toml") rfl rfl ⟨rfl, _, rfl⟩ excludedHost_declaresOnly hother
    excludedHost_opens hreopens ⟨_, excludedHost_names⟩ ⟨_, hrenames⟩
  refine ⟨_, hreopens, fun hcontains => ?_⟩
  have hnone := (hagree fun candidate respelling hcandidate hrespelling => ?_).mpr hcontains
  · obtain ⟨project, hproject, -⟩ := hnone
    cases hproject
  · -- Both patterns have the directory for their only candidate.
    obtain rfl := List.mem_singleton.mp (hcandidate.mem (.path rfl))
    obtain rfl := List.mem_singleton.mp (hrespelling.mem hfound)
    rfl

/-- The descriptor file of the project is another spelling that the exclusion does not match, so
with it the workspace contains the project. -/
theorem file_differs_from_directory :
    DeclaresOnly excludedHost (Path.ofText "/w/pyproject.toml") "lib" ["lib"] false
    ∧ DeclaresOnly (respeltHost "lib/pyproject.toml") (Path.ofText "/w/pyproject.toml")
        "lib/pyproject.toml" ["lib"] false
    ∧ Names excludedHost (Path.ofText "/w") "lib" (Path.ofText "/w/lib/pyproject.toml")
        (Path.ofText "/w/lib")
    ∧ Names excludedHost (Path.ofText "/w") "lib/pyproject.toml"
        (Path.ofText "/w/lib/pyproject.toml") (Path.ofText "/w/lib/pyproject.toml")
    ∧ ∃ workspace respelt,
        (openWorkspace excludedHost Settings.standard .identity
          (Path.ofText "/w/pyproject.toml")).outcome = .ok workspace
        ∧ (openWorkspace (respeltHost "lib/pyproject.toml") Settings.standard .identity
          (Path.ofText "/w/pyproject.toml")).outcome = .ok respelt
        ∧ ¬ workspace.Contains (Path.ofText "/w/lib/pyproject.toml")
        ∧ respelt.Contains (Path.ofText "/w/lib/pyproject.toml") := by
  have hreopens : (openWorkspace (respeltHost "lib/pyproject.toml") Settings.standard .identity
      (Path.ofText "/w/pyproject.toml")).outcome
        = .ok ⟨"/w/pyproject.toml", "/w", [⟨"/w/lib/pyproject.toml", "/w/lib", []⟩]⟩ :=
    toOption_eq_some_iff.mp (by decide +kernel)
  refine ⟨excludedHost_declaresOnly, declaresOnly_of_read (by decide +kernel), excludedHost_names,
    ⟨⟨_, .path rfl, List.mem_cons_self⟩, rfl⟩, _, _, excludedHost_opens, hreopens, ?_,
    _, List.mem_cons_self, rfl⟩
  rintro ⟨project, hproject, -⟩
  cases hproject

end WorkspaceLint
