import WorkspaceLint.Proofs.SourceText
import WorkspaceLint.Proofs.Workspace.Members

/-!
# What an opened workspace holds

A workspace that opens holds a project for some of its members, in their order. What the project of
a member looks like is a function of the host and of what is to be loaded, `memberProject`; whether
it is there depends on whether its descriptor can be loaded. A source file that cannot be loaded is
left out, unless it ends in a fault which is not expected, `SourceObstacle`: that one ends the
loading.

* `loadUnit_eq_escaped_iff`, `loadUnits_outcome_eq_ok_iff` — the sources that can be loaded, as
  units.
* `loadProjects_eq_ok`, `mem_of_loadProjects_iff` — the members whose descriptors can be loaded, as
  projects.
* `openWorkspace_eq_loaded`, `openWorkspace_eq_ok` — a workspace, from its members.
-/

namespace WorkspaceLint

variable {host : Host SourceFile}

/-! ## Source files -/

/-- A source file that ends in a fault which is not expected: its path holds the null character, it
declares a codec that is no text encoding, or its codec raises something else than a failed decoding
of bytes. -/
inductive SourceObstacle (host : Host SourceFile) (path : Path) : Fault → Prop
  | nullCharacter (hnull : FileTree.hasNull path = true) :
      SourceObstacle host path nullCharacterFault
  | notText {file : SourceFile} {name : String} (hread : host.readFile path = .ok file)
      (htext : SourceText.ofBytes host.platform.codecs file.bytes = .error (.notText name)) :
      SourceObstacle host path ((SourceText.Fault.notText name).toFault path.text)
  | undecodable {file : SourceFile} {fault : Fault} (hread : host.readFile path = .ok file)
      (htext : SourceText.ofBytes host.platform.codecs file.bytes = .error (.undecodable fault))
      (hfault : fault.isAnyOf expectedSourceFaults = false) : SourceObstacle host path fault

/-- A file that cannot be read is one of the operating system's concern, unless its path holds the
null character. -/
theorem readFile_eq_error {F : Type} {host : Host F} {path : Path} {fault : Fault}
    (h : host.readFile path = .error fault) :
    (FileTree.hasNull path = true ∧ fault = nullCharacterFault) ∨ fault.isA "OSError" = true := by
  unfold Host.readFile at h
  split at h
  next hnull =>
    cases h
    exact .inl ⟨hnull, rfl⟩
  next hnull =>
    right
    split at h
    · cases h
    · cases h
      rfl
    next pathFault _ =>
      cases h
      cases pathFault <;> rfl

/-- A path with the null character is refused before it is followed. -/
theorem readFile_of_hasNull {F : Type} {host : Host F} {path : Path}
    (h : FileTree.hasNull path = true) : host.readFile path = .error nullCharacterFault := by
  rw [Host.readFile, if_pos h]

/-- A fault escapes exactly if it is not expected. -/
theorem SourceProblem.ofFault_eq_escaped_iff {path : String} {fault other : Fault} :
    ofFault path fault = .escaped other
      ↔ fault.isAnyOf expectedSourceFaults = false ∧ fault = other := by
  unfold ofFault
  cases fault.isAnyOf expectedSourceFaults <;> simp

/-- The faults that escape from loading a source file are those of its obstacles. -/
theorem loadUnit_eq_escaped_iff {mapper : PositionMapper} {path : Path} {fault : Fault} :
    loadUnit host mapper path = .error (.escaped fault) ↔ SourceObstacle host path fault := by
  unfold loadUnit
  constructor
  · intro h
    split at h
    next readFault hread =>
      obtain ⟨hescapes, rfl⟩ := SourceProblem.ofFault_eq_escaped_iff.mp (Except.error.inj h)
      rcases readFile_eq_error hread with ⟨hnull, rfl⟩ | hsystem
      · exact .nullCharacter hnull
      · simp [Fault.isAnyOf, expectedSourceFaults, hsystem] at hescapes
    next file hread =>
      unfold unitOf at h
      split at h
      next textFault htext =>
        obtain ⟨hescapes, rfl⟩ := SourceProblem.ofFault_eq_escaped_iff.mp (Except.error.inj h)
        -- What is wrong with a declaration is a fault of syntax, which is expected.
        cases textFault with
        | undecodableDeclaration => cases hescapes
        | unknownEncoding name => cases hescapes
        | contradictsMark => cases hescapes
        | notText name => exact .notText hread htext
        | undecodable fault => exact .undecodable hread htext hescapes
      · cases h
      · split at h <;> cases h
  · intro h
    cases h with
    | nullCharacter hnull =>
      rw [readFile_of_hasNull hnull]
      exact congrArg Except.error (SourceProblem.ofFault_eq_escaped_iff.mpr ⟨rfl, rfl⟩)
    | notText hread htext =>
      simp only [hread, unitOf, htext]
      exact congrArg Except.error (SourceProblem.ofFault_eq_escaped_iff.mpr ⟨rfl, rfl⟩)
    | undecodable hread htext hfault =>
      simp only [hread, unitOf, htext]
      exact congrArg Except.error (SourceProblem.ofFault_eq_escaped_iff.mpr ⟨hfault, rfl⟩)

/-- A unit has the path of the file that it was loaded from, and the mapper that it was loaded with.
-/
theorem of_loadUnit {mapper : PositionMapper} {path : Path} {unit : SourceUnit}
    (h : loadUnit host mapper path = .ok unit) : unit.path = path.text ∧ unit.mapper = mapper := by
  unfold loadUnit at h
  split at h
  · cases h
  unfold unitOf at h
  split at h
  · cases h
  · cases h
  split at h
  · cases h
  · cases h
    exact ⟨rfl, rfl⟩

/-- The units of the source files that can be loaded. -/
def loadedUnits (host : Host SourceFile) (mapper : PositionMapper) (sources : List Path) :
    List SourceUnit :=
  sources.filterMap fun source => (loadUnit host mapper source).toOption

/-- A unit that was loaded comes from one of the source files. -/
theorem exists_source_of_mem_loadedUnits {mapper : PositionMapper} {sources : List Path}
    {unit : SourceUnit} (h : unit ∈ loadedUnits host mapper sources) :
    ∃ source ∈ sources, unit.path = source.text ∧ unit.mapper = mapper := by
  obtain ⟨source, hsource, hunit⟩ := List.mem_filterMap.mp h
  exact ⟨source, hsource, of_loadUnit (toOption_eq_some_iff.mp hunit)⟩

/-- A part that was loaded or left out is kept, unless a fault escapes. -/
theorem kept_outcome_eq_ok_iff {α : Type} {result : Except SourceProblem α} {part? : Option α} :
    (kept result).outcome = .ok part?
      ↔ (∀ fault, result ≠ .error (.escaped fault)) ∧ result.toOption = part? := by
  cases result with
  | ok part => simp [kept, Reported.ok, Except.toOption]
  | error problem =>
    cases problem with
    | reported diagnostic => simp [kept, Reported.withDiagnostic, Except.toOption]
    | escaped fault => simp [kept, Reported.fail]

/-- What keeps a part from being kept is the fault that escapes. -/
theorem kept_outcome_eq_error_iff {α : Type} {result : Except SourceProblem α} {fault : Fault} :
    (kept result).outcome = .error fault ↔ result = .error (.escaped fault) := by
  cases result with
  | ok part => simp [kept, Reported.ok]
  | error problem => cases problem <;> simp [kept, Reported.withDiagnostic, Reported.fail]

/-- Loading source files has a result exactly if none of them has an obstacle. -/
theorem loadUnits_outcome_eq_ok_iff {mapper : PositionMapper} {sources : List Path}
    {units : List SourceUnit} :
    (loadUnits host mapper sources).outcome = .ok units
      ↔ (∀ source ∈ sources, ∀ fault, ¬ SourceObstacle host source fault)
        ∧ units = loadedUnits host mapper sources := by
  have hparts (parts : List (Option SourceUnit)) :
      (Reported.forEach (fun source => kept (loadUnit host mapper source)) sources).outcome
          = .ok parts
        ↔ (∀ source ∈ sources, ∀ fault, ¬ SourceObstacle host source fault)
          ∧ sources.map (fun source => (loadUnit host mapper source).toOption) = parts := by
    rw [Reported.forEach_outcome_eq_ok_iff]
    simp only [kept_outcome_eq_ok_iff, List.forall₂_and_left, ne_eq, loadUnit_eq_escaped_iff]
    rw [← List.forall₂_map_left_iff, List.forall₂_eq_eq_eq]
  rw [loadUnits, Reported.map_outcome_eq_ok_iff]
  simp only [hparts]
  constructor
  · rintro ⟨parts, ⟨hquiet, rfl⟩, rfl⟩
    exact ⟨hquiet, by simp [loadedUnits, List.filterMap_map]⟩
  · rintro ⟨hquiet, rfl⟩
    exact ⟨_, ⟨hquiet, rfl⟩, by simp [loadedUnits, List.filterMap_map]⟩

/-- Loading source files fails with the fault of an obstacle in one of them. -/
theorem exists_of_loadUnits_error {mapper : PositionMapper} {sources : List Path} {fault : Fault}
    (h : (loadUnits host mapper sources).outcome = .error fault) :
    ∃ source ∈ sources, SourceObstacle host source fault := by
  obtain ⟨source, hsource, hkept⟩ :=
    Reported.exists_of_forEach_error (Reported.map_outcome_eq_error_iff.mp h)
  exact ⟨source, hsource, loadUnit_eq_escaped_iff.mp (kept_outcome_eq_error_iff.mp hkept)⟩

/-- The paths of the units come from the source files, in the same order. -/
theorem loadedUnits_paths_sublist (host : Host SourceFile) (mapper : PositionMapper)
    (sources : List Path) :
    ((loadedUnits host mapper sources).map (·.path)).Sublist (sources.map Path.text) := by
  induction sources with
  | nil => exact .slnil
  | cons source sources ih =>
    rw [loadedUnits, List.filterMap_cons]
    cases hunit : loadUnit host mapper source with
    | error diagnostic => exact ih.cons _
    | ok unit =>
      rw [List.map_cons, ← (of_loadUnit hunit).1]
      exact ih.cons_cons _

/-! ## Projects -/

/-- There is a file exactly where one can be read. -/
theorem isFile?_eq_true_iff {F : Type} {host : Host F} {path : Path} :
    host.isFile? path = .ok true ↔ ∃ contents, host.readFile path = .ok contents := by
  simp only [Host.isFile?, mapError_eq_ok_iff, FileTree.isFile?, FileTree.probe, Host.readFile]
  cases FileTree.hasNull path with
  | true => simp
  | false =>
    cases host.tree.lookup host.working path with
    | error fault => cases fault <;> simp
    | ok entry => cases entry <;> simp

/-- Of the reasons for which bytes are no document, only one is expected. -/
theorem DocumentFault.toFault_eq_none_iff {bytes : List UInt8} {documentFault : DocumentFault} :
    documentFault.toFault bytes = none ↔ documentFault = .notDocument := by
  cases documentFault <;> simp [DocumentFault.toFault]

/-- A member that holds a document can be loaded. -/
theorem checkMember_of_readFile {path : Path} {file : SourceFile} {document : List (String × Value)}
    (hread : host.readFile path = .ok file)
    (hdocument : documentOf host.platform.room file.bytes = .ok document) :
    checkMember host path = .ok none := by
  have hfile : host.isFile? path = .ok true := isFile?_eq_true_iff.mpr ⟨file, hread⟩
  simp only [checkMember, hfile, hread, hdocument]

/-- A member that can be loaded holds a document. -/
theorem exists_document_of_checkMember {path : Path} (h : checkMember host path = .ok none) :
    ∃ file document, host.readFile path = .ok file
      ∧ documentOf host.platform.room file.bytes = .ok document := by
  unfold checkMember at h
  split at h
  · cases h
  · cases h
  split at h
  · cases h
  next file hread =>
    split at h
    next document hdocument => exact ⟨file, document, hread, hdocument⟩
    · split at h <;> cases h

/-- The project of a member whose descriptor can be loaded. -/
def memberProject (host : Host SourceFile) (scope : LoadScope) (member : Path) : Project :=
  ⟨member.text, member.parent.text,
    loadedUnits host scope.mapper (projectSources host scope member)⟩

/-- The source files of a project are loaded to the end: the walk of its directory does not go too
deep, and none of them has an obstacle. -/
structure SourcesLoad (host : Host SourceFile) (scope : LoadScope) (member : Path) : Prop where
  walked : host.platform.shortage? (.walking member.parent) = none
  quiet : ∀ source ∈ projectSources host scope member, ∀ fault, ¬ SourceObstacle host source fault

section

variable {scope : LoadScope} {member : Path}

/-- A member whose descriptor can be loaded is loaded exactly if its source files are. -/
theorem loadProject_outcome_eq_ok_iff (hcheck : checkMember host member = .ok none)
    {project? : Option Project} :
    (loadProject host scope member).outcome = .ok project?
      ↔ SourcesLoad host scope member ∧ project? = some (memberProject host scope member) := by
  unfold loadProject
  rw [hcheck]
  dsimp only
  -- The walk comes before any source file is read.
  cases hwalk : host.platform.shortage? (.walking member.parent) with
  | some message =>
    constructor
    · intro h
      cases h
    · rintro ⟨hload, -⟩
      cases hwalk.symm.trans hload.walked
  | none =>
    dsimp only
    rw [Reported.map_outcome_eq_ok_iff]
    simp only [loadUnits_outcome_eq_ok_iff]
    constructor
    · rintro ⟨units, ⟨hquiet, rfl⟩, rfl⟩
      exact ⟨⟨hwalk, hquiet⟩, rfl⟩
    · rintro ⟨hload, rfl⟩
      exact ⟨_, ⟨hload.quiet, rfl⟩, rfl⟩

/-- A member becomes a project exactly if its descriptor can be loaded and its source files are
loaded to the end. -/
theorem loadProject_eq_some_iff {project : Project} :
    (loadProject host scope member).outcome = .ok (some project)
      ↔ checkMember host member = .ok none ∧ SourcesLoad host scope member
        ∧ project = memberProject host scope member := by
  cases hcheck : checkMember host member with
  | error fault => simp [loadProject, hcheck, Reported.fail]
  | ok problem =>
    cases problem with
    | some diagnostic => simp [loadProject, hcheck, Reported.withDiagnostic]
    | none => simp [loadProject_outcome_eq_ok_iff hcheck]

end

/-- The projects that are loaded are those of some of the members, in their order. -/
theorem loadProjects_eq_ok {scope : LoadScope} {members : List Path} {projects : List Project}
    (h : (loadProjects host scope members).outcome = .ok projects) :
    ∃ loaded : List Path, loaded.Sublist members
      ∧ projects = loaded.map (memberProject host scope) := by
  obtain ⟨found, hfound, rfl⟩ := Reported.map_outcome_eq_ok_iff.mp h
  have hall := Reported.forEach_outcome_eq_ok_iff.mp hfound
  clear h hfound
  induction hall with
  | nil => exact ⟨[], .slnil, rfl⟩
  | @cons member part members found hmember _ ih =>
    obtain ⟨loaded, hloaded, hprojects⟩ := ih
    cases part with
    | none => exact ⟨loaded, hloaded.cons member, hprojects⟩
    | some project =>
      refine ⟨member :: loaded, hloaded.cons_cons member, ?_⟩
      rw [List.map_cons, ← hprojects, ← (loadProject_eq_some_iff.mp hmember).2.2]
      rfl

/-- The projects that are loaded are those of the members whose descriptors can be loaded. -/
theorem mem_of_loadProjects_iff {scope : LoadScope} {members : List Path} {projects : List Project}
    (h : (loadProjects host scope members).outcome = .ok projects) {project : Project} :
    project ∈ projects ↔ ∃ member ∈ members, checkMember host member = .ok none
      ∧ project = memberProject host scope member := by
  obtain ⟨found, hfound, rfl⟩ := Reported.map_outcome_eq_ok_iff.mp h
  have hsteps := Reported.forEach_outcome_eq_ok_iff.mp hfound
  simp only [List.mem_filterMap, id_eq, exists_eq_right, mem_iff_of_forall₂_ok hsteps]
  refine exists_congr fun member => and_congr_right fun hmember => ?_
  obtain ⟨part, -, hpart⟩ := exists_of_mem_forall₂ hsteps.flip hmember
  constructor
  · intro h
    obtain ⟨hcheck, -, rfl⟩ := loadProject_eq_some_iff.mp h
    exact ⟨hcheck, rfl⟩
  · rintro ⟨hcheck, rfl⟩
    exact loadProject_eq_some_iff.mpr
      ⟨hcheck, ((loadProject_outcome_eq_ok_iff hcheck).mp hpart).1, rfl⟩

/-! ## Workspaces -/

/-- An opened workspace has the path and the directory of its descriptor, and the projects of some
of the members that the descriptor declares. All these paths are resolved. -/
theorem openWorkspace_eq_loaded (hhost : host.WellFormed) {settings : Settings}
    {mapper : PositionMapper} {descriptor : Path} (hdescriptor : descriptor.IsProper)
    {workspace : Workspace}
    (h : (openWorkspace host settings mapper descriptor).outcome = .ok workspace) :
    ∃ (path : Path) (document : List (String × Value)) (members loaded : List Path)
      (scope : LoadScope),
      path.IsResolved ∧ (∀ member ∈ members, member.IsResolved)
      ∧ (declaredMembers host settings path document).outcome = .ok members
      ∧ loaded.Sublist members ∧ scope.memberRoots = members.map Path.parent
      ∧ scope.mapper = mapper
      ∧ workspace = ⟨path.text, path.parent.text, loaded.map (memberProject host scope)⟩ := by
  unfold openWorkspace at h
  split at h
  · cases h
  next path hpath =>
    split at h
    · cases h
    next document hdocument =>
      obtain ⟨members, hmembers, hopened⟩ := Reported.andThen_outcome_eq_ok_iff.mp h
      obtain ⟨projects, hprojects, rfl⟩ := Reported.map_outcome_eq_ok_iff.mp hopened
      obtain ⟨loaded, hloaded, rfl⟩ :=
        loadProjects_eq_ok (Reported.mapFault_outcome_eq_ok_iff.mp hprojects)
      have hresolved := descriptorPath_isResolved hhost hdescriptor hpath
      exact ⟨path, document, members, loaded, _, hresolved,
        declaredMembers_isResolved hhost hresolved hmembers, hmembers, hloaded, rfl, rfl, rfl⟩

/-- An opened workspace holds the projects of some of its members, all of which are resolved paths.
-/
theorem openWorkspace_eq_ok (hhost : host.WellFormed) {settings : Settings}
    {mapper : PositionMapper} {descriptor : Path} (hdescriptor : descriptor.IsProper)
    {workspace : Workspace}
    (h : (openWorkspace host settings mapper descriptor).outcome = .ok workspace) :
    ∃ (members loaded : List Path) (scope : LoadScope),
      (∀ member ∈ members, member.IsResolved) ∧ loaded.Sublist members
      ∧ scope.memberRoots = members.map Path.parent
      ∧ workspace.projects = loaded.map (memberProject host scope) := by
  obtain ⟨-, -, members, loaded, scope, -, hresolved, -, hloaded, hroots, -, rfl⟩ :=
    openWorkspace_eq_loaded hhost hdescriptor h
  exact ⟨members, loaded, scope, hresolved, hloaded, hroots, rfl⟩

end WorkspaceLint
