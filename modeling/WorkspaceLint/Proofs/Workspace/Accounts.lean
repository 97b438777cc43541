import WorkspaceLint.Proofs.Workspace.Loading
import WorkspaceLint.Proofs.Workspace.Walk

/-!
# What becomes of members and source files

When a workspace opens, nothing is lost on the way. Every member becomes a project or is left out
with one diagnostic, and every source file of a project becomes a unit or is left out with one
diagnostic. The diagnostics reported are these, one after another, behind one for each pattern that
matches nothing.

## Shape of the account

A `SourceRecord` says what became of a source file, a `MemberRecord` what became of a member.
`SourceAccount` and `MemberAccount` say which records are right: that of a source file is told by
what reading the file gives, that of a member by the same and by the records of its source files.

* `loadProject_eq_of_account`, `exists_account_of_loadProject` — loading a member.
* `openWorkspace_eq_of_accounts`, `exists_accounts_of_openWorkspace` — opening a workspace.
* `exists_declaration_of_declaredMembers` — distinct members, and patterns that match nothing.
* `openWorkspace_accounts` — all of this together.
-/

namespace WorkspaceLint

variable {host : Host SourceFile}

/-! ## Records -/

/-- What became of the source file at a path: a unit, or the diagnostic for leaving it out. -/
structure SourceRecord where
  path : Path
  result : Except Diagnostic SourceUnit

namespace SourceRecord

/-- The unit, if the source file became one. -/
def unit? (record : SourceRecord) : Option SourceUnit := record.result.toOption

/-- What is reported of the source file. -/
def diagnostics (record : SourceRecord) : List Diagnostic :=
  match record.result with
  | .ok _ => []
  | .error diagnostic => [diagnostic]

/-- What loading the source file comes to. -/
def outcome (record : SourceRecord) : Except SourceProblem SourceUnit :=
  record.result.mapError .reported

/-- A record is told by its path and by what loading the file comes to. -/
theorem eq_of_outcome_eq {record other : SourceRecord} (hpath : record.path = other.path)
    (h : record.outcome = other.outcome) : record = other := by
  obtain ⟨path, result⟩ := record
  obtain ⟨otherPath, otherResult⟩ := other
  unfold outcome at h
  cases hpath
  cases result <;> cases otherResult <;> cases h <;> rfl

end SourceRecord

/-- What became of a member: it was left out with a diagnostic, or its source files were loaded. -/
inductive MemberRecord where
  | omitted (diagnostic : Diagnostic)
  | loaded (member : Path) (sources : List SourceRecord)

namespace MemberRecord

/-- The project, if the member became one. -/
def project? : MemberRecord → Option Project
  | .omitted _ => none
  | .loaded member sources =>
    some ⟨member.text, member.parent.text, sources.filterMap SourceRecord.unit?⟩

/-- What is reported of the member and its source files. -/
def diagnostics : MemberRecord → List Diagnostic
  | .omitted diagnostic => [diagnostic]
  | .loaded _ sources => sources.flatMap SourceRecord.diagnostics

end MemberRecord

/-! ## Source files -/

/-- What becomes of the source file at a path when reading it gives a fault or a file: the file has
to be read, its bytes have to be decoded with the codec that they declare, and the parser has to
have nothing against it. Faults that are not expected leave nothing to account for. -/
inductive SourceAccount (codecs : CodecRegistry) (mapper : PositionMapper) (path : Path) :
    Except Fault SourceFile → SourceRecord → Prop
  | unreadable {fault : Fault} (hexpected : fault.isAnyOf expectedSourceFaults = true) :
      SourceAccount codecs mapper path (.error fault)
        ⟨path, .error ⟨.unreadableSource, path.text, fault.text⟩⟩
  | undecodable {file : SourceFile} {fault : SourceText.Fault}
      (htext : SourceText.ofBytes codecs file.bytes = .error fault)
      (hexpected : (fault.toFault path.text).isAnyOf expectedSourceFaults = true) :
      SourceAccount codecs mapper path (.ok file)
        ⟨path, .error ⟨.unreadableSource, path.text, (fault.toFault path.text).text⟩⟩
  | illFormed {file : SourceFile} {problem : String}
      (htext : SourceText.ofBytes codecs file.bytes = .ok (.illFormed problem)) :
      SourceAccount codecs mapper path (.ok file) ⟨path, .error ⟨.syntaxError, path.text, problem⟩⟩
  | malformed {file : SourceFile} {source : List Char} {problem : String}
      (htext : SourceText.ofBytes codecs file.bytes = .ok (.text source))
      (hproblem : file.parseProblem = some problem) :
      SourceAccount codecs mapper path (.ok file) ⟨path, .error ⟨.syntaxError, path.text, problem⟩⟩
  | unit {file : SourceFile} {source : List Char}
      (htext : SourceText.ofBytes codecs file.bytes = .ok (.text source))
      (hproblem : file.parseProblem = none) :
      SourceAccount codecs mapper path (.ok file) ⟨path, .ok ⟨path.text, source, mapper⟩⟩

/-- The record of the source file at a path on a host is right. -/
def HasAccount (host : Host SourceFile) (mapper : PositionMapper) (path : Path)
    (record : SourceRecord) : Prop :=
  SourceAccount host.platform.codecs mapper path (host.readFile path) record

/-- What is made of a fault that is expected. -/
theorem SourceProblem.ofFault_of_expected {fault : Fault}
    (h : fault.isAnyOf expectedSourceFaults = true) (path : String) :
    ofFault path fault = .reported ⟨.unreadableSource, path, fault.text⟩ := by
  rw [ofFault, if_pos h]

section

variable {mapper : PositionMapper} {path : Path} {paths : List Path}

/-- A source file is loaded as its account says. -/
theorem HasAccount.loadUnit_eq {record : SourceRecord} (h : HasAccount host mapper path record) :
    record.path = path ∧ loadUnit host mapper path = record.outcome := by
  unfold HasAccount at h
  unfold loadUnit
  cases hread : host.readFile path with
  | error fault =>
    rw [hread] at h
    cases h with
    | unreadable hexpected =>
      exact ⟨rfl, congrArg Except.error (SourceProblem.ofFault_of_expected hexpected path.text)⟩
  | ok file =>
    rw [hread] at h
    dsimp only [unitOf]
    cases h with
    | undecodable htext hexpected =>
      rw [htext]
      exact ⟨rfl, congrArg Except.error (SourceProblem.ofFault_of_expected hexpected path.text)⟩
    | illFormed htext => exact ⟨rfl, by rw [htext]; rfl⟩
    | malformed htext hproblem => exact ⟨rfl, by rw [htext, hproblem]; rfl⟩
    | unit htext hproblem => exact ⟨rfl, by rw [htext, hproblem]; rfl⟩

/-- A source file without an obstacle can be accounted for. -/
theorem exists_hasAccount (h : ∀ fault, ¬ SourceObstacle host path fault) :
    ∃ record, HasAccount host mapper path record := by
  -- A fault that is not expected would be an obstacle.
  have hexpected (fault : Fault)
      (hfault : loadUnit host mapper path = .error (.ofFault path.text fault)) :
      fault.isAnyOf expectedSourceFaults = true := by
    refine Bool.of_not_eq_false fun hescapes => h fault (loadUnit_eq_escaped_iff.mp (hfault.trans ?_))
    exact congrArg Except.error (SourceProblem.ofFault_eq_escaped_iff.mpr ⟨hescapes, rfl⟩)
  unfold HasAccount
  unfold loadUnit at hexpected
  cases hread : host.readFile path with
  | error fault =>
    rw [hread] at hexpected
    exact ⟨_, .unreadable (hexpected fault rfl)⟩
  | ok file =>
    rw [hread] at hexpected
    dsimp only [unitOf] at hexpected
    cases htext : SourceText.ofBytes host.platform.codecs file.bytes with
    | error fault =>
      rw [htext] at hexpected
      exact ⟨_, .undecodable htext (hexpected _ rfl)⟩
    | ok decoded =>
      cases decoded with
      | illFormed problem => exact ⟨_, .illFormed htext⟩
      | text source =>
        cases hproblem : file.parseProblem with
        | some problem => exact ⟨_, .malformed htext hproblem⟩
        | none => exact ⟨_, .unit htext hproblem⟩

/-- Source files without an obstacle can be accounted for, one after another. -/
theorem exists_forall₂_hasAccount
    (h : ∀ path ∈ paths, ∀ fault, ¬ SourceObstacle host path fault) :
    ∃ records, List.Forall₂ (HasAccount host mapper) paths records := by
  induction paths with
  | nil => exact ⟨[], .nil⟩
  | cons path paths ih =>
    obtain ⟨hpath, hpaths⟩ := List.forall_mem_cons.mp h
    obtain ⟨record, hrecord⟩ := exists_hasAccount hpath
    obtain ⟨records, hrecords⟩ := ih hpaths
    exact ⟨record :: records, .cons hrecord hrecords⟩

/-- Source files that are accounted for are loaded as the records say. -/
theorem loadUnits_eq_of_accounts {records : List SourceRecord}
    (h : List.Forall₂ (HasAccount host mapper) paths records) :
    loadUnits host mapper paths
      = ⟨records.flatMap SourceRecord.diagnostics, .ok (records.filterMap SourceRecord.unit?)⟩ := by
  have hsteps : List.Forall₂ (fun path record => kept (loadUnit host mapper path)
      = ⟨SourceRecord.diagnostics record, .ok (SourceRecord.unit? record)⟩) paths records := by
    refine h.imp fun path record haccount => ?_
    rw [haccount.loadUnit_eq.2]
    unfold SourceRecord.outcome SourceRecord.diagnostics SourceRecord.unit?
    cases record.result <;> rfl
  rw [loadUnits, Reported.forEach_eq_of_forall₂ hsteps]
  simp [Reported.map, Except.map, List.filterMap_map]

end

/-! ## Members -/

/-- What is to be loaded of a workspace with the given descriptor and members. -/
def loadScope (settings : Settings) (mapper : PositionMapper) (descriptor : Path)
    (members : List Path) : LoadScope :=
  ⟨descriptor.parent, settings.exclude, members.map Path.parent, mapper⟩

/-- What becomes of a member: a file has to stand there, its bytes have to hold a document, and
then, if its directory can be walked, all source files of the project are accounted for. -/
inductive MemberAccount (host : Host SourceFile) (scope : LoadScope) (member : Path) :
    MemberRecord → Prop
  | missing (hfile : host.isFile? member = .ok false) : MemberAccount host scope member
      (.omitted ⟨.missingProject, member.text, "project file not found"⟩)
  | invalid {file : SourceFile} (hread : host.readFile member = .ok file)
      (hdocument : documentOf host.platform.room file.bytes = .error .notDocument) :
      MemberAccount host scope member
        (.omitted ⟨.invalidProject, member.text, "not a document"⟩)
  | loaded {file : SourceFile} {document : List (String × Value)} {sources : List SourceRecord}
      (hread : host.readFile member = .ok file)
      (hdocument : documentOf host.platform.room file.bytes = .ok document)
      (hwalk : host.platform.shortage? (.walking member.parent) = none)
      (hsources : List.Forall₂ (HasAccount host scope.mapper) (projectSources host scope member)
        sources) :
      MemberAccount host scope member (.loaded member sources)

section

variable {scope : LoadScope} {member : Path}

/-- A member that is accounted for is loaded as the record says. -/
theorem loadProject_eq_of_account {record : MemberRecord}
    (h : MemberAccount host scope member record) :
    loadProject host scope member = ⟨record.diagnostics, .ok record.project?⟩ := by
  cases h with
  | missing hfile =>
    simp only [loadProject, checkMember, hfile]
    rfl
  | invalid hread hdocument =>
    have hfile : host.isFile? member = .ok true := isFile?_eq_true_iff.mpr ⟨_, hread⟩
    simp only [loadProject, checkMember, hfile, hread, hdocument, DocumentFault.toFault]
    rfl
  | loaded hread hdocument hwalk hsources =>
    simp only [loadProject, checkMember_of_readFile hread hdocument, hwalk,
      loadUnits_eq_of_accounts hsources]
    rfl

/-- A member whose loading comes to an end can be accounted for. -/
theorem exists_account_of_loadProject {project? : Option Project}
    (h : (loadProject host scope member).outcome = .ok project?) :
    ∃ record, MemberAccount host scope member record := by
  cases hfile : host.isFile? member with
  | error fault =>
    simp only [loadProject, checkMember, hfile] at h
    cases h
  | ok isFile =>
    cases isFile with
    | false => exact ⟨_, .missing hfile⟩
    | true =>
      obtain ⟨file, hread⟩ := isFile?_eq_true_iff.mp hfile
      cases hdocument : documentOf host.platform.room file.bytes with
      | ok document =>
        have hload :=
          ((loadProject_outcome_eq_ok_iff (checkMember_of_readFile hread hdocument)).mp h).1
        obtain ⟨sources, hsources⟩ := exists_forall₂_hasAccount hload.quiet
        exact ⟨_, .loaded hread hdocument hload.walked hsources⟩
      | error documentFault =>
        simp only [loadProject, checkMember, hfile, hread, hdocument] at h
        -- An unexpected reason would have ended the loading, so it was an expected one.
        cases hfault : documentFault.toFault file.bytes with
        | none =>
          obtain rfl := DocumentFault.toFault_eq_none_iff.mp hfault
          exact ⟨_, .invalid hread hdocument⟩
        | some fault =>
          rw [hfault] at h
          cases h

end

/-! ## Workspaces -/

section

variable {settings : Settings} {mapper : PositionMapper} {descriptor path : Path}
  {members : List Path}

/-- Members that are accounted for are loaded as the records say. -/
theorem loadProjects_eq_of_accounts {scope : LoadScope} {records : List MemberRecord}
    (h : List.Forall₂ (MemberAccount host scope) members records) :
    loadProjects host scope members
      = ⟨records.flatMap MemberRecord.diagnostics,
          .ok (records.filterMap MemberRecord.project?)⟩ := by
  have hsteps := h.imp fun member record => loadProject_eq_of_account
  rw [loadProjects, Reported.forEach_eq_of_forall₂ hsteps]
  simp [Reported.map, Except.map, List.filterMap_map]

/-- Members whose loading comes to an end can be accounted for. -/
theorem exists_accounts_of_loadProjects {scope : LoadScope} {projects : List Project}
    (h : (loadProjects host scope members).outcome = .ok projects) :
    ∃ records, List.Forall₂ (MemberAccount host scope) members records := by
  obtain ⟨values, hvalues, -⟩ := Reported.map_outcome_eq_ok_iff.mp h
  obtain ⟨pairs, -, hpairs⟩ := exists_pairs_of_forall₂
    (Reported.forEach_outcome_eq_ok_iff.mp hvalues) fun member _ => exists_account_of_loadProject
  exact ⟨pairs.map Prod.snd, List.forall₂_map_right_iff.mpr hpairs⟩

/-- Once its members are known, opening a workspace is loading them. -/
theorem openWorkspace_outcome_of_members {document : List (String × Value)}
    (hpath : descriptorPath host descriptor = .ok path)
    (hdocument : readDescriptor host path = .ok document)
    (hmembers : (declaredMembers host settings path document).outcome = .ok members) :
    (openWorkspace host settings mapper descriptor).outcome
      = ((loadProjects host (loadScope settings mapper path members) members).outcome.mapError
          .escaped).map fun projects => ⟨path.text, path.parent.text, projects⟩ := by
  simp only [openWorkspace, hpath, hdocument, openDocument, Reported.andThen, hmembers]
  rfl

/-- A workspace the members of which are accounted for opens as the records say. -/
theorem openWorkspace_eq_of_accounts {document : List (String × Value)} {empty : List Diagnostic}
    {records : List MemberRecord} (hpath : descriptorPath host descriptor = .ok path)
    (hdocument : readDescriptor host path = .ok document)
    (hmembers : declaredMembers host settings path document = ⟨empty, .ok members⟩)
    (hrecords : List.Forall₂ (MemberAccount host (loadScope settings mapper path members)) members
      records) :
    openWorkspace host settings mapper descriptor
      = ⟨empty ++ records.flatMap MemberRecord.diagnostics,
          .ok ⟨path.text, path.parent.text, records.filterMap MemberRecord.project?⟩⟩ := by
  have hprojects := loadProjects_eq_of_accounts hrecords
  unfold loadScope at hprojects
  simp only [openWorkspace, hpath, hdocument, openDocument, hmembers, Reported.andThen, hprojects]
  rfl

/-- The members of a workspace that opens can be accounted for. -/
theorem exists_accounts_of_openWorkspace {workspace : Workspace}
    (h : (openWorkspace host settings mapper descriptor).outcome = .ok workspace) :
    ∃ path document members records, descriptorPath host descriptor = .ok path
      ∧ readDescriptor host path = .ok document
      ∧ (declaredMembers host settings path document).outcome = .ok members
      ∧ List.Forall₂ (MemberAccount host (loadScope settings mapper path members)) members
          records := by
  unfold openWorkspace at h
  split at h
  · cases h
  next path hpath =>
    split at h
    · cases h
    next document hdocument =>
      obtain ⟨members, hmembers, hopened⟩ := Reported.andThen_outcome_eq_ok_iff.mp h
      obtain ⟨projects, hprojects, -⟩ := Reported.map_outcome_eq_ok_iff.mp hopened
      obtain ⟨records, hrecords⟩ :=
        exists_accounts_of_loadProjects (Reported.mapFault_outcome_eq_ok_iff.mp hprojects)
      exact ⟨path, document, members, records, hpath, hdocument, hmembers, hrecords⟩

end

/-! ## Patterns that match nothing -/

/-- A pattern with special characters below a directory, where it can be matched and nothing that it
matches is a directory or has the suffix of descriptor files. -/
def MatchesNothing {F : Type} (host : Host F) (root : Path) (pattern : String) : Prop :=
  Glob.isPattern pattern = true ∧ host.platform.shortage? (.matching root pattern) = none
    ∧ ∃ glob found, Glob.ofText pattern = .ok glob
    ∧ host.tree.glob host.working root glob = .ok found
    ∧ ∀ path ∈ found, host.isDirectory? path = .ok false ∧ path.suffix ≠ ".toml"

/-- The patterns in a declaration. -/
def MemberDeclaration.patternTexts : MemberDeclaration → List String
  | .patterns texts _ _ => texts
  | _ => []

section

variable {F : Type} {host : Host F}

/-- No path is selected if and only if each of them is no directory and no file with the suffix. -/
theorem selectCandidates_eq_nil_iff {paths : List Path} :
    selectCandidates host paths = .ok []
      ↔ ∀ path ∈ paths, host.isDirectory? path = .ok false ∧ path.suffix ≠ ".toml" := by
  induction paths with
  | nil => simp [selectCandidates]
  | cons path paths ih =>
    rw [List.forall_mem_cons, ← ih, selectCandidates, isCandidate]
    cases host.isDirectory? path with
    | error fault => simp [Except.map]
    | ok answer =>
      cases selectCandidates host paths with
      | error fault => simp [Except.map]
      | ok rest => cases answer <;> by_cases hsuffix : path.suffix = ".toml" <;>
          simp [Except.map, hsuffix]

/-- A pattern declares no candidates exactly if it matches nothing. -/
theorem candidates_eq_nil_iff {root : Path} {pattern : String} :
    candidates host root pattern = .ok [] ↔ MatchesNothing host root pattern := by
  unfold candidates MatchesNothing
  cases Glob.isPattern pattern with
  | false => simp
  | true =>
    cases host.platform.shortage? (.matching root pattern) with
    | some message => simp
    | none =>
      cases Glob.ofText pattern with
      | error fault => simp
      | ok glob =>
        cases hfound : host.tree.glob host.working root glob with
        | error fault => simp [hfound]
        | ok found =>
          simp [hfound, map_eq_ok_iff, Path.sorted_eq_nil_iff, selectCandidates_eq_nil_iff]

instance (root : Path) (pattern : String) : Decidable (MatchesNothing host root pattern) :=
  decidable_of_iff ((candidates host root pattern).toOption = some [])
    (toOption_eq_some_iff.trans candidates_eq_nil_iff)

/-- A pattern that has been expanded is reported exactly if it matches nothing. -/
theorem expandPattern_diagnostics {root : Path} {exclusions : List String} {pattern : String}
    {paths : List Path} (h : (expandPattern host root exclusions pattern).outcome = .ok paths) :
    (expandPattern host root exclusions pattern).diagnostics
      = if MatchesNothing host root pattern then [emptyPattern root pattern] else [] := by
  unfold expandPattern at h ⊢
  split at h
  · cases h
  next found hfound =>
    cases found with
    | nil => rw [if_pos (candidates_eq_nil_iff.mp hfound)]; rfl
    | cons candidate found =>
      have hsome : ¬ MatchesNothing host root pattern := by
        rw [← candidates_eq_nil_iff, hfound]
        simp
      rw [if_neg hsome]; rfl

/-- The patterns that match nothing are reported in the order of their declaration. -/
theorem memberFiles_diagnostics {descriptor : Path} {patterns exclusions : List String}
    {rootFirst : Bool} {members : List Path}
    (h : (memberFiles host descriptor patterns exclusions rootFirst).outcome = .ok members) :
    (memberFiles host descriptor patterns exclusions rootFirst).diagnostics
      = (patterns.filter fun pattern => MatchesNothing host descriptor.parent pattern).map
          (emptyPattern descriptor.parent) := by
  obtain ⟨expanded, hexpanded, -⟩ := Reported.map_outcome_eq_ok_iff.mp h
  have hsteps := Reported.forEach_outcome_eq_ok_iff.mp hexpanded
  have hreported : (memberFiles host descriptor patterns exclusions rootFirst).diagnostics
      = patterns.flatMap fun pattern =>
          (expandPattern host descriptor.parent exclusions pattern).diagnostics :=
    Reported.forEach_diagnostics_of_ok hexpanded
  rw [hreported]
  clear h hexpanded hreported
  induction hsteps with
  | nil => rfl
  | cons hstep _ ih =>
    rw [List.flatMap_cons, expandPattern_diagnostics hstep, ih, List.filter_cons]
    split <;> simp_all

/-- No member occurs twice. -/
theorem memberFiles_nodup {descriptor : Path} {patterns exclusions : List String}
    {rootFirst : Bool} {members : List Path}
    (h : (memberFiles host descriptor patterns exclusions rootFirst).outcome = .ok members) :
    members.Nodup := by
  obtain ⟨expanded, -, rfl⟩ := Reported.map_outcome_eq_ok_iff.mp h
  have hexpanded := nodup_eraseDups expanded.flatten
  dsimp only
  split
  · refine List.nodup_cons.mpr ⟨fun hmem => ?_, hexpanded.filter _⟩
    simpa using (List.mem_filter.mp hmem).2
  · exact hexpanded

end

section

variable {settings : Settings} {descriptor : Path} {document : List (String × Value)}
  {members : List Path}

/-- What a declaration of members comes to: which patterns it has, and that no member is declared
twice. -/
theorem exists_declaration_of_declaredMembers
    (h : (declaredMembers host settings descriptor document).outcome = .ok members) :
    ∃ declaration, MemberDeclaration.of settings.projects descriptor.name document = .ok declaration
      ∧ members.Nodup
      ∧ (declaredMembers host settings descriptor document).diagnostics
        = (declaration.patternTexts.filter fun pattern =>
            MatchesNothing host descriptor.parent pattern).map (emptyPattern descriptor.parent) := by
  unfold declaredMembers at h ⊢
  split at h
  · cases h
  · cases h
  next hsingle =>
    cases h
    exact ⟨_, hsingle, List.nodup_singleton descriptor, rfl⟩
  next patterns exclusions rootFirst hpatterns =>
    have hmembers := Reported.mapFault_outcome_eq_ok_iff.mp h
    exact ⟨_, hpatterns, memberFiles_nodup hmembers, memberFiles_diagnostics hmembers⟩

end

/-! ## The account of an opened workspace -/

/-- What a walk of the project in a directory keeps out of. -/
def LoadScope.walkScope (scope : LoadScope) (root : Path) : WalkScope :=
  ⟨scope.root, scope.exclusions, scope.memberRoots.filter fun path => path ≠ root⟩

/-- The source files of a project are those that a walk of its directory selects, each once, in
order. -/
theorem projectSources_selected (htree : host.tree.WellFormed) (scope : LoadScope) (member : Path) :
    (projectSources host scope member).Nodup
    ∧ (projectSources host scope member).Pairwise (fun path other => path.precedes other = true)
    ∧ ∀ path, path ∈ projectSources host scope member ↔ ∃ location names,
        host.tree.locate host.working member.parent = .ok location
        ∧ host.tree.Finds (scope.walkScope member.parent) location member.parent names
        ∧ path = member.parent.descend names :=
  ⟨FileTree.sourceFiles_nodup htree, FileTree.pairwise_sourceFiles,
    fun _ => FileTree.mem_sourceFiles⟩

/-- **Nothing is lost while a workspace is loaded.** If a workspace opens, its members are distinct,
and each has a record that accounts for it; so has each source file that the walk of a project
selects, in order. The projects are those of the records. The diagnostics are one for each declared
pattern that matches nothing, in the order of declaration, followed by those of the records. -/
theorem openWorkspace_accounts (htree : host.tree.WellFormed) {settings : Settings}
    {mapper : PositionMapper} {descriptor : Path} {workspace : Workspace}
    (h : (openWorkspace host settings mapper descriptor).outcome = .ok workspace) :
    ∃ (path : Path) (document : List (String × Value)) (declaration : MemberDeclaration)
      (members : List Path) (records : List MemberRecord),
      let scope := loadScope settings mapper path members
      descriptorPath host descriptor = .ok path
      ∧ readDescriptor host path = .ok document
      ∧ MemberDeclaration.of settings.projects path.name document = .ok declaration
      ∧ (declaredMembers host settings path document).outcome = .ok members
      ∧ members.Nodup
      ∧ List.Forall₂ (MemberAccount host scope) members records
      ∧ (∀ member ∈ members,
          (projectSources host scope member).Nodup
          ∧ (projectSources host scope member).Pairwise (fun path other => path.precedes other = true)
          ∧ ∀ path, path ∈ projectSources host scope member ↔ ∃ location names,
              host.tree.locate host.working member.parent = .ok location
              ∧ host.tree.Finds (scope.walkScope member.parent) location member.parent names
              ∧ path = member.parent.descend names)
      ∧ workspace = ⟨path.text, path.parent.text, records.filterMap MemberRecord.project?⟩
      ∧ (openWorkspace host settings mapper descriptor).diagnostics
        = (declaration.patternTexts.filter fun pattern =>
            MatchesNothing host path.parent pattern).map (emptyPattern path.parent)
          ++ records.flatMap MemberRecord.diagnostics := by
  obtain ⟨path, document, members, records, hpath, hdocument, hmembers, hrecords⟩ :=
    exists_accounts_of_openWorkspace h
  obtain ⟨declaration, hdeclaration, hdistinct, hempty⟩ :=
    exists_declaration_of_declaredMembers hmembers
  have hdeclared : declaredMembers host settings path document
      = ⟨(declaredMembers host settings path document).diagnostics, .ok members⟩ := by
    rw [← hmembers]
  -- The records say both what is loaded and what is reported, in the order of the members.
  have hopened := openWorkspace_eq_of_accounts hpath hdocument hdeclared hrecords
  refine ⟨path, document, declaration, members, records, hpath, hdocument, hdeclaration, hmembers,
    hdistinct, hrecords, fun member _ => projectSources_selected htree _ member, ?_, ?_⟩
  · rw [hopened] at h
    exact (Except.ok.inj h).symm
  · rw [hopened, hempty]

/-! ## A workspace with parts that cannot be loaded -/

/-- A file with the given bytes, against which a parser has nothing to say. -/
def fileOf (bytes : List UInt8) : Entry SourceFile := .file ⟨bytes, none, none⟩

/-- A host with a descriptor, three members with a source file each, of which one can be loaded, one
cannot be decoded and one cannot be parsed, and a member whose descriptor is no document. -/
def damagedHost : Host SourceFile :=
  ⟨⟨[(["w"], .directory), (["w", "pyproject.toml"], fileOf []),
      (["w", "a"], .directory), (["w", "a", "pyproject.toml"], fileOf []),
      (["w", "a", "good.py"], fileOf []),
      (["w", "b"], .directory), (["w", "b", "pyproject.toml"], fileOf []),
      (["w", "b", "dark.py"], fileOf [0xFF]),
      (["w", "c"], .directory), (["w", "c", "pyproject.toml"], fileOf []),
      (["w", "c", "odd.py"], .file ⟨[], some "line 1: invalid syntax", none⟩),
      (["w", "d"], .directory), (["w", "d", "pyproject.toml"], fileOf [0x5B])]⟩,
    ["w"], ⟨.root, ["w"]⟩, .standard⟩

/-- The tree of the damaged workspace is well-formed. -/
theorem damagedHost_wellFormed : damagedHost.tree.WellFormed := ⟨by decide, by decide⟩

/-- The descriptor on this host. -/
def damagedDescriptor : Path := Path.ofText "/w/pyproject.toml"

/-- The standard settings with a pattern that matches nothing and with members one of which is
missing. -/
def damagedSettings : Settings :=
  { Settings.standard with projects := some ["none-*", "d", "gone", "c", "b", "a"] }

/-- The members that the settings name. -/
def damagedMembers : List Path :=
  ["/w/d/pyproject.toml", "/w/gone/pyproject.toml", "/w/c/pyproject.toml", "/w/b/pyproject.toml",
    "/w/a/pyproject.toml"].map Path.ofText

/-- What is left of the workspace. -/
def damagedWorkspace : Workspace :=
  ⟨"/w/pyproject.toml", "/w",
    [⟨"/w/c/pyproject.toml", "/w/c", []⟩, ⟨"/w/b/pyproject.toml", "/w/b", []⟩,
      ⟨"/w/a/pyproject.toml", "/w/a", [⟨"/w/a/good.py", [], .identity⟩]⟩]⟩

/-- What is reported of the other parts. -/
def damagedDiagnostics : List Diagnostic :=
  [⟨.emptyPattern, "/w/none-*", "pattern matched no projects"⟩,
    ⟨.invalidProject, "/w/d/pyproject.toml", "not a document"⟩,
    ⟨.missingProject, "/w/gone/pyproject.toml", "project file not found"⟩,
    ⟨.syntaxError, "/w/c/odd.py", "line 1: invalid syntax"⟩,
    ⟨.unreadableSource, "/w/b/dark.py",
      "invalid or missing encoding declaration for '/w/b/dark.py'"⟩]

/-- Its descriptor is a resolved path. -/
theorem damagedDescriptor_isResolved :
    descriptorPath damagedHost damagedDescriptor = .ok damagedDescriptor :=
  rfl

/-- Its descriptor is read as an empty document. -/
theorem damagedDescriptor_isEmpty : readDescriptor damagedHost damagedDescriptor = .ok [] := by
  have hfile : damagedHost.readFile damagedDescriptor = .ok ⟨[], none, none⟩ := rfl
  have hdocument : documentOf damagedHost.platform.room [] = .ok [] := by cbv
  simp only [readDescriptor, hfile, hdocument]

/-- Its members are declared by the settings. -/
theorem damagedMembers_declared :
    (declaredMembers damagedHost damagedSettings damagedDescriptor []).outcome
      = .ok damagedMembers :=
  toOption_eq_some_iff.mp (by decide +kernel)

/-- It opens, with what is left of it. -/
theorem damagedWorkspace_opens :
    (openWorkspace damagedHost damagedSettings .identity damagedDescriptor).outcome
      = .ok damagedWorkspace :=
  toOption_eq_some_iff.mp (by decide +kernel)

/-- Each part that cannot be loaded is reported once: the pattern, then the members in order. -/
theorem damagedWorkspace_accounts :
    damagedHost.tree.WellFormed
    ∧ ∃ records : List MemberRecord,
        List.Forall₂ (MemberAccount damagedHost
            (loadScope damagedSettings .identity damagedDescriptor damagedMembers))
          damagedMembers records
        ∧ damagedWorkspace.projects = records.filterMap MemberRecord.project?
        ∧ damagedDiagnostics
          = emptyPattern (Path.ofText "/w") "none-*" :: records.flatMap MemberRecord.diagnostics := by
  have hreported : (openWorkspace damagedHost damagedSettings .identity
      damagedDescriptor).diagnostics = damagedDiagnostics := by
    decide +kernel
  have hempty : (["none-*", "d", "gone", "c", "b", "a"].filter fun pattern =>
      MatchesNothing damagedHost damagedDescriptor.parent pattern) = ["none-*"] := by
    decide +kernel
  obtain ⟨path, document, declaration, members, records, hpath, hdocument, hdeclaration, hmembers,
    -, hrecords, -, hworkspace, hdiagnostics⟩ :=
    openWorkspace_accounts damagedHost_wellFormed damagedWorkspace_opens
  -- What the theorem speaks of is what the host has, each in its turn.
  obtain rfl : path = damagedDescriptor :=
    Except.ok.inj (hpath.symm.trans damagedDescriptor_isResolved)
  obtain rfl : document = [] := Except.ok.inj (hdocument.symm.trans damagedDescriptor_isEmpty)
  obtain rfl : members = damagedMembers :=
    Except.ok.inj (hmembers.symm.trans damagedMembers_declared)
  obtain rfl : MemberDeclaration.patterns ["none-*", "d", "gone", "c", "b", "a"] [] false
      = declaration := Except.ok.inj hdeclaration
  rw [hreported, MemberDeclaration.patternTexts, hempty] at hdiagnostics
  exact ⟨damagedHost_wellFormed, records, hrecords, congrArg Workspace.projects hworkspace,
    hdiagnostics⟩

end WorkspaceLint
