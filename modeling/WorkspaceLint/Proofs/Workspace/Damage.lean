import WorkspaceLint.Proofs.FileTree.Contents
import WorkspaceLint.Proofs.Workspace.Obstacles

/-!
# When the descriptor of a member is replaced

What the descriptor of a member holds decides only whether the member is loaded: the other members,
their order and their source files stay as they are, and so do the source files of the member
itself, `ReplacedRecord`. This is so unless the new contents bring an obstacle with them,
`ReplacementObstacle`: bytes that are neither a document nor refused as none, a member that is
loaded now and was not before, with an obstacle of its own, or a source file that is the replaced
file itself. Then the workspace does not open at all, `openWorkspace_withFile`.

## Shape of the proof

Which members there are, whether a file stands there, and which source files they have does not
depend on what files hold: `declaredMembers_withFile`, `isFile?_withFile`,
`projectSources_withFile`. So the obstacles that are there after the replacement come of it,
`memberObstacle_withFile_iff`; without any the accounts of a member before and after differ only in
what is read, `exists_replacedRecord`, and the accounts of all members make up the workspace,
`openWorkspace_eq_of_accounts`.
-/

namespace WorkspaceLint

/-! ## What does not depend on what files hold -/

section

variable {F G : Type} (change : Location → F → G) (host : Host F)

/-- Whether a path is a candidate does not depend on what files hold. -/
theorem isCandidate_mapFiles (path : Path) :
    isCandidate (host.mapFiles change) path = isCandidate host path := by
  rw [isCandidate, isCandidate, Host.isDirectory?_mapFiles]

/-- Which paths a pattern declares does not depend on what files hold. -/
theorem candidates_mapFiles (root : Path) (pattern : String) :
    candidates (host.mapFiles change) root pattern = candidates host root pattern := by
  simp only [candidates, selectCandidates_eq_mapM, isCandidate_mapFiles]
  simp only [Host.mapFiles, FileTree.glob_mapFiles]

/-- What a pattern is expanded to does not depend on what files hold. -/
theorem expandPattern_mapFiles (root : Path) (exclusions : List String) (pattern : String) :
    expandPattern (host.mapFiles change) root exclusions pattern
      = expandPattern host root exclusions pattern := by
  simp only [expandPattern, candidates_mapFiles, resolveCandidates_eq_mapM, Host.resolve_mapFiles]

/-- Which members there are does not depend on what files hold. -/
theorem memberFiles_mapFiles (descriptor : Path) (patterns exclusions : List String)
    (rootFirst : Bool) :
    memberFiles (host.mapFiles change) descriptor patterns exclusions rootFirst
      = memberFiles host descriptor patterns exclusions rootFirst := by
  have hexpand : expandPattern (host.mapFiles change) descriptor.parent exclusions
      = expandPattern host descriptor.parent exclusions :=
    funext fun pattern => expandPattern_mapFiles change host descriptor.parent exclusions pattern
  rw [memberFiles, memberFiles, hexpand]

end

section

variable (host : Host SourceFile) (place : Location) (contents : SourceFile)

/-- The path of a descriptor does not depend on what a file holds. -/
theorem descriptorPath_withFile (descriptor : Path) :
    descriptorPath (host.withFile place contents) descriptor = descriptorPath host descriptor := by
  simp only [descriptorPath, Host.withFile, Host.expandHome_mapFiles, Host.resolve_mapFiles]

/-- Which members a document declares does not depend on what a file holds. -/
theorem declaredMembers_withFile (settings : Settings) (descriptor : Path)
    (document : List (String × Value)) :
    declaredMembers (host.withFile place contents) settings descriptor document
      = declaredMembers host settings descriptor document := by
  simp only [declaredMembers, Host.withFile, memberFiles_mapFiles]

/-- Whether a file stands somewhere does not depend on what a file holds. -/
theorem isFile?_withFile (path : Path) :
    (host.withFile place contents).isFile? path = host.isFile? path :=
  Host.isFile?_mapFiles _ host path

/-- Which source files a project has does not depend on what a file holds. -/
theorem projectSources_withFile (scope : LoadScope) (member : Path) :
    projectSources (host.withFile place contents) scope member
      = projectSources host scope member := by
  simp only [projectSources, Host.withFile, Host.mapFiles, FileTree.sourceFiles_mapFiles]

end

/-! ## Records before and after -/

section

variable {host : Host SourceFile} {place : Location} {contents : SourceFile} {scope : LoadScope}
  {member : Path}

/-- Records of source files that are the same, apart from files that are read from a place. -/
def SourcesAgreeOff (host : Host SourceFile) (place : Location) :
    (sources sources' : List SourceRecord) → Prop :=
  List.Forall₂ fun source source' =>
    source.path = source'.path ∧ (¬ host.ReadsFrom source.path place → source = source')

/-- Records of a member that are the same, apart from source files that are read from a place. -/
inductive MemberRecord.AgreeOff (host : Host SourceFile) (place : Location) :
    (record record' : MemberRecord) → Prop
  | omitted {diagnostic : Diagnostic} : AgreeOff host place (.omitted diagnostic) (.omitted diagnostic)
  | loaded {member : Path} {sources sources' : List SourceRecord}
      (hsources : SourcesAgreeOff host place sources sources') :
      AgreeOff host place (.loaded member sources) (.loaded member sources')

/-- What becomes of the record of a member when the file at a place gets other contents. A member
with another descriptor is not touched. If it is the descriptor of the member, a document leaves the
member loaded or repairs it, and anything else leaves it out with one diagnostic. -/
inductive ReplacedRecord (host : Host SourceFile) (place : Location) (contents : SourceFile)
    (member : Path) : (record record' : MemberRecord) → Prop
  | untouched {record record' : MemberRecord} (hreads : ¬ host.ReadsFrom member place)
      (hagree : MemberRecord.AgreeOff host place record record') :
      ReplacedRecord host place contents member record record'
  | kept {document : List (String × Value)} {sources sources' : List SourceRecord}
      (hreads : host.ReadsFrom member place)
      (hdocument : documentOf host.platform.room contents.bytes = .ok document)
      (hsources : SourcesAgreeOff host place sources sources') :
      ReplacedRecord host place contents member (.loaded member sources) (.loaded member sources')
  | repaired {document : List (String × Value)} {diagnostic : Diagnostic}
      {sources : List SourceRecord} (hreads : host.ReadsFrom member place)
      (hdocument : documentOf host.platform.room contents.bytes = .ok document) :
      ReplacedRecord host place contents member (.omitted diagnostic) (.loaded member sources)
  | invalid {record : MemberRecord} (hreads : host.ReadsFrom member place)
      (hdocument : documentOf host.platform.room contents.bytes = .error .notDocument) :
      ReplacedRecord host place contents member record
        (.omitted ⟨.invalidProject, member.text, "not a document"⟩)

/-- What keeps a member from being loaded once the file at a place has other contents. They are in
the member's descriptor and hold no document for a reason that is not expected; or the descriptor
can be loaded for the first time, and then its directory goes too deep to be walked or a source file
has an obstacle; or the file is itself a source file of the member, with an obstacle. -/
inductive ReplacementObstacle (host : Host SourceFile) (scope : LoadScope) (place : Location)
    (contents : SourceFile) (member : Path) : Fault → Prop
  | descriptor {documentFault : DocumentFault} {fault : Fault}
      (hreads : host.ReadsFrom member place)
      (hrefused : documentOf host.platform.room contents.bytes = .error documentFault)
      (hescaped : documentFault.toFault contents.bytes = some fault) :
      ReplacementObstacle host scope place contents member fault
  | walking {document : List (String × Value)} {message : String}
      (hreads : host.ReadsFrom member place) (hbefore : checkMember host member ≠ .ok none)
      (hdocument : documentOf host.platform.room contents.bytes = .ok document)
      (hshort : host.platform.shortage? (.walking member.parent) = some message) :
      ReplacementObstacle host scope place contents member (shortageFault message)
  | repaired {document : List (String × Value)} {source : Path} {fault : Fault}
      (hreads : host.ReadsFrom member place) (hbefore : checkMember host member ≠ .ok none)
      (hdocument : documentOf host.platform.room contents.bytes = .ok document)
      (hwalk : host.platform.shortage? (.walking member.parent) = none)
      (hsource : source ∈ projectSources host scope member)
      (hobstacle : SourceObstacle (host.withFile place contents) source fault) :
      ReplacementObstacle host scope place contents member fault
  | source {source : Path} {fault : Fault}
      (hcheck : checkMember (host.withFile place contents) member = .ok none)
      (hwalk : host.platform.shortage? (.walking member.parent) = none)
      (hsource : source ∈ projectSources host scope member) (hreads : host.ReadsFrom source place)
      (hobstacle : SourceObstacle (host.withFile place contents) source fault) :
      ReplacementObstacle host scope place contents member fault

/-! ### Source files -/

/-- A source file that is not the replaced file has the same obstacles as before. -/
theorem sourceObstacle_withFile_iff {source : Path} (hreads : ¬ host.ReadsFrom source place)
    {fault : Fault} :
    SourceObstacle (host.withFile place contents) source fault
      ↔ SourceObstacle host source fault := by
  rw [← @loadUnit_eq_escaped_iff _ .identity, loadUnit,
    Host.readFile_withFile_of_not_readsFrom contents hreads, ← loadUnit_eq_escaped_iff, loadUnit]
  rfl

/-- Two records of a source file agree if the file is not the replaced one. -/
theorem HasAccount.eq_of_withFile {mapper : PositionMapper} {path : Path}
    {record record' : SourceRecord} (h : HasAccount host mapper path record)
    (h' : HasAccount (host.withFile place contents) mapper path record')
    (hreads : ¬ host.ReadsFrom path place) : record = record' := by
  obtain ⟨hpath, hload⟩ := h.loadUnit_eq
  obtain ⟨hpath', hload'⟩ := h'.loadUnit_eq
  rw [loadUnit, Host.readFile_withFile_of_not_readsFrom contents hreads] at hload'
  exact SourceRecord.eq_of_outcome_eq (hpath.trans hpath'.symm) (hload.symm.trans hload')

/-- The records of source files agree apart from files that are read from the place. -/
theorem sourcesAgreeOff_of_hasAccount {mapper : PositionMapper} {paths : List Path}
    {sources sources' : List SourceRecord}
    (h : List.Forall₂ (HasAccount host mapper) paths sources)
    (h' : List.Forall₂ (HasAccount (host.withFile place contents) mapper) paths sources') :
    SourcesAgreeOff host place sources sources' := by
  induction h generalizing sources' with
  | nil =>
    cases h'
    exact .nil
  | cons hsource _ ih =>
    cases h' with
    | cons hsource' hsources' =>
      have hpath := hsource.loadUnit_eq.1
      refine .cons ⟨hpath.trans hsource'.loadUnit_eq.1.symm, fun hreads => ?_⟩ (ih hsources')
      exact hsource.eq_of_withFile hsource' (hpath ▸ hreads)

/-! ### Members -/

/-- Whether a member can be loaded does not depend on a file that is not its descriptor. -/
theorem checkMember_withFile_of_not_readsFrom (hreads : ¬ host.ReadsFrom member place) :
    checkMember (host.withFile place contents) member = checkMember host member := by
  rw [checkMember, isFile?_withFile, Host.readFile_withFile_of_not_readsFrom contents hreads,
    checkMember]
  rfl

/-- A member that can be loaded for the first time has the new contents, and they are a document. -/
theorem readsFrom_of_checkMember_withFile (hbefore : checkMember host member ≠ .ok none)
    (hcheck : checkMember (host.withFile place contents) member = .ok none) :
    host.ReadsFrom member place
      ∧ ∃ document, documentOf host.platform.room contents.bytes = .ok document := by
  have hreads : host.ReadsFrom member place := by
    by_contra hreads
    exact hbefore ((checkMember_withFile_of_not_readsFrom hreads).symm.trans hcheck)
  obtain ⟨file, document, hread, hdocument⟩ := exists_document_of_checkMember hcheck
  rw [Host.readFile_withFile_of_readsFrom contents hreads] at hread
  cases hread
  exact ⟨hreads, document, hdocument⟩

/-- Whether there is a name too long for the system on a path does not depend on what files hold. -/
theorem probeObstacle_withFile_iff {fault : Fault} :
    ProbeObstacle (host.withFile place contents) member fault ↔ ProbeObstacle host member fault := by
  rw [← isFile?_eq_error_iff, isFile?_withFile, isFile?_eq_error_iff]

/-- What keeps a member from being loaded after the replacement comes of the replacement, if nothing
did before. -/
theorem memberObstacle_withFile_iff {record : MemberRecord}
    (h : MemberAccount host scope member record) {fault : Fault} :
    MemberObstacle (host.withFile place contents) scope member fault
      ↔ ReplacementObstacle host scope place contents member fault := by
  have hclear (fault : Fault) : ¬ MemberObstacle host scope member fault := h.not_memberObstacle
  constructor
  · -- What was there before is excluded, so each obstacle has to do with the new contents.
    intro hobstacle
    cases hobstacle with
    | probe hprobe => exact absurd (.probe (probeObstacle_withFile_iff.mp hprobe)) (hclear fault)
    | document hdocument =>
      obtain ⟨file, documentFault, hread, hrefused, hescaped⟩ := documentObstacle_iff.mp hdocument
      by_cases hreads : host.ReadsFrom member place
      · rw [Host.readFile_withFile_of_readsFrom contents hreads] at hread
        cases hread
        exact .descriptor hreads hrefused hescaped
      · rw [Host.readFile_withFile_of_not_readsFrom contents hreads] at hread
        have hbefore := documentObstacle_iff.mpr ⟨file, documentFault, hread, hrefused, hescaped⟩
        exact absurd (.document hbefore) (hclear fault)
    | walking hcheck hshort =>
      by_cases hbefore : checkMember host member = .ok none
      · exact absurd (.walking hbefore hshort) (hclear _)
      · obtain ⟨hreads, document, hdocument⟩ := readsFrom_of_checkMember_withFile hbefore hcheck
        exact .walking hreads hbefore hdocument hshort
    | @source source _ hcheck hwalk hsource hobstacle =>
      rw [projectSources_withFile] at hsource
      by_cases hbefore : checkMember host member = .ok none
      · by_cases hreads : host.ReadsFrom source place
        · exact .source hcheck hwalk hsource hreads hobstacle
        · have hsame := (sourceObstacle_withFile_iff hreads).mp hobstacle
          exact absurd (.source hbefore hwalk hsource hsame) (hclear fault)
      · obtain ⟨hreads, document, hdocument⟩ := readsFrom_of_checkMember_withFile hbefore hcheck
        exact .repaired hreads hbefore hdocument hwalk hsource hobstacle
  · intro hobstacle
    have hcheck {document : List (String × Value)} (hreads : host.ReadsFrom member place)
        (hdocument : documentOf host.platform.room contents.bytes = .ok document) :
        checkMember (host.withFile place contents) member = .ok none :=
      checkMember_of_readFile (Host.readFile_withFile_of_readsFrom contents hreads) hdocument
    have hmem {source : Path} (hsource : source ∈ projectSources host scope member) :
        source ∈ projectSources (host.withFile place contents) scope member := by
      rwa [projectSources_withFile]
    cases hobstacle with
    | descriptor hreads hrefused hescaped =>
      exact .document (documentObstacle_iff.mpr ⟨contents, _,
        Host.readFile_withFile_of_readsFrom contents hreads, hrefused, hescaped⟩)
    | walking hreads _ hdocument hshort => exact .walking (hcheck hreads hdocument) hshort
    | repaired hreads _ hdocument hwalk hsource hobstacle =>
      exact .source (hcheck hreads hdocument) hwalk (hmem hsource) hobstacle
    | source hafter hwalk hsource _ hobstacle => exact .source hafter hwalk (hmem hsource) hobstacle

/-- A member that was accounted for is accounted for with the new contents as well, if they bring no
obstacle with them. -/
theorem exists_replacedRecord {record : MemberRecord} (h : MemberAccount host scope member record)
    (hclear : ∀ fault, ¬ ReplacementObstacle host scope place contents member fault) :
    ∃ record', MemberAccount (host.withFile place contents) scope member record'
      ∧ ReplacedRecord host place contents member record record' := by
  have hload (hcheck : checkMember (host.withFile place contents) member = .ok none) :
      SourcesLoad (host.withFile place contents) scope member :=
    sourcesLoad_of_clear hcheck fun fault =>
      (not_congr (memberObstacle_withFile_iff h)).mpr (hclear fault)
  by_cases hreads : host.ReadsFrom member place
  · have hread := Host.readFile_withFile_of_readsFrom contents hreads
    cases hdocument : documentOf host.platform.room contents.bytes with
    | error documentFault =>
      cases hfault : documentFault.toFault contents.bytes with
      | none =>
        obtain rfl := DocumentFault.toFault_eq_none_iff.mp hfault
        exact ⟨_, .invalid hread hdocument, .invalid hreads hdocument⟩
      | some fault => exact absurd (.descriptor hreads hdocument hfault) (hclear fault)
    | ok document =>
      have hload := hload (checkMember_of_readFile hread hdocument)
      obtain ⟨sources', hsources'⟩ := exists_forall₂_hasAccount hload.quiet
      have haccount : MemberAccount (host.withFile place contents) scope member
          (.loaded member sources') := .loaded hread hdocument hload.walked hsources'
      rw [projectSources_withFile] at hsources'
      cases h with
      | missing hfile =>
        -- What is read is a file.
        obtain ⟨-, old, hold⟩ := hreads
        rw [isFile?_eq_true_iff.mpr ⟨old, hold⟩] at hfile
        cases hfile
      | invalid => exact ⟨_, haccount, .repaired hreads hdocument⟩
      | loaded _ _ _ hsources =>
        exact ⟨_, haccount,
          .kept hreads hdocument (sourcesAgreeOff_of_hasAccount hsources hsources')⟩
  · have hread := Host.readFile_withFile_of_not_readsFrom contents hreads
    cases h with
    | missing hfile =>
      exact ⟨_, .missing ((isFile?_withFile host place contents member).trans hfile),
        .untouched hreads .omitted⟩
    | invalid hold hdocument =>
      exact ⟨_, .invalid (hread.trans hold) hdocument, .untouched hreads .omitted⟩
    | loaded hold hdocument _ hsources =>
      have hload := hload (checkMember_of_readFile (hread.trans hold) hdocument)
      obtain ⟨sources', hsources'⟩ := exists_forall₂_hasAccount hload.quiet
      refine ⟨_, .loaded (hread.trans hold) hdocument hload.walked hsources', ?_⟩
      rw [projectSources_withFile] at hsources'
      exact .untouched hreads (.loaded (sourcesAgreeOff_of_hasAccount hsources hsources'))

/-- Members that were accounted for are so with the new contents as well, each beside its old
record. -/
theorem exists_replacedRecords {members : List Path} {records : List MemberRecord}
    (h : List.Forall₂ (MemberAccount host scope) members records)
    (hclear : ∀ member ∈ members, ∀ fault,
      ¬ ReplacementObstacle host scope place contents member fault) :
    ∃ pairs : List (MemberRecord × MemberRecord), pairs.map Prod.fst = records
      ∧ List.Forall₂ (fun member record => MemberAccount host scope member record.1
          ∧ MemberAccount (host.withFile place contents) scope member record.2
          ∧ ReplacedRecord host place contents member record.1 record.2) members pairs := by
  have hreplaced (member : Path) (record : MemberRecord)
      (h : (∀ fault, ¬ ReplacementObstacle host scope place contents member fault)
        ∧ MemberAccount host scope member record) :
      ∃ record', MemberAccount host scope member record
        ∧ MemberAccount (host.withFile place contents) scope member record'
        ∧ ReplacedRecord host place contents member record record' :=
    (exists_replacedRecord h.2 h.1).imp fun _ hrecord => ⟨h.2, hrecord⟩
  exact exists_pairs_of_forall₂ ((List.forall₂_and_left _ _).mpr ⟨hclear, h⟩) hreplaced

end

/-! ## Workspaces before and after -/

section

variable {host : Host SourceFile} {settings : Settings} {mapper : PositionMapper}
  {descriptor path : Path} {place : Location} {contents : SourceFile}
  {document : List (String × Value)} {members : List Path}

/-- The document of a descriptor that is not the replaced file stays the same. -/
theorem readDescriptor_withFile (contents : SourceFile) (hother : ¬ host.ReadsFrom path place) :
    readDescriptor (host.withFile place contents) path = readDescriptor host path := by
  rw [readDescriptor, Host.readFile_withFile_of_not_readsFrom contents hother, readDescriptor]
  rfl

/-- After the replacement, opening the workspace is loading the same members. -/
theorem openWorkspace_withFile_outcome (hpath : descriptorPath host descriptor = .ok path)
    (hdocument : readDescriptor host path = .ok document)
    (hmembers : (declaredMembers host settings path document).outcome = .ok members)
    (hother : ¬ host.ReadsFrom path place) :
    (openWorkspace (host.withFile place contents) settings mapper descriptor).outcome
      = ((loadProjects (host.withFile place contents) (loadScope settings mapper path members)
          members).outcome.mapError .escaped).map
          fun projects => ⟨path.text, path.parent.text, projects⟩ := by
  refine openWorkspace_outcome_of_members ((descriptorPath_withFile host place contents _).trans hpath)
    ((readDescriptor_withFile contents hother).trans hdocument) ?_
  rw [declaredMembers_withFile, hmembers]

/-- With contents that bring an obstacle with them, a workspace does not open. -/
theorem openWorkspace_withFile_escapes (hpath : descriptorPath host descriptor = .ok path)
    (hdocument : readDescriptor host path = .ok document)
    (hmembers : (declaredMembers host settings path document).outcome = .ok members)
    (hother : ¬ host.ReadsFrom path place) {member : Path} (hmember : member ∈ members)
    {fault : Fault}
    (hobstacle : MemberObstacle (host.withFile place contents)
      (loadScope settings mapper path members) member fault) :
    ∃ fault, (openWorkspace (host.withFile place contents) settings mapper descriptor).outcome
      = .error (.escaped fault) := by
  obtain ⟨fault, hprojects⟩ := loadProjects_fails hmember hobstacle
  rw [openWorkspace_withFile_outcome hpath hdocument hmembers hother, hprojects]
  exact ⟨fault, rfl⟩

/-- The fault that escapes after the replacement is that of an obstacle in a member. -/
theorem exists_of_openWorkspace_withFile_escaped (hpath : descriptorPath host descriptor = .ok path)
    (hdocument : readDescriptor host path = .ok document)
    (hmembers : (declaredMembers host settings path document).outcome = .ok members)
    (hother : ¬ host.ReadsFrom path place) {fault : Fault}
    (h : (openWorkspace (host.withFile place contents) settings mapper descriptor).outcome
      = .error (.escaped fault)) :
    ∃ member ∈ members, MemberObstacle (host.withFile place contents)
      (loadScope settings mapper path members) member fault := by
  rw [openWorkspace_withFile_outcome hpath hdocument hmembers hother, map_eq_error_iff,
    mapError_eq_error_iff] at h
  obtain ⟨origin, hprojects, heq⟩ := h
  cases heq
  exact exists_of_loadProjects_error hprojects

/-- **What becomes of a workspace when the descriptor of a member gets other contents.** The
workspace opens again unless the contents bring an obstacle with them for one of the members, and
the fault that escapes then is that of such an obstacle. Contents that cannot be decoded, that hold
a number with too many digits, or that go too deep to be read, always keep the workspace from
opening. Where it opens, it does so for the same members in the same order, and with the same
patterns reported. The records of all other members stay as they are, and so does that of the member
if the contents are a document, apart from source files that are read from the replaced file; if the
contents are no document, the member is left out with one diagnostic. -/
theorem openWorkspace_withFile {workspace : Workspace} {member : Path}
    (hopens : (openWorkspace host settings mapper descriptor).outcome = .ok workspace)
    (hpath : descriptorPath host descriptor = .ok path)
    (hdocument : readDescriptor host path = .ok document)
    (hmembers : (declaredMembers host settings path document).outcome = .ok members)
    (hmember : member ∈ members) (hreads : host.ReadsFrom member place)
    (hother : ¬ host.ReadsFrom path place) (contents : SourceFile) :
    let after := host.withFile place contents
    let scope := loadScope settings mapper path members
    ((∃ fault, (openWorkspace after settings mapper descriptor).outcome = .error (.escaped fault))
      ↔ ∃ member ∈ members, ∃ fault, ReplacementObstacle host scope place contents member fault)
    ∧ (∀ fault, (openWorkspace after settings mapper descriptor).outcome = .error (.escaped fault) →
        ∃ member ∈ members, ReplacementObstacle host scope place contents member fault)
    ∧ (∀ documentFault, documentOf host.platform.room contents.bytes = .error documentFault →
        documentFault ≠ .notDocument →
        ∃ fault, (openWorkspace after settings mapper descriptor).outcome = .error (.escaped fault))
    ∧ ((∀ member ∈ members, ∀ fault,
          ¬ ReplacementObstacle host scope place contents member fault) →
        ∃ (empty : List Diagnostic) (records : List (MemberRecord × MemberRecord)),
          List.Forall₂ (fun member record => MemberAccount host scope member record.1
            ∧ MemberAccount after scope member record.2
            ∧ ReplacedRecord host place contents member record.1 record.2) members records
          ∧ openWorkspace host settings mapper descriptor
            = ⟨empty ++ (records.map Prod.fst).flatMap MemberRecord.diagnostics,
                .ok ⟨path.text, path.parent.text,
                  (records.map Prod.fst).filterMap MemberRecord.project?⟩⟩
          ∧ openWorkspace after settings mapper descriptor
            = ⟨empty ++ (records.map Prod.snd).flatMap MemberRecord.diagnostics,
                .ok ⟨path.text, path.parent.text,
                  (records.map Prod.snd).filterMap MemberRecord.project?⟩⟩) := by
  intro after scope
  have hrecords : ∃ records, List.Forall₂ (MemberAccount host scope) members records := by
    rw [openWorkspace_outcome_of_members hpath hdocument hmembers, map_eq_ok_iff] at hopens
    obtain ⟨projects, hprojects, -⟩ := hopens
    exact exists_accounts_of_loadProjects (mapError_eq_ok_iff.mp hprojects)
  obtain ⟨records, hrecords⟩ := hrecords
  -- All members were accounted for, so what keeps one of them from being loaded is new.
  have hobstacle_iff {member : Path} (hmember : member ∈ members) {fault : Fault} :
      MemberObstacle after scope member fault
        ↔ ReplacementObstacle host scope place contents member fault := by
    obtain ⟨record, -, haccount⟩ := exists_of_mem_forall₂ hrecords.flip hmember
    exact memberObstacle_withFile_iff haccount
  have hfault (fault : Fault) (h : (openWorkspace after settings mapper descriptor).outcome
      = .error (.escaped fault)) :
      ∃ member ∈ members, ReplacementObstacle host scope place contents member fault := by
    obtain ⟨member, hmember, hobstacle⟩ :=
      exists_of_openWorkspace_withFile_escaped hpath hdocument hmembers hother h
    exact ⟨member, hmember, (hobstacle_iff hmember).mp hobstacle⟩
  have hescapes {member : Path} (hmember : member ∈ members) {fault : Fault}
      (hobstacle : ReplacementObstacle host scope place contents member fault) :
      ∃ fault, (openWorkspace after settings mapper descriptor).outcome = .error (.escaped fault) :=
    openWorkspace_withFile_escapes hpath hdocument hmembers hother hmember
      ((hobstacle_iff hmember).mpr hobstacle)
  refine ⟨⟨?_, ?_⟩, hfault, fun documentFault hrefused hne => ?_, fun hclear => ?_⟩
  · rintro ⟨fault, h⟩
    obtain ⟨member, hmember, hobstacle⟩ := hfault fault h
    exact ⟨member, hmember, fault, hobstacle⟩
  · rintro ⟨member, hmember, fault, hobstacle⟩
    exact hescapes hmember hobstacle
  · obtain ⟨fault, hescaped⟩ :=
      Option.ne_none_iff_exists'.mp (mt DocumentFault.toFault_eq_none_iff.mp hne)
    exact hescapes hmember (.descriptor hreads hrefused hescaped)
  · obtain ⟨pairs, rfl, hpairs⟩ := exists_replacedRecords hrecords hclear
    -- The same members are declared, and the new records account for them.
    have hafter : List.Forall₂ (MemberAccount after scope) members (pairs.map Prod.snd) :=
      List.forall₂_map_right_iff.mpr (hpairs.imp fun _ _ h => h.2.1)
    have hdeclared : declaredMembers host settings path document
        = ⟨(declaredMembers host settings path document).diagnostics, .ok members⟩ := by
      rw [← hmembers]
    refine ⟨_, pairs, hpairs, openWorkspace_eq_of_accounts hpath hdocument hdeclared hrecords,
      openWorkspace_eq_of_accounts ((descriptorPath_withFile host place contents _).trans hpath)
        ((readDescriptor_withFile contents hother).trans hdocument) ?_ hafter⟩
    rw [declaredMembers_withFile]
    exact hdeclared

end

/-! ## A member whose descriptor is damaged -/

/-- The place of the descriptor of the member that can be loaded. -/
def damagedPlace : Location := ["w", "a", "pyproject.toml"]

/-- Contents that are a text, but no document. -/
def brokenContents : SourceFile := ⟨[0x5B], none, none⟩

/-- Contents that are no text. -/
def darkContents : SourceFile := ⟨[0xFF], none, none⟩

/-- The member that is replaced is among those declared. -/
theorem damagedMember_declared : Path.ofText "/w/a/pyproject.toml" ∈ damagedMembers :=
  List.mem_map_of_mem (by simp)

/-- It is read from the place of the replacement. -/
theorem damagedMember_readsFrom :
    damagedHost.ReadsFrom (Path.ofText "/w/a/pyproject.toml") damagedPlace :=
  ⟨rfl, ⟨[], none, none⟩, rfl⟩

/-- The descriptor is not read from there. -/
theorem damagedDescriptor_not_readsFrom : ¬ damagedHost.ReadsFrom damagedDescriptor damagedPlace := by
  rintro ⟨hplace, -⟩
  have hdescriptor : damagedHost.tree.locate damagedHost.working damagedDescriptor
      = .ok ["w", "pyproject.toml"] := rfl
  rw [hdescriptor] at hplace
  exact absurd (Except.ok.inj hplace) (by decide)

/-- A member whose descriptor is no longer a document is left out, and the others are loaded as
before. -/
theorem damagedMember_isReplaced :
    (openWorkspace damagedHost damagedSettings .identity damagedDescriptor).outcome
      = .ok damagedWorkspace
    ∧ ∃ (records : List (MemberRecord × MemberRecord)) (workspace : Workspace),
        List.Forall₂ (fun member record =>
          ReplacedRecord damagedHost damagedPlace brokenContents member record.1 record.2)
            damagedMembers records
        ∧ damagedWorkspace.projects = (records.map Prod.fst).filterMap MemberRecord.project?
        ∧ (openWorkspace (damagedHost.withFile damagedPlace brokenContents) damagedSettings .identity
            damagedDescriptor).outcome = .ok workspace
        ∧ workspace.projects = (records.map Prod.snd).filterMap MemberRecord.project? := by
  have hreopens : ((openWorkspace (damagedHost.withFile damagedPlace brokenContents) damagedSettings
      .identity damagedDescriptor).outcome.toOption).isSome = true := by
    decide +kernel
  obtain ⟨reopened, hreopens⟩ := Option.isSome_iff_exists.mp hreopens
  obtain ⟨hescapes, -, -, hreplaced⟩ := openWorkspace_withFile damagedWorkspace_opens
    damagedDescriptor_isResolved damagedDescriptor_isEmpty damagedMembers_declared
    damagedMember_declared damagedMember_readsFrom damagedDescriptor_not_readsFrom brokenContents
  obtain ⟨empty, records, hrecords, hbefore, hafter⟩ :=
    hreplaced fun member hmember fault hobstacle => by
      -- The workspace opens, so no fault escapes.
      obtain ⟨fault, hfault⟩ := hescapes.mpr ⟨member, hmember, fault, hobstacle⟩
      cases hfault.symm.trans (toOption_eq_some_iff.mp hreopens)
  have hopens := damagedWorkspace_opens
  rw [hbefore] at hopens
  exact ⟨damagedWorkspace_opens, records, _, hrecords.imp fun _ _ h => h.2.2,
    (congrArg Workspace.projects (Except.ok.inj hopens)).symm,
    congrArg Reported.outcome hafter, rfl⟩

/-- A member whose descriptor is no longer a text keeps the workspace from opening, although it is
not the descriptor of the workspace. -/
theorem undecodable_member_escapes :
    (openWorkspace damagedHost damagedSettings .identity damagedDescriptor).outcome
      = .ok damagedWorkspace
    ∧ Path.ofText "/w/a/pyproject.toml" ∈ damagedMembers
    ∧ damagedHost.ReadsFrom (Path.ofText "/w/a/pyproject.toml") damagedPlace
    ∧ ¬ damagedHost.ReadsFrom damagedDescriptor damagedPlace
    ∧ ¬ ∃ workspace, (openWorkspace (damagedHost.withFile damagedPlace darkContents) damagedSettings
        .identity damagedDescriptor).outcome = .ok workspace := by
  refine ⟨damagedWorkspace_opens, damagedMember_declared, damagedMember_readsFrom,
    damagedDescriptor_not_readsFrom, ?_⟩
  have htext : Text.decodeUtf8 darkContents.bytes
      = .error ⟨"utf-8", 0xFF, 0, 1, "invalid start byte"⟩ := by
    simp only [darkContents, Text.decodeUtf8, Text.decodeUtf8From]
    rfl
  have hread := Host.readFile_withFile_of_readsFrom darkContents damagedMember_readsFrom
  obtain ⟨fault, hfault⟩ : ∃ fault, (openWorkspace (damagedHost.withFile damagedPlace darkContents)
      damagedSettings .identity damagedDescriptor).outcome = .error (.escaped fault) :=
    openWorkspace_withFile_escapes damagedDescriptor_isResolved damagedDescriptor_isEmpty
      damagedMembers_declared damagedDescriptor_not_readsFrom damagedMember_declared
      (.document (.undecodable hread htext))
  rw [hfault]
  simp

end WorkspaceLint
