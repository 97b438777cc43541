import WorkspaceLint.Proofs.Analysis.CompletedRuns
import WorkspaceLint.Proofs.Report.Relative
import WorkspaceLint.Proofs.Workspace.Accounts
import WorkspaceLint.Proofs.Workspace.Ownership
import WorkspaceLint.Text.Blank

/-!
# The blocks of a report

A report is a list of entries, and nothing but blank entries marks where the block of a project
begins and where its header ends. That is enough: no header and no line of a finding is blank,
whatever the finding says and wherever it lies, so a report is taken apart at its blank entries.

* `textLines_eq_flatMap`   — a report is made of the blocks of the projects with findings.
* `splitOnP_textLines`     — taken apart at its blank entries, it yields their headers and lines.
* `openWorkspace_projects` — the projects of an opened workspace have resolved, distinct paths.
* `headers_nodup`          — so no two of them have the same header.
-/

namespace WorkspaceLint

namespace Report

/-! ## Entries -/

/-- Whether an entry of a report holds nothing but white space. -/
def isBlank (entry : String) : Bool := entry.toList.all Text.isWhiteSpace

/-- The header of a project, which is shown relative to the given directory. -/
def header (root : String) (project : Project) : String :=
  "In " ++ relativize project.path root ++ ":"

/-- The lines of a project's findings. -/
def findingLines (result : ProjectResult) : List String :=
  result.findings.map fun finding => (lineOf result.project.root finding).text

/-- The results of the projects that have findings. -/
def withFindings (results : List ProjectResult) : List ProjectResult :=
  results.filter fun result => !result.findings.isEmpty

/-- Results without findings are left out once and for all. -/
theorem withFindings_withFindings (results : List ProjectResult) :
    withFindings (withFindings results) = withFindings results := by
  simp only [withFindings, List.filter_filter, Bool.and_self]

/-- An entry with a character that is no white space is not blank. -/
theorem isBlank_eq_false {entry : String} {c : Char} (hmem : c ∈ entry.toList)
    (hc : Text.isWhiteSpace c = false) : isBlank entry = false :=
  List.all_eq_false.mpr ⟨c, hmem, by simp [hc]⟩

/-- A header is not blank. -/
theorem header_not_blank (root : String) (project : Project) : isBlank (header root project) = false :=
  isBlank_eq_false (c := 'I') (by simp [header]) (by decide)

/-- A line of a finding is not blank. -/
theorem line_not_blank (line : Line) : isBlank line.text = false :=
  isBlank_eq_false (c := ',') (by simp [Line.text]) (by decide)

/-- No line about the findings of a result is blank. -/
theorem findingLines_not_blank (result : ProjectResult) :
    ∀ line ∈ findingLines result, isBlank line = false := by
  intro line hline
  obtain ⟨finding, -, rfl⟩ := List.mem_map.mp hline
  exact line_not_blank _

/-! ## Blocks -/

/-- A project with findings has a blank entry, its header, another blank entry, and its findings. -/
theorem projectLines_of_findings (root : String) {result : ProjectResult} (h : result.findings ≠ []) :
    projectLines root result = "" :: header root result.project :: "" :: findingLines result := by
  rw [projectLines, if_neg (by simpa using h)]
  rfl

/-- A project without findings has no lines. -/
theorem projectLines_of_no_findings (root : String) {result : ProjectResult}
    (h : result.findings = []) : projectLines root result = [] := by
  rw [projectLines, h]
  rfl

/-- A report is made of the blocks of the projects with findings. -/
theorem textLines_eq_flatMap (result : AnalysisResult) :
    textLines result = (withFindings result.projects).flatMap fun project =>
      "" :: header result.workspace.root project.project :: "" :: findingLines project := by
  rw [textLines, withFindings]
  induction result.projects with
  | nil => rfl
  | cons project projects ih =>
    rw [List.flatMap_cons, ih, List.filter_cons]
    by_cases hfindings : project.findings = []
    · rw [projectLines_of_no_findings _ hfindings, hfindings]
      rfl
    · rw [projectLines_of_findings _ hfindings, if_pos (by simpa using hfindings)]
      rfl

/-- Taking blocks apart at blank entries. What stands before the blocks is one piece, and so are the
lines of each block before the next one. -/
theorem splitOnP_blocks (root : String) (before : List String) (results : List ProjectResult)
    (hbefore : ∀ entry ∈ before, isBlank entry = false) :
    (before ++ results.flatMap fun result =>
        "" :: header root result.project :: "" :: findingLines result).splitOnP isBlank
      = before :: results.flatMap fun result =>
          [[header root result.project], findingLines result] := by
  -- The lines of the first block are what stands before the others.
  induction results generalizing before with
  | nil =>
    rw [List.flatMap_nil, List.flatMap_nil, List.append_nil]
    exact List.splitOnP_eq_singleton hbefore
  | cons result results ih =>
    have hheader : ∀ entry ∈ [header root result.project], isBlank entry = false :=
      List.forall_mem_singleton.mpr (header_not_blank root result.project)
    rw [List.flatMap_cons, List.flatMap_cons, List.cons_append,
      List.splitOnP_append_cons_of_forall_mem hbefore _ rfl, List.cons_append, List.cons_append,
      ← List.singleton_append (x := header root result.project),
      List.splitOnP_append_cons_of_forall_mem hheader _ rfl,
      ih (findingLines result) (findingLines_not_blank result)]
    rfl

/-- Taken apart at its blank entries, a report yields nothing and then, in turns, the header and the
lines of each project with findings. -/
theorem splitOnP_textLines (result : AnalysisResult) :
    (textLines result).splitOnP isBlank
      = [] :: (withFindings result.projects).flatMap fun project =>
          [[header result.workspace.root project.project], findingLines project] := by
  rw [textLines_eq_flatMap]
  exact splitOnP_blocks _ [] _ (by simp)

/-! ## Headers -/

/-- The projects of an opened workspace have resolved paths, all of them distinct, and so has the
directory of the workspace. -/
theorem openWorkspace_projects {host : Host SourceFile} (hhost : host.WellFormed)
    {settings : Settings} {mapper : PositionMapper} {descriptor : Path}
    (hdescriptor : descriptor.IsProper) {workspace : Workspace}
    (h : (openWorkspace host settings mapper descriptor).outcome = .ok workspace) :
    ∃ (root : Path) (members : List Path), root.IsResolved ∧ workspace.root = root.text
      ∧ (∀ member ∈ members, member.IsResolved) ∧ members.Nodup
      ∧ workspace.projects.map Project.path = members.map Path.text := by
  obtain ⟨path, _, members, loaded, scope, hresolved, hmember, hmembers, hloaded, -, -, rfl⟩ :=
    openWorkspace_eq_loaded hhost hdescriptor h
  obtain ⟨-, -, hdistinct, -⟩ := exists_declaration_of_declaredMembers hmembers
  refine ⟨path.parent, loaded, hresolved.parent, rfl, fun member hmem =>
    hmember member (hloaded.subset hmem), hloaded.nodup hdistinct, ?_⟩
  rw [List.map_map]
  rfl

/-- No two projects of an opened workspace have the same header. -/
theorem headers_nodup {root : Path} (hroot : root.IsResolved) {members : List Path}
    (hmembers : ∀ member ∈ members, member.IsResolved) (hdistinct : members.Nodup)
    {projects : List Project} (hpaths : projects.map Project.path = members.map Path.text) :
    (projects.map (header root.text)).Nodup := by
  have hshown : projects.map (header root.text)
      = (projects.map Project.path).map fun path => "In " ++ relativize path root.text ++ ":" := by
    rw [List.map_map]
    rfl
  rw [hshown, hpaths, List.map_map]
  refine hdistinct.map_on fun member hmember other hother h => ?_
  refine relativize_injective (hmembers member hmember) (hmembers other hother) hroot ?_
  simpa [String.append_assoc] using h

/-! ## Reports of opened workspaces -/

/-- **A report is taken apart at its blank entries.** What is between the blank entries of a report
of an opened workspace are the headers and the lines of the projects with findings, each header
followed by the lines of its project, in the order of the workspace. There are as many lines as
findings, and neither a header nor a line is blank. No two projects have the same header, and the
report is the same without the projects that have no findings. -/
theorem openWorkspace_report_blocks {host : Host SourceFile} (hhost : host.WellFormed)
    {settings : Settings} {mapper : PositionMapper} {descriptor : String} {workspace : Workspace}
    (h : (openWorkspace host settings mapper (Path.ofText descriptor)).outcome = .ok workspace)
    {result : AnalysisResult} (hresult : result.IsOver workspace) :
    let shown := withFindings result.projects
    (textLines result).splitOnP isBlank
      = [] :: shown.flatMap (fun project =>
          [[header workspace.root project.project], findingLines project])
    ∧ textLines result = shown.flatMap (fun project =>
        "" :: header workspace.root project.project :: "" :: findingLines project)
    ∧ (shown.map ProjectResult.project).Sublist workspace.projects
    ∧ (∀ project ∈ result.projects,
        isBlank (header workspace.root project.project) = false
        ∧ (∀ line ∈ findingLines project, isBlank line = false)
        ∧ (findingLines project).length = project.findings.length)
    ∧ (workspace.projects.map (header workspace.root)).Nodup
    ∧ textLines { result with projects := shown } = textLines result := by
  obtain ⟨root, members, hroot, hworkspace, hmembers, hdistinct, hpaths⟩ :=
    openWorkspace_projects hhost (Path.ofText_isProper descriptor) h
  obtain ⟨rfl, hprojects⟩ := hresult
  refine ⟨splitOnP_textLines result, textLines_eq_flatMap result, ?_, fun project _ => ?_, ?_, ?_⟩
  · rw [← hprojects]
    exact List.filter_sublist.map ProjectResult.project
  · exact ⟨header_not_blank _ _, findingLines_not_blank project, List.length_map _⟩
  · -- Headers are relative paths of different members below one root.
    rw [hworkspace]
    exact headers_nodup hroot hmembers hdistinct hpaths
  · rw [textLines_eq_flatMap, textLines_eq_flatMap, withFindings_withFindings]

/-- A finding with neither a code nor a message in a project beside one without findings. -/
theorem nestedWorkspace_report_blocks :
    let result : AnalysisResult := ⟨nestedWorkspace,
      [⟨nestedWorkspace.projects[0], [⟨"", 1, 1, "", ""⟩], [], []⟩,
        ⟨nestedWorkspace.projects[1], [], [], []⟩]⟩
    (textLines result).splitOnP isBlank = [[], ["In a/pyproject.toml:"], [", line 1 : "]] :=
  (openWorkspace_report_blocks sampleHost_wellFormed nestedWorkspace_opens ⟨rfl, rfl⟩).1.trans
    (by decide)

end Report

end WorkspaceLint
