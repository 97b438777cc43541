import WorkspaceLint.Proofs.Finding
import WorkspaceLint.Proofs.Report.Blocks

/-!
# The entry of a finding

A finding that a unit builds lies in the unit, and the unit lies below the directory of its project.
So the project accepts the finding, and the report displays the path of the unit from the directory
of the project on. The root of the file system as the directory of a project is left out here: below
it whole paths are displayed.

* `openWorkspace_units`       — the units of an opened workspace lie below their projects.
* `relativize_standsFor`      — what is displayed of them leads to them from there.
* `Event.count_accepted`      — an event adds the findings that its project owns as often as they
  were yielded.
* `findingLines_perm`         — a project has an entry for each finding that its events add.
-/

namespace WorkspaceLint

variable {σ : Type}

/-- Whether a unit builds a finding, at some place with some code and message. -/
def SourceUnit.Builds (unit : SourceUnit) (finding : Finding) : Prop :=
  ∃ spot code message, unit.finding spot code message = .ok finding

/-- With the identity mapper a finding is about the path of its unit. -/
theorem SourceUnit.Builds.path_eq {unit : SourceUnit} {finding : Finding} (h : unit.Builds finding)
    (hmapper : unit.mapper = .identity) : finding.path = unit.path := by
  obtain ⟨spot, code, message, hfinding⟩ := h
  exact path_of_finding hmapper hfinding

/-- A project owns a path if and only if it is that of one of its units. -/
theorem Project.owns_iff {project : Project} {path : String} :
    project.owns path = true ↔ ∃ unit ∈ project.units, unit.path = path := by
  simp [owns, unitPaths]

/-! ## What an event adds -/

namespace Event

variable {event : Event σ}

/-- A visit without a fault adds a finding that its project owns as often as it was yielded. -/
theorem count_accepted (hfault : event.fault? = none) {finding : Finding}
    (howns : event.invocation.project.owns finding.path = true) :
    event.accepted.count finding = event.visit.findings.count finding := by
  rw [accepted, counted, hfault, Option.isNone_none, if_pos rfl]
  exact List.count_filter howns

/-- What is rejected concerns no unit of the project. -/
theorem owns_of_mem_rejected {rejection : Rejection} (h : rejection ∈ event.rejected) :
    event.invocation.project.owns rejection.finding.path = false := by
  obtain ⟨finding, hfinding, rfl⟩ := List.mem_map.mp h
  simpa using (List.mem_filter.mp hfinding).2

end Event

namespace Analysis

variable {mode : RunMode} {checkers : List (Checker σ)} {order : CompletionOrder}
  {workspace : Workspace} {state : σ} {event : Event σ}

/-- The events of a run concern units of the projects of its workspace. -/
theorem of_mem_course (h : event ∈ (course mode checkers order workspace state).events) :
    workspace.projects[event.invocation.place]? = some event.invocation.project
    ∧ event.invocation.unit ∈ event.invocation.project.units := by
  obtain ⟨index, hplace, hproject, hunit, -⟩ :=
    of_mem_visitsInOrder (invocation_mem_of_mem_events h)
  rw [Nat.zero_add] at hplace
  exact ⟨hplace ▸ hproject, hunit⟩

end Analysis

namespace Report

open WorkspaceLint.Path Analysis

/-! ## What is displayed of the units of a project -/

/-- A displayed path stands for a file in a directory: it is relative, and behind the directory it
is the path of the file. -/
structure StandsFor (root path shown : String) : Prop where
  relative : (Path.ofText shown).isAbsolute = false
  path_eq : root ++ "/" ++ shown = path

/-- What is displayed of a path below a directory other than the root of the file system. -/
theorem relativize_standsFor {root : Path} {names : List String} (hroot : root.IsResolved)
    (hparts : root.parts ≠ []) (hnames : ∀ name ∈ names, IsEntryName name) (hne : names ≠ []) :
    StandsFor root.text (root.descend names).text
      (relativize (root.descend names).text root.text) := by
  rw [relativize_descend hroot hparts hnames hne]
  refine ⟨?_, (text_descend hroot hparts hnames hne).symm⟩
  have hhead := head_joinNames_ne_slash fun name hname => (hnames name hname).1
  have hanchor : anchorOf (joinNames names).toList = .relative :=
    anchorOf_anchor_text .relative hhead
  simp [ofText, isAbsolute, hanchor]

/-- The units of a project of an opened workspace lie below its directory, each at a path of its
own. -/
theorem openWorkspace_units {host : Host SourceFile} (hhost : host.WellFormed)
    {settings : Settings} {mapper : PositionMapper} {descriptor : Path}
    (hdescriptor : descriptor.IsProper) {workspace : Workspace}
    (h : (openWorkspace host settings mapper descriptor).outcome = .ok workspace) :
    ∀ project ∈ workspace.projects, ∃ root : Path, root.IsResolved ∧ project.root = root.text
      ∧ project.unitPaths.Nodup
      ∧ ∀ unit ∈ project.units, unit.mapper = mapper ∧ ∃ names ≠ [],
          (∀ name ∈ names, IsEntryName name) ∧ unit.path = (root.descend names).text := by
  obtain ⟨-, -, members, loaded, scope, -, hmember, -, hloaded, -, rfl, rfl⟩ :=
    openWorkspace_eq_loaded hhost hdescriptor h
  intro project hproject
  obtain ⟨member, hmem, rfl⟩ := List.mem_map.mp hproject
  have hresolved := hmember member (hloaded.subset hmem)
  refine ⟨member.parent, hresolved.parent, rfl, unitPaths_nodup hhost hresolved,
    fun unit hunit => ?_⟩
  obtain ⟨source, hsource, htext, hmapper⟩ := exists_source_of_mem_loadedUnits hunit
  obtain ⟨names, hne, hnames, rfl, -⟩ := exists_names_of_mem_projectSources hhost hsource
  exact ⟨hmapper, names, hne, hnames, htext⟩

/-- What is displayed of the units of an opened workspace stands for them, unless their project has
the root of the file system for its directory. -/
theorem openWorkspace_displays_units {host : Host SourceFile} (hhost : host.WellFormed)
    {settings : Settings} {mapper : PositionMapper} {descriptor : Path}
    (hdescriptor : descriptor.IsProper) {workspace : Workspace}
    (h : (openWorkspace host settings mapper descriptor).outcome = .ok workspace)
    {project : Project} (hproject : project ∈ workspace.projects) (hroot : project.root ≠ "/")
    {unit : SourceUnit} (hunit : unit ∈ project.units) :
    StandsFor project.root unit.path (relativize unit.path project.root) := by
  obtain ⟨root, hresolved, htext, -, hunits⟩ :=
    openWorkspace_units hhost hdescriptor h project hproject
  obtain ⟨-, names, hne, hnames, hpath⟩ := hunits unit hunit
  have hparts : root.parts ≠ [] := by
    intro hempty
    rw [htext, hresolved.text_eq, hempty] at hroot
    exact hroot rfl
  rw [htext, hpath]
  exact relativize_standsFor hresolved hparts hnames hne

/-! ## Entries -/

/-- The lines of a project's findings are those that its events add, up to their order. -/
theorem findingLines_perm {result : ProjectResult} {events : List (Event σ)}
    (h : result.outcome.Gathers events) :
    (findingLines result).Perm (events.flatMap fun event =>
      event.accepted.map fun finding => (lineOf result.project.root finding).text) := by
  have hlines := h.findings.map fun finding => (lineOf result.project.root finding).text
  rwa [List.map_flatMap] at hlines

/-- The block of a project in a report stands between the blocks of the projects before it and those
of the projects after it. -/
theorem textLines_eq_append {result : AnalysisResult} {place : Nat} {project : ProjectResult}
    (h : result.projects[place]? = some project) :
    textLines result
      = (result.projects.take place).flatMap (projectLines result.workspace.root)
        ++ projectLines result.workspace.root project
        ++ (result.projects.drop (place + 1)).flatMap (projectLines result.workspace.root) := by
  obtain ⟨hlt, rfl⟩ := List.getElem?_eq_some_iff.mp h
  have hsplit : result.projects = result.projects.take place
      ++ result.projects[place] :: result.projects.drop (place + 1) := by
    rw [← List.drop_eq_getElem_cons, List.take_append_drop]
  rw [textLines]
  conv_lhs => rw [hsplit]
  rw [List.flatMap_append, List.flatMap_cons, List.append_assoc]

/-! ## Findings of a completed run -/

section CompletedRun

variable {mode : RunMode} {checkers : List (Checker σ)} {order : CompletionOrder}
  {workspace : Workspace} {state : σ} {result : AnalysisResult}

/-- The project of an event has a result at its place. -/
theorem exists_result_of_event (hover : result.IsOver workspace) {event : Event σ}
    (hevent : event ∈ (course mode checkers order workspace state).events) :
    ∃ shown, result.projects[event.invocation.place]? = some shown
      ∧ shown.project = event.invocation.project := by
  have hproject := (of_mem_course hevent).1
  rw [← hover.projects_eq, List.getElem?_map] at hproject
  exact Option.map_eq_some_iff.mp hproject

/-- What a project rejects concerns none of its units. -/
theorem owns_of_mem_rejections {place : Nat} {project : Project}
    (hproject : workspace.projects[place]? = some project) {shown : ProjectResult}
    (hgathers : shown.outcome.Gathers
      (eventsAt place (course mode checkers order workspace state).events))
    {rejection : Rejection} (h : rejection ∈ shown.rejections) :
    project.owns rejection.finding.path = false := by
  obtain ⟨event, hevent, hrejected⟩ := List.mem_flatMap.mp (hgathers.rejections.mem_iff.mp h)
  obtain ⟨hmem, hplace⟩ := List.mem_filter.mp hevent
  -- An event at the place of a project is one of that project.
  have hsame := (of_mem_course hmem).1
  rw [beq_iff_eq.mp hplace, hproject] at hsame
  rw [Option.some.inj hsame]
  exact Event.owns_of_mem_rejected hrejected

end CompletedRun

/-- A checker that builds a finding at the beginning of every unit. -/
def greeter : Checker Unit :=
  ⟨"Greeter", fun unit state =>
    (⟨(unit.finding (.pair [.int 1, .int 1]) (.text "G1") (.text "hello")).toOption.toList,
      .finished⟩, state)⟩

/-- The finding of the greeter in a file. -/
def greeting (path : String) : Finding := ⟨path, 1, 1, "G1", "hello"⟩

/-- The result of greeting the files of two projects. -/
def greetedNested : AnalysisResult :=
  ⟨nestedWorkspace, nestedWorkspace.projects.map fun project =>
    ⟨project, project.unitPaths.map greeting, [], []⟩⟩

end Report

end WorkspaceLint
