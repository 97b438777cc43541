import WorkspaceLint.FileTree.Glob
import WorkspaceLint.FileTree.Host
import WorkspaceLint.Workspace.Diagnostic
import WorkspaceLint.Workspace.Discovery

/-!
# Members of a workspace

Which projects a workspace has is said by the settings or, where they do not say, by the workspace
table of the descriptor. Members are declared by patterns: a pattern without any of the special
characters is a path, any other matches directories and descriptor files. A member is the descriptor
file of a project; each is taken once, under its resolved path, where it is first met.
-/

namespace WorkspaceLint

/-- The name of the descriptor file of a project. -/
def projectFileName : String := "pyproject.toml"

/-! ## Declarations -/

/-- How the members of a workspace are declared: by patterns with exclusions, as the one project
whose descriptor it is, or not at all. `rootFirst` says that the descriptor's own project comes
before the matches of the patterns. -/
inductive MemberDeclaration where
  | patterns (patterns exclusions : List String) (rootFirst : Bool)
  | single
  | absent
  deriving Repr, DecidableEq, Inhabited

/-- A key of the workspace table that holds something else than a list of texts. -/
inductive MemberKey where
  | members
  | exclude
  deriving Repr, DecidableEq, Inhabited

/-- The full name of a key. -/
def MemberKey.fullName : MemberKey → String
  | .members => "tool.uv.workspace.members"
  | .exclude => "tool.uv.workspace.exclude"

/-- The workspace table of a descriptor. -/
def workspaceTable? (document : List (String × Value)) : Option (List (String × Value)) := do
  let .table tool ← document.lookup "tool" | none
  let .table manager ← tool.lookup "uv" | none
  let .table workspace ← manager.lookup "workspace" | none
  some workspace

/-- The texts under a key of the workspace table; no entry is an empty list. -/
def textsUnder (table : List (String × Value)) (name : String) (key : MemberKey) :
    Except MemberKey (List String) :=
  match ((table.lookup name).getD (.list [])).texts? with
  | some texts => .ok texts
  | none => .error key

/-- Whether a descriptor describes a project of its own. -/
def describesProject (document : List (String × Value)) : Bool :=
  ((document.lookup "project").getD .null).isTable

/-- How a descriptor of the given name declares its members, when the settings name the projects
they may. -/
def MemberDeclaration.of (configured : Option (List String)) (name : String)
    (document : List (String × Value)) : Except MemberKey MemberDeclaration :=
  match configured with
  | some projects => .ok (.patterns projects [] false)
  | none =>
    match workspaceTable? document with
    | none => .ok (if name = projectFileName then .single else .absent)
    | some table =>
      match textsUnder table "members" .members with
      | .error key => .error key
      | .ok members =>
        match textsUnder table "exclude" .exclude with
        | .error key => .error key
        | .ok exclusions =>
          .ok (.patterns members exclusions (name = projectFileName && describesProject document))

/-! ## Candidates -/

/-- The fault of a text that is no path pattern. -/
def GlobFault.toFault : GlobFault → Fault
  | .absolute => .withMessage "NotImplementedError" "Non-relative patterns are unsupported"
  | .misplacedDeep =>
    .withMessage "ValueError" "Invalid pattern: '**' can only be an entire path component"

section

variable {F : Type}

/-- Whether a path is a directory or has the suffix of descriptor files. -/
def isCandidate (host : Host F) (path : Path) : Except Fault Bool :=
  (host.isDirectory? path).map fun answer => answer || path.suffix == ".toml"

/-- The paths among the given ones that are candidates. -/
def selectCandidates (host : Host F) : List Path → Except Fault (List Path)
  | [] => .ok []
  | path :: paths =>
    match isCandidate host path with
    | .error fault => .error fault
    | .ok answer =>
      (selectCandidates host paths).map fun rest => if answer then path :: rest else rest

/-- The paths that a pattern declares, in order. -/
def candidates (host : Host F) (root : Path) (pattern : String) :
    Except Fault (List Path) :=
  if !Glob.isPattern pattern then .ok [root.join (Path.ofText pattern)]
  else match host.platform.shortage? (.matching root pattern) with
    | some message => .error (shortageFault message)
    | none =>
      match Glob.ofText pattern with
      | .error fault => .error fault.toFault
      | .ok glob =>
        match host.tree.glob host.working root glob with
        | .error (fault, path) => .error (fault.toFault path.text)
        | .ok paths => (selectCandidates host paths).map Path.sorted

/-- The descriptor file of the project that a candidate stands for. -/
def projectFileOf (candidate : Path) : Path :=
  if candidate.suffix = ".toml" then candidate else candidate.child projectFileName

/-- The resolved descriptor files of candidates, in order. -/
def resolveCandidates (host : Host F) : List Path → Except Fault (List Path)
  | [] => .ok []
  | candidate :: rest =>
    match host.resolve (projectFileOf candidate) with
    | .error fault => .error fault
    | .ok path => (resolveCandidates host rest).map (path :: ·)

/-! ## Members -/

/-- The diagnostic of a pattern that matches nothing. -/
def emptyPattern (root : Path) (pattern : String) : Diagnostic :=
  ⟨.emptyPattern, (root.join (Path.ofText pattern)).text, "pattern matched no projects"⟩

/-- The resolved descriptor files that a pattern declares, each as often as it declares it. -/
def expandPattern (host : Host F) (root : Path) (exclusions : List String)
    (pattern : String) : Reported Fault (List Path) :=
  match candidates host root pattern with
  | .error fault => .fail fault
  | .ok found =>
    let kept := found.filter fun candidate => !isExcluded exclusions root candidate
    ⟨if found.isEmpty then [emptyPattern root pattern] else [], resolveCandidates host kept⟩

/-- The descriptor files of the projects of a workspace, each once, in order. -/
def memberFiles (host : Host F) (descriptor : Path)
    (patterns exclusions : List String) (rootFirst : Bool) : Reported Fault (List Path) :=
  let expanded :=
    Reported.forEach (expandPattern host descriptor.parent exclusions) patterns
  expanded.map fun paths =>
    let members := paths.flatten.eraseDups
    if rootFirst then descriptor :: members.filter fun path => path ≠ descriptor else members

end

end WorkspaceLint
