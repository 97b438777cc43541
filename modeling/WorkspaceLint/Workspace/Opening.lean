import WorkspaceLint.SourceFile
import WorkspaceLint.Toml.Document
import WorkspaceLint.Workspace.Members

/-!
# Opening a workspace

A workspace is opened from its descriptor: the members are worked out, every member's descriptor is
read, and the source files of each project are loaded as units. A descriptor that cannot be read or
declares no members is an error. A member or a source file that cannot be loaded is left out, with a
diagnostic that says why.

## Shape of the errors

`WorkspaceFault` is what the caller of `openWorkspace` is told to expect. Faults of other kinds pass
through as they are: `OpenFault.escaped` holds them.
-/

namespace WorkspaceLint

/-- Why a descriptor describes no workspace. -/
inductive WorkspaceProblem where
  | notFound
  | unreadable (reason : String)
  | notDocument
  | noProjects
  | notTexts (key : MemberKey)
  deriving Repr, DecidableEq, Inhabited

/-- The words for a problem. -/
def WorkspaceProblem.text : WorkspaceProblem → String
  | .notFound => "descriptor not found"
  | .unreadable reason => reason
  | .notDocument => "invalid TOML: not a document"
  | .noProjects => "no projects declared"
  | .notTexts key => key.fullName ++ " must be a list of strings"

/-- The declared error of opening a workspace: the path of the descriptor and what is wrong. -/
structure WorkspaceFault where
  path : String
  problem : WorkspaceProblem
  deriving Repr, DecidableEq, Inhabited

/-- The account of a workspace that could not be opened. -/
def WorkspaceFault.message (fault : WorkspaceFault) : String :=
  "Workspace at " ++ fault.path ++ " could not be loaded: " ++ fault.problem.text

/-- Why a workspace was not opened. -/
inductive OpenFault where
  | declared (fault : WorkspaceFault)
  | escaped (fault : Fault)
  deriving Repr, Inhabited

/-! ## Descriptors -/

/-- Why bytes are no descriptor document. -/
inductive DocumentFault where
  | undecodable (fault : Text.DecodeFault)
  | notDocument
  | oversizedNumber (digits : Nat)
  | tooDeep
  deriving Repr, DecidableEq, Inhabited

/-- The document that the bytes of a descriptor hold, read with the given room for calls inside one
another. -/
def documentOf (room : Nat) (bytes : List UInt8) : Except DocumentFault (List (String × Value)) :=
  match Text.decodeUtf8 bytes with
  | .error fault => .error (.undecodable fault)
  | .ok text =>
    match Toml.readDocument room text with
    | .ok document => .ok document
    | .error .invalid => .error .notDocument
    | .error (.tooManyDigits count) => .error (.oversizedNumber count)
    | .error .tooDeep => .error .tooDeep

/-- The fault of a number with more digits than are read. -/
def oversizedNumberFault (digits : Nat) : Fault :=
  .withMessage "ValueError" <|
    "Exceeds the limit (4300 digits) for integer string conversion: value has " ++ toString digits
      ++ " digits; use sys.set_int_max_str_digits() to increase the limit"

/-- The fault that comes of a descriptor's bytes when its path is not expected to hold a document.
-/
def DocumentFault.toFault (bytes : List UInt8) : DocumentFault → Option Fault
  | .undecodable fault => some (.ofDecoding bytes fault)
  | .notDocument => none
  | .oversizedNumber digits => some (oversizedNumberFault digits)
  | .tooDeep => some (shortageFault shortageText)

/-- The error of a file that cannot be read. -/
def unreadableDescriptor (path : String) (fault : Fault) : OpenFault :=
  if fault.isA "FileNotFoundError" then .declared ⟨path, .notFound⟩
  else if fault.isA "OSError" then
    match fault.arguments with
    | _ :: .text reason :: _ => .declared ⟨path, .unreadable reason⟩
    | _ => .declared ⟨path, .unreadable fault.text⟩
  else .escaped fault

/-- Reads the document of a workspace descriptor. -/
def readDescriptor (host : Host SourceFile) (path : Path) :
    Except OpenFault (List (String × Value)) :=
  match host.readFile path with
  | .error fault => .error (unreadableDescriptor path.text fault)
  | .ok file =>
    match documentOf host.platform.room file.bytes with
    | .ok document => .ok document
    | .error fault =>
      match fault.toFault file.bytes with
      | some fault => .error (.escaped fault)
      | none => .error (.declared ⟨path.text, .notDocument⟩)

/-! ## Units -/

/-- Why a source file is no unit: a problem that is reported, or a fault that is not expected. -/
inductive SourceProblem where
  | reported (diagnostic : Diagnostic)
  | escaped (fault : Fault)
  deriving Repr, Inhabited

/-- The classes of the faults that reading a source file is expected to end in. -/
def expectedSourceFaults : List String := ["OSError", "UnicodeDecodeError", "SyntaxError"]

/-- What is made of the fault that reading the source file at a path ended in. -/
def SourceProblem.ofFault (path : String) (fault : Fault) : SourceProblem :=
  if fault.isAnyOf expectedSourceFaults then .reported ⟨.unreadableSource, path, fault.text⟩
  else .escaped fault

/-- A source file as a unit, or the problem for which it is none. -/
def unitOf (codecs : CodecRegistry) (mapper : PositionMapper) (path : String) (file : SourceFile) :
    Except SourceProblem SourceUnit :=
  match SourceText.ofBytes codecs file.bytes with
  | .error fault => .error (.ofFault path (fault.toFault path))
  | .ok (.illFormed problem) => .error (.reported ⟨.syntaxError, path, problem⟩)
  | .ok (.text source) =>
    match file.parseProblem with
    | some problem => .error (.reported ⟨.syntaxError, path, problem⟩)
    | none => .ok ⟨path, source, mapper⟩

/-- Loads the source file at a path. -/
def loadUnit (host : Host SourceFile) (mapper : PositionMapper) (path : Path) :
    Except SourceProblem SourceUnit :=
  match host.readFile path with
  | .error fault => .error (.ofFault path.text fault)
  | .ok file => unitOf host.platform.codecs mapper path.text file

/-- A part that was loaded, or nothing with the diagnostic for leaving it out. -/
def kept {α : Type} : Except SourceProblem α → Reported Fault (Option α)
  | .ok part => .ok (some part)
  | .error (.reported diagnostic) => .withDiagnostic diagnostic none
  | .error (.escaped fault) => .fail fault

/-- Loads source files, leaving out those that cannot be loaded. -/
def loadUnits (host : Host SourceFile) (mapper : PositionMapper) (paths : List Path) :
    Reported Fault (List SourceUnit) :=
  (Reported.forEach (fun path => kept (loadUnit host mapper path)) paths).map
    (List.filterMap id)

/-! ## Projects -/

/-- Whether a member's descriptor can be loaded: no, with a diagnostic that says why, or yes. -/
def checkMember (host : Host SourceFile) (path : Path) : Except Fault (Option Diagnostic) :=
  match host.isFile? path with
  | .error fault => .error fault
  | .ok false => .ok (some ⟨.missingProject, path.text, "project file not found"⟩)
  | .ok true =>
    match host.readFile path with
    | .error fault => .ok (some ⟨.invalidProject, path.text, fault.text⟩)
    | .ok file =>
      match documentOf host.platform.room file.bytes with
      | .ok _ => .ok none
      | .error fault =>
        match fault.toFault file.bytes with
        | some fault => .error fault
        | none => .ok (some ⟨.invalidProject, path.text, "not a document"⟩)

/-- What is to be loaded of a workspace: the directory of its descriptor, what is excluded, the
directories of all members, and how positions are mapped. -/
structure LoadScope where
  root : Path
  exclusions : List String
  memberRoots : List Path
  mapper : PositionMapper
  deriving Repr, Inhabited

/-- The source files of the project with the given descriptor. -/
def projectSources (host : Host SourceFile) (scope : LoadScope) (path : Path) : List Path :=
  host.tree.sourceFiles host.working path.parent scope.root scope.exclusions scope.memberRoots

/-- Loads the project with the given descriptor, or leaves it out. -/
def loadProject (host : Host SourceFile) (scope : LoadScope) (path : Path) :
    Reported Fault (Option Project) :=
  match checkMember host path with
  | .error fault => .fail fault
  | .ok (some diagnostic) => .withDiagnostic diagnostic none
  | .ok none =>
    match host.platform.shortage? (.walking path.parent) with
    | some message => .fail (shortageFault message)
    | none =>
      (loadUnits host scope.mapper (projectSources host scope path)).map fun units =>
        some ⟨path.text, path.parent.text, units⟩

/-- Loads the projects with the given descriptors, leaving out those that cannot be loaded. -/
def loadProjects (host : Host SourceFile) (scope : LoadScope) (paths : List Path) :
    Reported Fault (List Project) :=
  (Reported.forEach (loadProject host scope) paths).map (List.filterMap id)

/-! ## Workspaces -/

/-- The descriptor files of the members that a document declares. -/
def declaredMembers (host : Host SourceFile) (settings : Settings) (descriptor : Path)
    (document : List (String × Value)) : Reported OpenFault (List Path) :=
  match MemberDeclaration.of settings.projects descriptor.name document with
  | .error key => .fail (.declared ⟨descriptor.text, .notTexts key⟩)
  | .ok .absent => .fail (.declared ⟨descriptor.text, .noProjects⟩)
  | .ok .single => .ok [descriptor]
  | .ok (.patterns patterns exclusions rootFirst) =>
    (memberFiles host descriptor patterns exclusions rootFirst).mapFault .escaped

/-- Opens the workspace of a resolved descriptor with the given document. -/
def openDocument (host : Host SourceFile) (settings : Settings) (mapper : PositionMapper)
    (descriptor : Path) (document : List (String × Value)) : Reported OpenFault Workspace :=
  (declaredMembers host settings descriptor document).andThen fun members =>
    let scope : LoadScope :=
      ⟨descriptor.parent, settings.exclude, members.map Path.parent, mapper⟩
    ((loadProjects host scope members).mapFault .escaped).map fun projects =>
      ⟨descriptor.text, descriptor.parent.text, projects⟩

/-- The resolved path of a descriptor. -/
def descriptorPath (host : Host SourceFile) (descriptor : Path) : Except OpenFault Path :=
  match host.expandHome descriptor with
  | .error fault => .error (.escaped fault)
  | .ok path => (host.resolve path).mapError .escaped

/-- Opens the workspace of a descriptor. -/
def openWorkspace (host : Host SourceFile) (settings : Settings) (mapper : PositionMapper)
    (descriptor : Path) : Reported OpenFault Workspace :=
  match descriptorPath host descriptor with
  | .error fault => .fail fault
  | .ok path =>
    match readDescriptor host path with
    | .error fault => .fail fault
    | .ok document => openDocument host settings mapper path document

end WorkspaceLint
