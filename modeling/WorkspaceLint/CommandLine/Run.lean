import WorkspaceLint.Analysis.Run
import WorkspaceLint.CommandLine.Arguments
import WorkspaceLint.Log.Message
import WorkspaceLint.Plugin.Loading
import WorkspaceLint.Report.Basic
import WorkspaceLint.Workspace.Opening

/-!
# The command

The command loads the plugins, opens the workspace, runs the checkers and reports. The plugins come
first, so that a plugin that cannot be loaded is told without anything of the workspace being read.

## Shape of a run

A run is a list of messages and a conclusion. The messages are what the run tells the user, in
order, whether debug messages are shown or not; a failure that ends the run is the last of them. The
conclusion says whether the run was completed, failed, or was ended by a fault that nothing of the
command handles.
-/

namespace WorkspaceLint.CommandLine

open WorkspaceLint.Log (Message)

/-- What the command finds around it: a host, the installed plugins, and an order in which the units
of a project complete when several are analysed at a time. -/
structure Environment where
  host : Host SourceFile
  installed : Plugin.Installed
  order : RunMode → Analysis.CompletionOrder

/-- Why a stage of the command has no result. -/
inductive CommandFault where
  | declared (message : String)
  | escaped (fault : Fault)
  deriving Repr, Inhabited

namespace CommandFault

/-- The fault that a fault of loading plugins amounts to. -/
def ofPlugin : PluginFault → CommandFault
  | .failure failure => .declared failure.message
  | .configuration checker reason => .declared (configurationMessage checker reason)
  | .escaped fault => .escaped fault

/-- The fault that a fault of opening a workspace amounts to. -/
def ofOpening : OpenFault → CommandFault
  | .declared fault => .declared fault.message
  | .escaped fault => .escaped fault

/-- The fault that a fault of a run of checkers amounts to. -/
def ofRun : RunFault → CommandFault
  | .failed failure => .declared failure.abortMessage
  | .stopped fault => .escaped fault

end CommandFault

/-- What a stage told the user, and its result. -/
structure Stage (α : Type) where
  messages : List Message
  outcome : Except CommandFault α

namespace Stage

variable {α β : Type}

/-- A stage with a result and nothing to tell. -/
def ok (value : α) : Stage α := ⟨[], .ok value⟩

/-- A stage without a result. -/
def fail (fault : CommandFault) : Stage α := ⟨[], .error fault⟩

/-- A stage that tells messages and has a result. -/
def telling (messages : List Message) (value : α) : Stage α := ⟨messages, .ok value⟩

/-- A stage that goes on with the result of another. -/
def andThen (stage : Stage α) (next : α → Stage β) : Stage β :=
  match stage.outcome with
  | .error fault => ⟨stage.messages, .error fault⟩
  | .ok value => ⟨stage.messages ++ (next value).messages, (next value).outcome⟩

/-- What can fail without telling anything, as a stage. -/
def ofExcept {ε : Type} (toFault : ε → CommandFault) : Except ε α → Stage α
  | .ok value => ok value
  | .error fault => fail (toFault fault)

end Stage

/-! ## The stages -/

/-- A number in a debug message. -/
def countField (name : String) (count : Nat) : String × Value := (name, .int count)

/-- Loads the plugins and makes their checkers. -/
def loadStage (environment : Environment) (analyzer : String) (withInstalled : Bool) :
    Stage (List PluginClass) :=
  (Stage.ofExcept CommandFault.ofPlugin
    (Plugin.loadCheckers environment.host environment.installed withInstalled analyzer
      Session.initial).1).andThen fun types =>
    .telling [.debug [("analyzer", .text analyzer), countField "checkers" types.length]] types

/-- Reads the descriptor and works out the settings. -/
def settingsStage (host : Host SourceFile) (descriptor : Path) (options : Options) :
    Stage Settings :=
  (Stage.ofExcept CommandFault.escaped (host.expandHome descriptor)).andThen fun path =>
    (Stage.ofExcept CommandFault.ofOpening (readDescriptor host path)).andThen fun document =>
      Stage.ofExcept (fun fault => .declared (SettingsFault.message fault))
        (Settings.load (some document) options.overrides)

/-- The warnings that show some diagnostics. -/
def diagnosticMessages (settings : Settings) (diagnostics : List Diagnostic) : List Message :=
  (Diagnostic.warnings settings.diagnostics diagnostics).map .warning

/-- Opens the workspace. -/
def openStage (host : Host SourceFile) (descriptor : Path) (settings : Settings) :
    Stage Workspace :=
  let opened := openWorkspace host settings .identity descriptor
  let stage : Stage Workspace :=
    ⟨diagnosticMessages settings opened.diagnostics, opened.outcome.mapError CommandFault.ofOpening⟩
  stage.andThen fun workspace =>
    .telling [.debug [("workspace", .text workspace.path),
      countField "projects" workspace.projects.length, ("jobs", .int settings.jobs)]] workspace

/-- Runs checkers over a workspace. -/
def analysisStage (order : RunMode → Analysis.CompletionOrder) (settings : Settings)
    (types : List PluginClass) (workspace : Workspace) : Stage AnalysisResult :=
  let mode := RunMode.ofSettings settings
  Stage.ofExcept CommandFault.ofRun
    (Analysis.run mode (Registry.runnable types) (order mode) workspace []).1

/-! ## The report -/

/-- The lines of a report in a format. -/
def reportLines (format : ReportFormat) (result : AnalysisResult) : List String :=
  match format with
  | .text => Report.textLines result
  | .json => [Report.jsonText Report.printedIndent result]

/-- What is told of the result of a run. -/
def resultMessages (format : ReportFormat) (result : AnalysisResult) : List Message :=
  (reportLines format result).map .report
    ++ result.failures.map (fun failure => .warning failure.render)
    ++ result.rejections.map (fun rejection => .warning rejection.render)
    ++ [.debug [countField "projects" result.projects.length,
      countField "findings" result.findingCount, countField "failures" result.failures.length,
      countField "rejected" result.rejections.length]]

/-! ## The whole -/

/-- How a run was concluded. -/
inductive Conclusion where
  | completed
  | failed
  | escaped (fault : Fault)
  deriving Repr, Inhabited

/-- What a run told the user, and how it was concluded. -/
structure Transcript where
  messages : List Message
  conclusion : Conclusion
  deriving Repr, Inhabited

/-- The transcript of a stage that is the last one. -/
def Transcript.ofStage (stage : Stage Unit) : Transcript :=
  match stage.outcome with
  | .ok _ => ⟨stage.messages, .completed⟩
  | .error (.declared message) => ⟨stage.messages ++ [.failure message], .failed⟩
  | .error (.escaped fault) => ⟨stage.messages, .escaped fault⟩

/-- All stages of a run. -/
def stages (environment : Environment) (descriptor : Path) (analyzer : String) (options : Options) :
    Stage Unit :=
  let host := environment.host
  (loadStage environment analyzer options.installed).andThen fun types =>
    (settingsStage host descriptor options).andThen fun settings =>
      (openStage host descriptor settings).andThen fun workspace =>
        (analysisStage environment.order settings types workspace).andThen fun result =>
          .telling (resultMessages options.format result) ()

/-- Runs the plugin that is referred to as `analyzer` over the workspace of a descriptor. -/
def runCheckers (environment : Environment) (descriptor : Path) (analyzer : String)
    (options : Options) : Transcript :=
  .ofStage (stages environment descriptor analyzer options)

end WorkspaceLint.CommandLine
