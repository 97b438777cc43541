import WorkspaceLint.CommandLine.Program
import WorkspaceLint.Proofs.Plugin.Providing

/-!
# The stages of a run

A run of the command goes through its stages in a fixed order: the plugins are loaded, their
checkers are made, the settings are worked out, the workspace is opened, the checkers are run.
`Succeeds` says what the stages come to when none of them fails, and `FirstFailure` which message
the first one that fails has. All that the user gets to know of a run is told by these two:

* `stages_outcome_eq_ok_iff`, `messages_of_succeeds` — a run in which every stage succeeds.
* `stages_outcome_eq_declared_iff`, `quiet_of_fails` — a run that a stage ends.
* `output_writeAll`                                   — what is written to the standard output.
-/

namespace WorkspaceLint

open Log (Message Logger Terminals Written)

/-! ## Messages and outputs -/

namespace Log

/-- Whether a message is a note beside the report: a warning or a debug message. -/
def Message.isNote : Message → Bool
  | .warning _ | .debug _ => true
  | .report _ | .failure _ => false

/-- The line of the report that a message is, if it is one. -/
def Message.line? : Message → Option String
  | .report text => some text
  | _ => none

/-- A note is no line of the report. -/
theorem Message.line?_of_isNote {message : Message} (h : message.isNote = true) :
    message.line? = none := by
  cases message <;> first | rfl | cases h

/-- Notes leave no line in the report. -/
theorem filterMap_line?_of_notes {messages : List Message}
    (h : ∀ message ∈ messages, message.isNote = true) : messages.filterMap Message.line? = [] :=
  List.filterMap_eq_nil_iff.mpr fun message hmem => Message.line?_of_isNote (h message hmem)

/-- The lines of the report are read back from its messages. -/
theorem filterMap_line?_reports (lines : List String) :
    (lines.map Message.report).filterMap Message.line? = lines := by
  rw [List.filterMap_map]
  exact List.filterMap_some

variable (logger : Logger) (terminals : Terminals)

/-- What is written to the standard output is the line of the report, if the message is one. -/
theorem Logger.write_output (message : Message) :
    (logger.write terminals message).output
      = (message.line?.map (reportText terminals.output)).getD "" := by
  cases message with
  | report text => rfl
  | warning text => rfl
  | failure text => rfl
  | debug fields =>
    rw [Logger.write]
    split <;> rfl

/-- To the standard output the lines of the report are written, one after another, and nothing else.
-/
theorem Logger.output_writeAll (messages : List Message) :
    (logger.writeAll terminals messages).output
      = String.join ((messages.filterMap Message.line?).map (reportText terminals.output)) := by
  induction messages with
  | nil => rfl
  | cons message messages ih =>
    have hconcat : (logger.writeAll terminals (message :: messages)).output
        = (logger.write terminals message).output ++ (logger.writeAll terminals messages).output :=
      rfl
    rw [hconcat, ih, Logger.write_output, List.filterMap_cons]
    cases message.line? with
    | none => exact String.empty_append
    | some line => exact String.join_cons.symm

end Log

namespace CommandLine

/-! ## Stages one after another -/

namespace Stage

variable {α β : Type}

/-- Two stages succeed if and only if the first does and then the second. -/
theorem andThen_outcome_eq_ok_iff {stage : Stage α} {next : α → Stage β} {value : β} :
    (stage.andThen next).outcome = .ok value
      ↔ ∃ origin, stage.outcome = .ok origin ∧ (next origin).outcome = .ok value := by
  unfold andThen
  cases stage.outcome <;> simp

/-- Two stages fail if and only if the first does, or the second after the first has succeeded. -/
theorem andThen_outcome_eq_error_iff {stage : Stage α} {next : α → Stage β} {fault : CommandFault} :
    (stage.andThen next).outcome = .error fault
      ↔ stage.outcome = .error fault
        ∨ ∃ origin, stage.outcome = .ok origin ∧ (next origin).outcome = .error fault := by
  unfold andThen
  cases stage.outcome <;> simp

/-- After a stage that succeeds, the messages and the outcome of the next one follow. -/
theorem andThen_of_ok {stage : Stage α} {next : α → Stage β} {value : α}
    (h : stage.outcome = .ok value) :
    stage.andThen next = ⟨stage.messages ++ (next value).messages, (next value).outcome⟩ := by
  rw [andThen, h]

/-- After a stage that fails, nothing follows. -/
theorem andThen_of_error {stage : Stage α} {next : α → Stage β} {fault : CommandFault}
    (h : stage.outcome = .error fault) : stage.andThen next = ⟨stage.messages, .error fault⟩ := by
  rw [andThen, h]

/-- A stage made of a result succeeds if and only if the result does. -/
theorem ofExcept_outcome_eq_ok_iff {ε : Type} {toFault : ε → CommandFault} {result : Except ε α}
    {value : α} : (ofExcept toFault result).outcome = .ok value ↔ result = .ok value := by
  cases result <;> simp [ofExcept, ok, fail]

/-- A stage made of a result fails with what the fault of the result is turned into. -/
theorem ofExcept_outcome_eq_error_iff {ε : Type} {toFault : ε → CommandFault} {result : Except ε α}
    {fault : CommandFault} :
    (ofExcept toFault result).outcome = .error fault
      ↔ ∃ origin, result = .error origin ∧ toFault origin = fault := by
  cases result <;> simp [ofExcept, ok, fail]

/-- A stage made of a result has no messages. -/
theorem messages_ofExcept {ε : Type} (toFault : ε → CommandFault) (result : Except ε α) :
    (ofExcept toFault result).messages = [] := by
  cases result <;> rfl

/-- Stages without messages have none together. -/
theorem messages_andThen_eq_nil {stage : Stage α} {next : α → Stage β} (h : stage.messages = [])
    (hnext : ∀ value, (next value).messages = []) : (stage.andThen next).messages = [] := by
  cases houtcome : stage.outcome with
  | error fault => rw [andThen_of_error houtcome, h]
  | ok value => rw [andThen_of_ok houtcome, h, hnext, List.append_nil]

/-- A stage tells nothing but notes. -/
def IsQuiet (stage : Stage α) : Prop := ∀ message ∈ stage.messages, message.isNote = true

/-- A stage without messages is quiet. -/
theorem IsQuiet.of_messages_eq_nil {stage : Stage α} (h : stage.messages = []) : stage.IsQuiet :=
  fun _ hmessage => absurd (h ▸ hmessage) List.not_mem_nil

/-- Quiet stages are quiet together. -/
theorem IsQuiet.andThen {stage : Stage α} {next : α → Stage β} (h : stage.IsQuiet)
    (hnext : ∀ value, stage.outcome = .ok value → (next value).IsQuiet) :
    (stage.andThen next).IsQuiet := by
  cases houtcome : stage.outcome with
  | error fault =>
    rw [andThen_of_error houtcome]
    exact h
  | ok value =>
    rw [andThen_of_ok houtcome]
    exact List.forall_mem_append.mpr ⟨h, hnext value houtcome⟩

end Stage

/-! ## Transcripts -/

/-- The exit code is zero if and only if all stages have succeeded. -/
theorem Transcript.ofStage_code_eq_zero_iff {stage : Stage Unit} :
    (Transcript.ofStage stage).conclusion.code = 0 ↔ stage.outcome = .ok () := by
  unfold Transcript.ofStage
  split <;> simp_all [Conclusion.code]

/-- The run fails as one that was told if and only if a stage ends with a message. -/
theorem Transcript.ofStage_failed_iff {stage : Stage Unit} :
    (Transcript.ofStage stage).conclusion = .failed
      ↔ ∃ message, stage.outcome = .error (.declared message) := by
  unfold Transcript.ofStage
  split <;> simp_all

/-! ## What each stage comes to -/

section

variable {environment : Environment} {host : Host SourceFile} {descriptor : Path}
  {analyzer : String} {options : Options} {types : List PluginClass} {settings : Settings}
  {workspace : Workspace} {result : AnalysisResult}

/-- What loading the plugins of a run comes to, and the session after it. -/
def loaded (environment : Environment) (analyzer : String) (options : Options) :
    Except PluginFault (Nat × Option (List PluginObject)) × Session :=
  Plugin.loadSources environment.host environment.installed options.installed analyzer
    Session.initial

/-- The plugins are loaded, and these are their checkers. -/
def Provides (environment : Environment) (analyzer : String) (options : Options)
    (types : List PluginClass) : Prop :=
  ∃ sources, (loaded environment analyzer options).1 = .ok sources
    ∧ (Plugin.discoverSources sources (loaded environment analyzer options).2).1 = .ok types

/-- The descriptor is read, and these are the settings. -/
def Configures (host : Host SourceFile) (descriptor : Path) (options : Options)
    (settings : Settings) : Prop :=
  ∃ path document, host.expandHome descriptor = .ok path ∧ readDescriptor host path = .ok document
    ∧ Settings.load (some document) options.overrides = .ok settings

/-- What is worked out by the stages when every one of them succeeds. -/
structure Succeeds (environment : Environment) (descriptor : Path) (analyzer : String)
    (options : Options) (types : List PluginClass) (settings : Settings) (workspace : Workspace)
    (result : AnalysisResult) : Prop where
  provides : Provides environment analyzer options types
  configures : Configures environment.host descriptor options settings
  opens : (openWorkspace environment.host settings .identity descriptor).outcome = .ok workspace
  analyses : (Analysis.run (RunMode.ofSettings settings) (Registry.runnable types)
    (environment.order (RunMode.ofSettings settings)) workspace []).1 = .ok result

/-- The message of the first stage that fails, after all before it have succeeded. -/
inductive FirstFailure (environment : Environment) (descriptor : Path) (analyzer : String)
    (options : Options) : String → Prop
  | loading {failure : LoadFailure}
      (hload : (loaded environment analyzer options).1 = .error (.failure failure)) :
      FirstFailure environment descriptor analyzer options failure.message
  | discovery {sources : Nat × Option (List PluginObject)} {checker reason : String}
      (hload : (loaded environment analyzer options).1 = .ok sources)
      (hdiscover : (Plugin.discoverSources sources (loaded environment analyzer options).2).1
        = .error (.configuration checker reason)) :
      FirstFailure environment descriptor analyzer options (configurationMessage checker reason)
  | descriptor {types : List PluginClass} {path : Path} {fault : WorkspaceFault}
      (hprovides : Provides environment analyzer options types)
      (hpath : environment.host.expandHome descriptor = .ok path)
      (hread : readDescriptor environment.host path = .error (.declared fault)) :
      FirstFailure environment descriptor analyzer options fault.message
  | settings {types : List PluginClass} {path : Path} {document : List (String × Value)}
      {fault : SettingsFault}
      (hprovides : Provides environment analyzer options types)
      (hpath : environment.host.expandHome descriptor = .ok path)
      (hread : readDescriptor environment.host path = .ok document)
      (hsettings : Settings.load (some document) options.overrides = .error fault) :
      FirstFailure environment descriptor analyzer options fault.message
  | opening {types : List PluginClass} {settings : Settings} {fault : WorkspaceFault}
      (hprovides : Provides environment analyzer options types)
      (hconfigures : Configures environment.host descriptor options settings)
      (hopen : (openWorkspace environment.host settings .identity descriptor).outcome
        = .error (.declared fault)) :
      FirstFailure environment descriptor analyzer options fault.message
  | analysis {types : List PluginClass} {settings : Settings} {workspace : Workspace}
      {failure : Failure}
      (hprovides : Provides environment analyzer options types)
      (hconfigures : Configures environment.host descriptor options settings)
      (hopen : (openWorkspace environment.host settings .identity descriptor).outcome
        = .ok workspace)
      (hrun : (Analysis.run (RunMode.ofSettings settings) (Registry.runnable types)
        (environment.order (RunMode.ofSettings settings)) workspace []).1
          = .error (.failed failure)) :
      FirstFailure environment descriptor analyzer options failure.abortMessage

/-! ### Plugins -/

/-- Loading the checkers is loading the sources and then discovering the classes in them. -/
theorem loadCheckers_eq :
    (Plugin.loadCheckers environment.host environment.installed options.installed analyzer
        Session.initial).1
      = (loaded environment analyzer options).1.bind fun sources =>
          (Plugin.discoverSources sources (loaded environment analyzer options).2).1 := by
  rw [Plugin.loadCheckers_eq_bind, Plugin.bind_apply, ← loaded]
  obtain ⟨result, session⟩ := loaded environment analyzer options
  cases result <;> rfl

/-- The plugin is loaded if and only if it provides the classes. -/
theorem loadStage_eq_ok_iff :
    (loadStage environment analyzer options.installed).outcome = .ok types
      ↔ Provides environment analyzer options types := by
  simp only [loadStage, Stage.andThen_outcome_eq_ok_iff, Stage.ofExcept_outcome_eq_ok_iff,
    Stage.telling, Except.ok.injEq, exists_eq_right, loadCheckers_eq]
  exact bind_eq_ok_iff

/-- The plugins are not loaded, with a message, or they are and one of their checkers cannot be
made, with a message. -/
theorem loadStage_eq_declared_iff {message : String} :
    (loadStage environment analyzer options.installed).outcome = .error (.declared message)
      ↔ (∃ failure : LoadFailure, (loaded environment analyzer options).1 = .error (.failure failure)
          ∧ failure.message = message)
        ∨ ∃ sources, (loaded environment analyzer options).1 = .ok sources
          ∧ ∃ checker reason,
            (Plugin.discoverSources sources (loaded environment analyzer options).2).1
                = .error (.configuration checker reason)
              ∧ configurationMessage checker reason = message := by
  have hbind (fault : PluginFault) :
      ((loaded environment analyzer options).1 >>= fun sources =>
          (Plugin.discoverSources sources (loaded environment analyzer options).2).1) = .error fault
        ↔ (loaded environment analyzer options).1 = .error fault
          ∨ ∃ sources, (loaded environment analyzer options).1 = .ok sources
            ∧ (Plugin.discoverSources sources (loaded environment analyzer options).2).1
              = .error fault := bind_eq_error_iff
  simp only [loadStage, Stage.andThen_outcome_eq_error_iff, Stage.ofExcept_outcome_eq_error_iff,
    Stage.telling, reduceCtorEq, and_false, exists_false, or_false, loadCheckers_eq]
  constructor
  · rintro ⟨fault, hfault, hmessage⟩
    rcases (hbind fault).mp hfault with hload | ⟨sources, hload, hdiscover⟩
    · -- A fault that escapes has no message, so the other kind is left.
      cases Plugin.failsOnly_loadSources _ _ _ _ _ _ hload with
      | failure failure => exact .inl ⟨failure, hload, CommandFault.declared.inj hmessage⟩
      | escaped fault => cases hmessage
    · cases Plugin.failsOnly_discoverSources _ _ _ hdiscover with
      | configuration checker reason =>
        exact .inr ⟨sources, hload, checker, reason, hdiscover, CommandFault.declared.inj hmessage⟩
      | escaped fault => cases hmessage
  · rintro (⟨failure, hload, rfl⟩ | ⟨sources, hload, checker, reason, hdiscover, rfl⟩)
    · exact ⟨_, (hbind _).mpr (.inl hload), rfl⟩
    · exact ⟨_, (hbind _).mpr (.inr ⟨sources, hload, hdiscover⟩), rfl⟩

/-- Loading the plugin tells nothing but notes. -/
theorem isQuiet_loadStage : (loadStage environment analyzer options.installed).IsQuiet := by
  refine (Stage.IsQuiet.of_messages_eq_nil (Stage.messages_ofExcept _ _)).andThen fun types _ => ?_
  exact List.forall_mem_singleton.mpr rfl

/-- A plugin that is loaded leaves one debug message. -/
theorem loadStage_messages (h : Provides environment analyzer options types) :
    ∃ loading, (loadStage environment analyzer options.installed).messages = [.debug loading] := by
  have hload : (loaded environment analyzer options).1.bind (fun sources =>
      (Plugin.discoverSources sources (loaded environment analyzer options).2).1) = .ok types :=
    bind_eq_ok_iff.mpr h
  rw [loadStage, loadCheckers_eq, hload]
  exact ⟨_, rfl⟩

/-! ### Settings, workspace, analysis -/

/-- The settings are read if and only if the descriptor and the options configure them. -/
theorem settingsStage_eq_ok_iff :
    (settingsStage host descriptor options).outcome = .ok settings
      ↔ Configures host descriptor options settings := by
  simp only [settingsStage, Stage.andThen_outcome_eq_ok_iff, Stage.ofExcept_outcome_eq_ok_iff,
    Configures, exists_and_left]

/-- Reading the settings tells nothing. -/
theorem settingsStage_messages : (settingsStage host descriptor options).messages = [] :=
  Stage.messages_andThen_eq_nil (Stage.messages_ofExcept _ _) fun _ =>
    Stage.messages_andThen_eq_nil (Stage.messages_ofExcept _ _) fun _ => Stage.messages_ofExcept _ _

/-- The settings fail with a message if and only if the descriptor cannot be read, or the settings
in it cannot be loaded, with that message. -/
theorem settingsStage_eq_declared_iff {message : String} :
    (settingsStage host descriptor options).outcome = .error (.declared message)
      ↔ ∃ path, host.expandHome descriptor = .ok path
        ∧ ((∃ fault : WorkspaceFault, readDescriptor host path = .error (.declared fault)
            ∧ fault.message = message)
          ∨ ∃ document, readDescriptor host path = .ok document
            ∧ ∃ fault : SettingsFault, Settings.load (some document) options.overrides = .error fault
              ∧ fault.message = message) := by
  simp only [settingsStage, Stage.andThen_outcome_eq_error_iff, Stage.ofExcept_outcome_eq_ok_iff,
    Stage.ofExcept_outcome_eq_error_iff, reduceCtorEq, and_false, exists_false, false_or,
    CommandFault.declared.injEq]
  refine exists_congr fun path => and_congr_right fun _ => or_congr ?_ Iff.rfl
  constructor
  · rintro ⟨fault, hfault, hmessage⟩
    cases fault with
    | declared fault => exact ⟨fault, hfault, CommandFault.declared.inj hmessage⟩
    | escaped fault => cases hmessage
  · rintro ⟨fault, hfault, rfl⟩
    exact ⟨_, hfault, rfl⟩

/-- The stage succeeds if and only if the workspace opens. -/
theorem openStage_eq_ok_iff :
    (openStage host descriptor settings).outcome = .ok workspace
      ↔ (openWorkspace host settings .identity descriptor).outcome = .ok workspace := by
  simp only [openStage, Stage.andThen_outcome_eq_ok_iff, mapError_eq_ok_iff, Stage.telling,
    Except.ok.injEq, exists_eq_right]

/-- The stage fails with a message if and only if opening fails with that message. -/
theorem openStage_eq_declared_iff {message : String} :
    (openStage host descriptor settings).outcome = .error (.declared message)
      ↔ ∃ fault : WorkspaceFault,
          (openWorkspace host settings .identity descriptor).outcome = .error (.declared fault)
            ∧ fault.message = message := by
  simp only [openStage, Stage.andThen_outcome_eq_error_iff, mapError_eq_error_iff, Stage.telling,
    reduceCtorEq, and_false, exists_false, or_false]
  constructor
  · rintro ⟨fault, hfault, hmessage⟩
    cases fault with
    | declared fault => exact ⟨fault, hfault, CommandFault.declared.inj hmessage⟩
    | escaped fault => cases hmessage
  · rintro ⟨fault, hfault, rfl⟩
    exact ⟨_, hfault, rfl⟩

/-- Opening the workspace tells nothing but notes; the diagnostics are warnings. -/
theorem isQuiet_openStage : (openStage host descriptor settings).IsQuiet := by
  refine Stage.IsQuiet.andThen (fun message h => ?_) fun workspace _ =>
    List.forall_mem_singleton.mpr rfl
  obtain ⟨warning, -, rfl⟩ := List.mem_map.mp h
  rfl

/-- A workspace that opens leaves its diagnostics and then one debug message. -/
theorem openStage_messages
    (h : (openWorkspace host settings .identity descriptor).outcome = .ok workspace) :
    ∃ opening, (openStage host descriptor settings).messages
      = diagnosticMessages settings (openWorkspace host settings .identity descriptor).diagnostics
        ++ [.debug opening] :=
  ⟨_, congrArg Stage.messages (Stage.andThen_of_ok (mapError_eq_ok_iff.mpr h))⟩

/-- The analysis fails with a message if and only if the run ends with a failure that is told by
it. -/
theorem analysisStage_eq_declared_iff {order : RunMode → Analysis.CompletionOrder}
    {message : String} :
    (analysisStage order settings types workspace).outcome = .error (.declared message)
      ↔ ∃ failure : Failure, (Analysis.run (RunMode.ofSettings settings) (Registry.runnable types)
          (order (RunMode.ofSettings settings)) workspace []).1 = .error (.failed failure)
        ∧ failure.abortMessage = message := by
  rw [analysisStage, Stage.ofExcept_outcome_eq_error_iff]
  constructor
  · rintro ⟨fault, hfault, hmessage⟩
    cases fault with
    | failed failure => exact ⟨failure, hfault, CommandFault.declared.inj hmessage⟩
    | stopped fault => cases hmessage
  · rintro ⟨failure, hfailure, rfl⟩
    exact ⟨_, hfailure, rfl⟩

/-! ## All stages -/

/-- All stages succeed if and only if each of them has what it comes to. -/
theorem stages_outcome_eq_ok_iff :
    (stages environment descriptor analyzer options).outcome = .ok ()
      ↔ ∃ types settings workspace result,
          Succeeds environment descriptor analyzer options types settings workspace result := by
  simp only [stages, Stage.andThen_outcome_eq_ok_iff, loadStage_eq_ok_iff, settingsStage_eq_ok_iff,
    openStage_eq_ok_iff, analysisStage, Stage.ofExcept_outcome_eq_ok_iff, Stage.telling, and_true]
  constructor
  · rintro ⟨types, hprovides, settings, hconfigures, workspace, hopens, result, hanalyses⟩
    exact ⟨types, settings, workspace, result, hprovides, hconfigures, hopens, hanalyses⟩
  · rintro ⟨types, settings, workspace, result, h⟩
    exact ⟨types, h.provides, settings, h.configures, workspace, h.opens, result, h.analyses⟩

/-- When every stage succeeds, what is told are the notes of loading and opening and then the
result. -/
theorem messages_of_succeeds
    (h : Succeeds environment descriptor analyzer options types settings workspace result) :
    ∃ loading opening, (stages environment descriptor analyzer options).messages
      = .debug loading :: (diagnosticMessages settings
            (openWorkspace environment.host settings .identity descriptor).diagnostics
          ++ .debug opening :: resultMessages options.format result) := by
  obtain ⟨loading, hloading⟩ := loadStage_messages h.provides
  obtain ⟨opening, hopening⟩ := openStage_messages h.opens
  have hanalyses : (analysisStage environment.order settings types workspace).outcome = .ok result :=
    Stage.ofExcept_outcome_eq_ok_iff.mpr h.analyses
  refine ⟨loading, opening, ?_⟩
  rw [stages, Stage.andThen_of_ok (loadStage_eq_ok_iff.mpr h.provides),
    Stage.andThen_of_ok (settingsStage_eq_ok_iff.mpr h.configures),
    Stage.andThen_of_ok (openStage_eq_ok_iff.mpr h.opens), Stage.andThen_of_ok hanalyses]
  simp only [hloading, settingsStage_messages, hopening, analysisStage, Stage.messages_ofExcept,
    Stage.telling, List.nil_append, List.append_assoc, List.singleton_append]

/-- The only messages about a result that are not notes are the lines of the report. -/
theorem lines_resultMessages (format : ReportFormat) (result : AnalysisResult) :
    (resultMessages format result).filterMap Message.line? = reportLines format result := by
  have hwarnings {α : Type} (render : α → String) (items : List α) :
      (items.map fun item => Message.warning (render item)).filterMap Message.line? = [] := by
    refine Log.filterMap_line?_of_notes fun message hmessage => ?_
    obtain ⟨item, -, rfl⟩ := List.mem_map.mp hmessage
    rfl
  rw [resultMessages, List.filterMap_append, List.filterMap_append, List.filterMap_append,
    Log.filterMap_line?_reports, hwarnings, hwarnings, List.filterMap_cons_none rfl]
  simp only [List.filterMap_nil, List.append_nil]

/-- When all stages succeed, the lines on the standard output are the report. -/
theorem lines_of_succeeds
    (h : Succeeds environment descriptor analyzer options types settings workspace result) :
    (stages environment descriptor analyzer options).messages.filterMap Message.line?
      = reportLines options.format result := by
  obtain ⟨loading, opening, hmessages⟩ := messages_of_succeeds h
  have hdiagnostics (diagnostics : List Diagnostic) :
      ∀ message ∈ diagnosticMessages settings diagnostics, message.isNote = true := by
    intro message hmessage
    obtain ⟨warning, -, rfl⟩ := List.mem_map.mp hmessage
    rfl
  rw [hmessages, List.filterMap_cons_none rfl, List.filterMap_append,
    Log.filterMap_line?_of_notes (hdiagnostics _), List.filterMap_cons_none rfl,
    lines_resultMessages, List.nil_append]

/-- The stages fail with a message if and only if the first of them that fails does so with it. -/
theorem stages_outcome_eq_declared_iff {message : String} :
    (stages environment descriptor analyzer options).outcome = .error (.declared message)
      ↔ FirstFailure environment descriptor analyzer options message := by
  simp only [stages, Stage.andThen_outcome_eq_error_iff, loadStage_eq_ok_iff,
    loadStage_eq_declared_iff, settingsStage_eq_ok_iff, settingsStage_eq_declared_iff,
    openStage_eq_ok_iff, openStage_eq_declared_iff, analysisStage_eq_declared_iff, Stage.telling,
    reduceCtorEq, and_false, exists_false, or_false]
  constructor
  · rintro ((⟨failure, hload, rfl⟩ | ⟨sources, hload, checker, reason, hdiscover, rfl⟩)
      | ⟨types, hprovides, ⟨path, hpath, ⟨fault, hread, rfl⟩ | ⟨document, hread, fault, hload, rfl⟩⟩
      | ⟨settings, hconfigures, ⟨fault, hopen, rfl⟩ | ⟨workspace, hopen, failure, hrun, rfl⟩⟩⟩)
    · exact .loading hload
    · exact .discovery hload hdiscover
    · exact .descriptor hprovides hpath hread
    · exact .settings hprovides hpath hread hload
    · exact .opening hprovides hconfigures hopen
    · exact .analysis hprovides hconfigures hopen hrun
  · -- Each constructor names the stages that have succeeded before the one that fails.
    intro h
    cases h with
    | loading hload => exact .inl (.inl ⟨_, hload, rfl⟩)
    | discovery hload hdiscover => exact .inl (.inr ⟨_, hload, _, _, hdiscover, rfl⟩)
    | descriptor hprovides hpath hread =>
      exact .inr ⟨_, hprovides, .inl ⟨_, hpath, .inl ⟨_, hread, rfl⟩⟩⟩
    | settings hprovides hpath hread hsettings =>
      exact .inr ⟨_, hprovides, .inl ⟨_, hpath, .inr ⟨_, hread, _, hsettings, rfl⟩⟩⟩
    | opening hprovides hconfigures hopen =>
      exact .inr ⟨_, hprovides, .inr ⟨_, hconfigures, .inl ⟨_, hopen, rfl⟩⟩⟩
    | analysis hprovides hconfigures hopen hrun =>
      exact .inr ⟨_, hprovides, .inr ⟨_, hconfigures, .inr ⟨_, hopen, _, hrun, rfl⟩⟩⟩

/-- A run that a stage ends has told nothing but notes up to there. -/
theorem quiet_of_fails {fault : CommandFault}
    (h : (stages environment descriptor analyzer options).outcome = .error fault) :
    (stages environment descriptor analyzer options).IsQuiet := by
  refine isQuiet_loadStage.andThen fun types htypes => ?_
  refine (Stage.IsQuiet.of_messages_eq_nil settingsStage_messages).andThen fun settings hsettings =>
    isQuiet_openStage.andThen fun workspace hworkspace => ?_
  refine (Stage.IsQuiet.of_messages_eq_nil (Stage.messages_ofExcept _ _)).andThen
    fun result hresult => ?_
  -- The result would only be told in a run that no stage ended.
  have hok : (stages environment descriptor analyzer options).outcome = .ok () :=
    Stage.andThen_outcome_eq_ok_iff.mpr ⟨types, htypes, Stage.andThen_outcome_eq_ok_iff.mpr
      ⟨settings, hsettings, Stage.andThen_outcome_eq_ok_iff.mpr
        ⟨workspace, hworkspace, Stage.andThen_outcome_eq_ok_iff.mpr ⟨result, hresult, rfl⟩⟩⟩⟩
  rw [hok] at h
  cases h

/-! ## What a run tells -/

/-- All stages of a run that reads the workspace on another host than the plugins. -/
def stagesOver (environment : Environment) (host : Host SourceFile) (descriptor : Path)
    (analyzer : String) (options : Options) : Stage Unit :=
  (loadStage environment analyzer options.installed).andThen fun types =>
    (settingsStage host descriptor options).andThen fun settings =>
      (openStage host descriptor settings).andThen fun workspace =>
        (analysisStage environment.order settings types workspace).andThen fun result =>
          .telling (resultMessages options.format result) ()

/-- The stages over the environment's own host are the stages. -/
theorem stagesOver_host :
    stagesOver environment environment.host descriptor analyzer options
      = stages environment descriptor analyzer options := rfl

/-- Where no checkers are provided, nothing of the workspace matters. -/
theorem stagesOver_of_not_provides (h : ¬ ∃ types, Provides environment analyzer options types)
    {options' : Options} (hinstalled : options'.installed = options.installed)
    (host' : Host SourceFile) (descriptor' : Path) :
    stagesOver environment host' descriptor' analyzer options'
      = stages environment descriptor analyzer options := by
  cases hload : (loadStage environment analyzer options.installed).outcome with
  | error fault =>
    rw [stagesOver, stages, hinstalled, Stage.andThen_of_error hload, Stage.andThen_of_error hload]
  | ok types => exact absurd ⟨types, loadStage_eq_ok_iff.mp hload⟩ h

/-- A run of which the checkers are not provided ends with the fault of providing them. -/
theorem runCheckers_of_loadCheckers_error {fault : PluginFault}
    (h : (Plugin.loadCheckers environment.host environment.installed options.installed analyzer
      Session.initial).1 = .error fault) :
    runCheckers environment descriptor analyzer options
      = Transcript.ofStage (.fail (CommandFault.ofPlugin fault)) := by
  rw [runCheckers, stages, loadStage, h]
  rfl

/-- When all stages succeed, the run has their messages and is completed. -/
theorem runCheckers_of_succeeds
    (h : Succeeds environment descriptor analyzer options types settings workspace result) :
    runCheckers environment descriptor analyzer options
      = ⟨(stages environment descriptor analyzer options).messages, .completed⟩ := by
  have hok := stages_outcome_eq_ok_iff.mpr ⟨types, settings, workspace, result, h⟩
  rw [runCheckers, Transcript.ofStage, hok]

/-- When a stage fails with a message, the run has the messages up to there, then the failure. -/
theorem runCheckers_of_firstFailure {message : String}
    (h : FirstFailure environment descriptor analyzer options message) :
    runCheckers environment descriptor analyzer options
      = ⟨(stages environment descriptor analyzer options).messages ++ [.failure message],
          .failed⟩ := by
  rw [runCheckers, Transcript.ofStage, stages_outcome_eq_declared_iff.mpr h]

end

/-- An environment with nothing in its file tree. -/
def bareEnvironment : Environment :=
  ⟨⟨⟨[]⟩, [], ⟨.root, []⟩, .standard⟩, .nothing, fun _ _ => Analysis.submissionOrder⟩

end CommandLine

end WorkspaceLint
