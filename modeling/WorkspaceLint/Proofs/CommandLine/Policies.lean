import WorkspaceLint.Proofs.CommandLine.Repeatability
import WorkspaceLint.Proofs.Settings

/-!
# What the diagnostics policy changes

The policy says whether the diagnostics of loading a workspace are shown, and nothing else. Runs
that differ in it open the same workspace and tell the same, apart from one warning for each
diagnostic. How messages are shown changes nothing about the standard output either.

* `stages_show`, `runCheckers_withPolicy` — what a run tells under each policy.
* `conclude_eq_append` — what the program writes and how it ends, apart from its messages.
* `Request.ofReading_eq` — what a command line asks for, in terms of its remaining arguments.
* `DifferInPolicy.requests`, `differInPolicy_of_front` — two command lines that differ in the
  policy.
* `policies_differ_in_warnings` — what the program does with the two.
-/

namespace WorkspaceLint

open Log (Message Logger Terminals Written)

/-- The policy has no part in opening a workspace. -/
theorem openWorkspace_withPolicy (host : Host SourceFile) (settings : Settings)
    (policy : DiagnosticPolicy) (mapper : PositionMapper) (descriptor : Path) :
    openWorkspace host (settings.withPolicy policy) mapper descriptor
      = openWorkspace host settings mapper descriptor := rfl

/-- Nothing more is written by nothing. -/
@[simp]
theorem Log.Written.append_nothing (written : Written) : written.append .nothing = written := by
  simp [append, nothing]

namespace CommandLine

variable {environment : Environment} {host : Host SourceFile} {descriptor : Path}
  {analyzer : String} {options : Options}

/-! ## What a run tells -/

/-- What comes after a stage that has a value is what comes after the value. -/
theorem Stage.ofExcept_ok_andThen {ε α β : Type} (toFault : ε → CommandFault) (value : α)
    (next : α → Stage β) : (Stage.ofExcept toFault (.ok value)).andThen next = next value := rfl

/-- The settings under two policies differ in the policy. -/
theorem settingsStage_withPolicy (policy policy' : DiagnosticPolicy) :
    (settingsStage host descriptor (options.withPolicy policy')).outcome
      = (settingsStage host descriptor (options.withPolicy policy)).outcome.map
          (·.withPolicy policy') := by
  rw [settingsStage, settingsStage]
  cases host.expandHome descriptor with
  | error fault => rfl
  | ok path =>
    rw [Stage.ofExcept_ok_andThen, Stage.ofExcept_ok_andThen]
    cases readDescriptor host path with
    | error fault => rfl
    | ok document =>
      rw [Stage.ofExcept_ok_andThen, Stage.ofExcept_ok_andThen,
        Settings.load_withPolicy (some document) options policy policy']
      cases Settings.load (some document) (options.withPolicy policy).overrides <;> rfl

/-- The diagnostics that a run comes by while it loads the workspace, in order. There are none if
the plugins cannot be loaded or there are no settings. -/
def loadDiagnostics (environment : Environment) (descriptor : Path) (analyzer : String)
    (options : Options) : List Diagnostic :=
  match (loadStage environment analyzer options.installed).outcome,
      (settingsStage environment.host descriptor options).outcome with
  | .ok _, .ok settings => (openWorkspace environment.host settings .identity descriptor).diagnostics
  | _, _ => []

/-- A message is a warning that shows a diagnostic of loading the workspace. -/
def ShowsLoading (message : Message) : Prop := ∃ text, message = .warning ("Workspace: " ++ text)

/-- A message that is no warning shows nothing of the loading. -/
theorem not_showsLoading {message : Message} (h : ∀ text, message ≠ .warning text) :
    ¬ ShowsLoading message := by
  rintro ⟨text, heq⟩
  exact h _ heq

/-- Stages, one for each policy, tell diagnostics as the policy has it, with the same debug messages
before them and the same messages behind them, none of which shows another diagnostic, and come to
the same. -/
def Shows {α : Type} (diagnostics : List Diagnostic) (stage : DiagnosticPolicy → Stage α) : Prop :=
  ∃ (before after : List Message) (outcome : Except CommandFault α),
    (∀ message ∈ before, ∃ fields, message = .debug fields)
    ∧ (∀ message ∈ after, ¬ ShowsLoading message)
    ∧ ∀ policy, stage policy
      = ⟨before ++ (Diagnostic.warnings policy diagnostics).map .warning ++ after, outcome⟩

namespace Shows

variable {α β : Type} {diagnostics : List Diagnostic}

/-- A stage that tells only debug messages and does not depend on the policy. -/
theorem of_debug {stage : Stage α}
    (h : ∀ message ∈ stage.messages, ∃ fields, message = .debug fields) :
    Shows [] fun _ => stage := by
  refine ⟨stage.messages, [], stage.outcome, h, by simp, fun policy => ?_⟩
  cases policy <;> simp [Diagnostic.warnings]

/-- What follows may depend on what came out, but not on the policy. -/
theorem andThen {stage : DiagnosticPolicy → Stage α} (h : Shows diagnostics stage)
    (next : α → Stage β)
    (hnext : ∀ value, ∀ message ∈ (next value).messages, ¬ ShowsLoading message) :
    Shows diagnostics fun policy => (stage policy).andThen next := by
  obtain ⟨before, after, outcome, hbefore, hafter, hstage⟩ := h
  cases houtcome : outcome with
  | error fault =>
    refine ⟨before, after, .error fault, hbefore, hafter, fun policy => ?_⟩
    dsimp only
    rw [hstage, houtcome]
    rfl
  | ok value =>
    refine ⟨before, after ++ (next value).messages, (next value).outcome, hbefore,
      List.forall_mem_append.mpr ⟨hafter, hnext value⟩, fun policy => ?_⟩
    dsimp only
    rw [hstage, houtcome, ← List.append_assoc]
    rfl

/-- A stage before may tell debug messages. -/
theorem behind {first : Stage α} {value : α} (hfirst : first.outcome = .ok value)
    (hdebug : ∀ message ∈ first.messages, ∃ fields, message = .debug fields)
    {next : DiagnosticPolicy → α → Stage β} (h : Shows diagnostics fun policy => next policy value) :
    Shows diagnostics fun policy => first.andThen (next policy) := by
  obtain ⟨before, after, outcome, hbefore, hafter, hnext⟩ := h
  refine ⟨first.messages ++ before, after, outcome, List.forall_mem_append.mpr ⟨hdebug, hbefore⟩,
    hafter, fun policy => ?_⟩
  dsimp only at hnext ⊢
  rw [Stage.andThen_of_ok hfirst, hnext]
  simp only [List.append_assoc]

end Shows

/-- Loading the plugins tells nothing but debug messages. -/
theorem loadStage_debug (environment : Environment) (analyzer : String) (withInstalled : Bool) :
    ∀ message ∈ (loadStage environment analyzer withInstalled).messages,
      ∃ fields, message = .debug fields := by
  rw [loadStage]
  cases (Plugin.loadCheckers environment.host environment.installed withInstalled analyzer
    Session.initial).1 with
  | error fault => exact fun message hmessage => absurd hmessage List.not_mem_nil
  | ok types => exact List.forall_mem_singleton.mpr ⟨_, rfl⟩

/-- Opening the workspace tells its diagnostics as the policy has it. -/
theorem openStage_shows (host : Host SourceFile) (descriptor : Path) (settings : Settings) :
    Shows (openWorkspace host settings .identity descriptor).diagnostics
      fun policy => openStage host descriptor (settings.withPolicy policy) := by
  have hopened : Shows (openWorkspace host settings .identity descriptor).diagnostics fun policy =>
      (⟨diagnosticMessages (settings.withPolicy policy)
          (openWorkspace host settings .identity descriptor).diagnostics,
        (openWorkspace host settings .identity descriptor).outcome.mapError .ofOpening⟩
        : Stage Workspace) :=
    ⟨[], [], _, by simp, by simp, fun policy => by
      rw [List.nil_append, List.append_nil]
      rfl⟩
  exact hopened.andThen (fun workspace => .telling [.debug [("workspace", .text workspace.path),
    countField "projects" workspace.projects.length, ("jobs", .int settings.jobs)]] workspace)
    fun workspace => List.forall_mem_singleton.mpr (not_showsLoading (by simp))

/-- A text that begins with the word checker. -/
def IsAboutChecker (text : String) : Prop := ∃ rest, text = "Checker " ++ rest

/-- A text that starts as one about a checker does so with more text behind it. -/
theorem IsAboutChecker.append {text : String} (h : IsAboutChecker text) (more : String) :
    IsAboutChecker (text ++ more) := by
  obtain ⟨rest, rfl⟩ := h
  exact ⟨rest ++ more, String.append_assoc⟩

/-- A warning about a checker shows nothing of the loading. -/
theorem IsAboutChecker.showsNothing {text : String} (h : IsAboutChecker text) :
    ¬ ShowsLoading (.warning text) := by
  obtain ⟨rest, rfl⟩ := h
  rintro ⟨other, h⟩
  have hcharacters := congrArg String.toList (Message.warning.inj h)
  rw [String.toList_append, String.toList_append] at hcharacters
  have hchecker : ("Checker ".toList ++ rest.toList).head? = some 'C' := rfl
  have hloading : ("Workspace: ".toList ++ other.toList).head? = some 'W' := rfl
  rw [hcharacters, hloading] at hchecker
  cases hchecker

/-- What is told of the result of a run shows no diagnostic: its warnings are about checkers. -/
theorem resultMessages_showNothing (format : ReportFormat) (result : AnalysisResult) :
    ∀ message ∈ resultMessages format result, ¬ ShowsLoading message := by
  have hfailure (failure : Failure) : IsAboutChecker failure.render :=
    ((((IsAboutChecker.append ⟨failure.checker, rfl⟩ _).append _).append _).append _)
  have hrejection (rejection : Rejection) : IsAboutChecker rejection.render :=
    (((((((IsAboutChecker.append ⟨rejection.checker, rfl⟩ _).append _).append _).append _).append
      _).append _).append _)
  intro message hmessage
  simp only [resultMessages, List.mem_append, List.mem_map, List.mem_singleton] at hmessage
  rcases hmessage with ((⟨line, -, rfl⟩ | ⟨failure, -, rfl⟩) | ⟨rejection, -, rfl⟩) | rfl
  · exact not_showsLoading (by simp)
  · exact (hfailure failure).showsNothing
  · exact (hrejection rejection).showsNothing
  · exact not_showsLoading (by simp)

/-- No message of the analysis or of its result shows anything of the loading. -/
theorem analysis_showsNothing (order : RunMode → Analysis.CompletionOrder) (settings : Settings)
    (types : List PluginClass) (workspace : Workspace) (format : ReportFormat) :
    ∀ message ∈ ((analysisStage order settings types workspace).andThen fun result =>
      .telling (resultMessages format result) ()).messages, ¬ ShowsLoading message := by
  have hquiet : (analysisStage order settings types workspace).messages = [] :=
    Stage.messages_ofExcept _ _
  cases hresult : (analysisStage order settings types workspace).outcome with
  | error fault =>
    rw [Stage.andThen_of_error hresult, hquiet]
    simp
  | ok result =>
    rw [Stage.andThen_of_ok hresult, hquiet]
    exact resultMessages_showNothing format result

/-- The stages of a run tell the diagnostics of loading the workspace as the policy has it. -/
theorem stages_show (environment : Environment) (descriptor : Path) (analyzer : String)
    (options : Options) :
    Shows (loadDiagnostics environment descriptor analyzer (options.withPolicy .drop))
      fun policy => stages environment descriptor analyzer (options.withPolicy policy) := by
  have hdebug := loadStage_debug environment analyzer options.installed
  have hinstalled (policy : DiagnosticPolicy) :
      (options.withPolicy policy).installed = options.installed := rfl
  unfold loadDiagnostics stages
  dsimp only
  simp only [hinstalled]
  cases hload : (loadStage environment analyzer options.installed).outcome with
  | error fault =>
    simp only [Stage.andThen_of_error hload]
    exact .of_debug hdebug
  | ok types =>
    refine .behind hload hdebug ?_
    -- The policy stands in the settings, and nowhere else, so the faults here are the same.
    have hsettings (policy : DiagnosticPolicy) :=
      @settingsStage_withPolicy environment.host descriptor options .drop policy
    cases hdrop : (settingsStage environment.host descriptor (options.withPolicy .drop)).outcome with
    | error fault =>
      have hfault (policy : DiagnosticPolicy) : (settingsStage environment.host descriptor
          (options.withPolicy policy)).outcome = .error fault := by rw [hsettings, hdrop]; rfl
      simp only [Stage.andThen_of_error (hfault _), settingsStage_messages]
      exact .of_debug fun message hmessage => absurd hmessage List.not_mem_nil
    | ok settings =>
      have hpolicy (policy : DiagnosticPolicy) : (settingsStage environment.host descriptor
          (options.withPolicy policy)).outcome = .ok (settings.withPolicy policy) := by
        rw [hsettings, hdrop]; rfl
      simp only [Stage.andThen_of_ok (hpolicy _), settingsStage_messages, List.nil_append]
      exact (openStage_shows environment.host descriptor settings).andThen (fun workspace =>
        (analysisStage environment.order settings types workspace).andThen fun result =>
          .telling (resultMessages options.format result) ()) fun workspace =>
        analysis_showsNothing environment.order settings types workspace options.format

/-- What a run tells under each policy, and how it is concluded. -/
theorem runCheckers_withPolicy (environment : Environment) (descriptor : Path) (analyzer : String)
    (options : Options) :
    ∃ (before after : List Message) (conclusion : Conclusion),
      (∀ message ∈ before, ∃ fields, message = .debug fields)
      ∧ (∀ message ∈ after, ¬ ShowsLoading message)
      ∧ ∀ policy, runCheckers environment descriptor analyzer (options.withPolicy policy)
        = ⟨before ++ (Diagnostic.warnings policy (loadDiagnostics environment descriptor analyzer
              (options.withPolicy .drop))).map .warning ++ after, conclusion⟩ := by
  obtain ⟨before, after, outcome, hbefore, hafter, hstages⟩ :=
    stages_show environment descriptor analyzer options
  simp only [runCheckers, hstages, Transcript.ofStage]
  cases outcome with
  | ok _ => exact ⟨before, after, .completed, hbefore, hafter, fun policy => rfl⟩
  | error fault =>
    cases fault with
    | declared message =>
      refine ⟨before, after ++ [.failure message], .failed, hbefore,
        List.forall_mem_append.mpr ⟨hafter, ?_⟩, fun policy => by rw [← List.append_assoc]⟩
      exact List.forall_mem_singleton.mpr (not_showsLoading (by simp))
    | escaped fault => exact ⟨before, after, .escaped fault, hbefore, hafter, fun policy => rfl⟩

/-! ## What the program writes -/

/-- How a fault ends the program does not depend on what was written, and what it writes comes
behind. -/
theorem endedBy_eq_append (fault : Fault) : ∃ closing code raised, ∀ written,
    endedBy written fault = ⟨written.append closing, code, raised⟩ := by
  simp only [endedBy, leave]
  split
  · split
    · exact ⟨.nothing, 0, none, fun written => by rw [Written.append_nothing]⟩
    next code _ => exact ⟨.nothing, code, none, fun written => by rw [Written.append_nothing]⟩
    next value _ =>
      exact ⟨.nothing, if value then 1 else 0, none, fun written => by rw [Written.append_nothing]⟩
    next value _ _ _ _ => exact ⟨_, 1, none, fun written => rfl⟩
  split
  · exact ⟨.nothing, interruptedCode, none, fun written => by rw [Written.append_nothing]⟩
  split
  · exact ⟨_, 1, none, fun written => rfl⟩
  split
  · exact ⟨.nothing, 1, none, fun written => by rw [Written.append_nothing]⟩
  · exact ⟨.nothing, 1, some fault, fun written => by rw [Written.append_nothing]⟩

/-- What the program writes are its messages and then what belongs to the conclusion of the run, on
which alone the exit code and the fault that is raised depend. -/
theorem conclude_eq_append (terminals : Terminals) (conclusion : Conclusion) :
    ∃ closing code raised, ∀ logger messages,
      conclude logger terminals ⟨messages, conclusion⟩
        = ⟨(logger.writeAll terminals messages).append closing, code, raised⟩ := by
  cases conclusion with
  | completed =>
    exact ⟨.nothing, 0, none, fun logger messages => by rw [Written.append_nothing]; rfl⟩
  | failed =>
    exact ⟨.nothing, 1, none, fun logger messages => by rw [Written.append_nothing]; rfl⟩
  | escaped fault =>
    obtain ⟨closing, code, raised, hwritten⟩ := endedBy_eq_append fault
    exact ⟨closing, code, raised, fun logger messages => hwritten _⟩

/-- Two results of the program are the same but for the error output. -/
structure SameBesideErrors (result other : ProgramResult) : Prop where
  output : result.written.output = other.written.output
  code : result.code = other.code
  raised : result.raised = other.raised

/-- Neither the logger nor what is told beside the lines of the report has a part in the standard
output, the exit code or the fault that is raised. -/
theorem conclude_sameBesideErrors (logger logger' : Logger) (terminals : Terminals)
    {messages messages' : List Message}
    (h : messages.filterMap Message.line? = messages'.filterMap Message.line?)
    (conclusion : Conclusion) :
    SameBesideErrors (conclude logger terminals ⟨messages, conclusion⟩)
      (conclude logger' terminals ⟨messages', conclusion⟩) := by
  obtain ⟨closing, code, raised, hconclude⟩ := conclude_eq_append terminals conclusion
  rw [hconclude, hconclude]
  refine ⟨?_, rfl, rfl⟩
  simp only [Written.append, Logger.output_writeAll, h]

/-! ## What a command line asks for -/

/-- Whether an option says only what is shown beside the report and how. -/
def OptionName.isAside : OptionName → Bool
  | .diagnostics | .emoji | .noEmoji | .noColor | .debug => true
  | _ => false

/-- What remains of a command line without these options. -/
def Reading.remaining (reading : Reading) : Reading :=
  { reading with options := reading.options.filter fun option => !option.1.isAside }

namespace Reading

variable {reading : Reading} {name : OptionName}

/-- An option that is not set aside is given in what remains if and only if it is given. -/
theorem has_remaining (h : name.isAside = false) : reading.remaining.has name = reading.has name := by
  rw [has, remaining, List.any_filter]
  refine congrArg (List.any _) (funext fun option => ?_)
  by_cases hname : option.1 = name
  · simp [hname, h]
  · simp [hname]

/-- An option that is not set aside keeps its last value in what remains. -/
theorem lastValue?_remaining (h : name.isAside = false) :
    reading.remaining.lastValue? name = reading.lastValue? name := by
  rw [lastValue?, lastValue?, remaining, ← List.filter_reverse]
  induction reading.options.reverse with
  | nil => rfl
  | cons option options ih =>
    obtain ⟨first, value⟩ := option
    by_cases hfirst : first.isAside = true
    · have hne : (name == first) = false := beq_false_of_ne fun heq => by simp [heq, hfirst] at h
      rw [List.filter_cons_of_neg (by simp [hfirst]), ih, List.lookup_cons, hne]
    · rw [List.filter_cons_of_pos (by simp [hfirst]), List.lookup_cons, List.lookup_cons, ih]

/-- An option that is set aside has no value in what remains. -/
theorem lastValue?_remaining_of_isAside (h : name.isAside = true) :
    reading.remaining.lastValue? name = none := by
  refine List.lookup_eq_none_iff.mpr fun option hoption => ?_
  have hkept := (List.mem_filter.mp (List.mem_reverse.mp hoption)).2
  have hne : name ≠ option.1 := fun heq => by simp [← heq, h] at hkept
  exact bne_iff_ne.mpr hne

end Reading

/-- Where a policy is named, the options are those of the remaining arguments with this policy. -/
theorem readOptions_eq {reading : Reading} {policy : DiagnosticPolicy}
    (h : reading.lastValue? .diagnostics = some policy.word) :
    readOptions reading = (readOptions reading.remaining).map (·.withPolicy policy) := by
  have hnamed : readOption reading .diagnostics (readWord DiagnosticPolicy.choices)
      = .ok (some policy) := by
    rw [readOption, h]
    cases policy <;> rfl
  have hunnamed : readOption reading.remaining .diagnostics (readWord DiagnosticPolicy.choices)
      = .ok none := by
    rw [readOption, Reading.lastValue?_remaining_of_isAside rfl]
  have hvalue {α : Type} (name : OptionName) (hname : name.isAside = false)
      (read : String → Except UsageProblem α) :
      readOption reading.remaining name read = readOption reading name read := by
    rw [readOption, readOption, Reading.lastValue?_remaining hname]
  rw [readOptions, readOptions, hnamed, hunnamed, hvalue .jobs rfl, hvalue .format rfl,
    Reading.has_remaining rfl, Reading.has_remaining rfl, Reading.has_remaining rfl]
  cases readOption reading .jobs readJobs with
  | error problem => rfl
  | ok jobs => cases readOption reading .format (readWord ReportFormat.choices) <;> rfl

/-- A request with the policy and the presentation of another command line. -/
def Request.shownAs (policy : DiagnosticPolicy) (presentation : Presentation) : Request → Request
  | .help => .help
  | .run descriptor analyzer options _ =>
    .run descriptor analyzer (options.withPolicy policy) presentation

/-- A policy and a presentation change nothing in how the positional arguments are read. -/
theorem Request.ofPositional_withPolicy (options : Options) (policy : DiagnosticPolicy)
    (presentation presentation' : Presentation) (positional : List String) :
    ofPositional (options.withPolicy policy) presentation positional
      = (ofPositional options presentation' positional).map (·.shownAs policy presentation) := by
  unfold ofPositional
  split
  · rfl
  · split
    · rfl
    · split <;> rfl

/-- Where a policy is named, a command line asks for what the remaining arguments ask for, with this
policy. -/
theorem Request.ofReading_eq {reading : Reading} {policy : DiagnosticPolicy}
    (h : reading.lastValue? .diagnostics = some policy.word) :
    ofReading reading
      = (ofReading reading.remaining).map (·.shownAs policy (presentationOf reading)) := by
  rw [ofReading, ofReading, Reading.has_remaining rfl, readOptions_eq h]
  split
  · rfl
  · cases readOptions reading.remaining with
    | error problem => rfl
    | ok options => exact ofPositional_withPolicy options policy _ _ _

/-! ## Two command lines -/

/-- Two command lines name a policy each, drop and warn, and their remaining arguments are the same;
if they cannot be read, it is for the same reason. The options that say how messages are shown may
be different, and so may the places where all these options stand. -/
structure DifferInPolicy (arguments arguments' : List String) : Prop where
  remaining : (readArguments arguments).map Reading.remaining
    = (readArguments arguments').map Reading.remaining
  drops : ∀ reading, readArguments arguments = .ok reading →
    reading.lastValue? .diagnostics = some "drop"
  warns : ∀ reading, readArguments arguments' = .ok reading →
    reading.lastValue? .diagnostics = some "warn"

/-- The options that say how messages are shown. -/
def presentationFlags : List String := ["--emoji", "--no-emoji", "--no-color", "--debug"]

/-- Options that say how messages are shown are read wherever they stand in front. -/
theorem readArguments_flags {flags : List String} (h : ∀ flag ∈ flags, flag ∈ presentationFlags) :
    ∃ options : List (OptionName × String),
      (∀ option ∈ options, option.1.isAside = true ∧ option.1 ≠ .diagnostics)
      ∧ ∀ rest, readArguments (flags ++ rest) = (readArguments rest).map fun reading =>
          { reading with options := options ++ reading.options } := by
  induction flags with
  | nil =>
    refine ⟨[], by simp, fun rest => ?_⟩
    rw [List.nil_append]
    cases readArguments rest <;> rfl
  | cons flag flags ih =>
    obtain ⟨hflag, hflags⟩ := List.forall_mem_cons.mp h
    obtain ⟨options, haside, hread⟩ := ih hflags
    -- Each of these flags takes no value, so the reading goes on right behind it.
    have hkind : ∀ flag ∈ presentationFlags, ∃ name, ArgumentKind.of flag = .flag name
        ∧ name.isAside = true ∧ name ≠ .diagnostics := by
      simp only [presentationFlags, List.forall_mem_cons]
      exact ⟨⟨.emoji, rfl, rfl, by decide⟩, ⟨.noEmoji, rfl, rfl, by decide⟩,
        ⟨.noColor, rfl, rfl, by decide⟩, ⟨.debug, rfl, rfl, by decide⟩, by simp⟩
    obtain ⟨name, hname, hnameAside⟩ := hkind flag hflag
    refine ⟨(name, "") :: options, List.forall_mem_cons.mpr ⟨hnameAside, haside⟩, fun rest => ?_⟩
    rw [List.cons_append, readArguments, readFrom, hname]
    dsimp only
    rw [← readArguments, hread]
    cases readArguments rest <;> rfl

/-- The policies put in front of the same arguments, which do not name one, make command lines that
differ in the policy. -/
theorem differInPolicy_of_front {flags flags' arguments : List String}
    (hflags : ∀ flag ∈ flags, flag ∈ presentationFlags)
    (hflags' : ∀ flag ∈ flags', flag ∈ presentationFlags)
    (hunnamed : ∀ reading, readArguments arguments = .ok reading →
      reading.lastValue? .diagnostics = none) :
    DifferInPolicy (flags ++ "--workspace-diagnostics" :: "drop" :: arguments)
      (flags' ++ "--workspace-diagnostics" :: "warn" :: arguments) := by
  have hread (word : String) : readArguments ("--workspace-diagnostics" :: word :: arguments)
      = (readArguments arguments).map (Reading.withOption .diagnostics word) := by
    have hkind : ArgumentKind.of "--workspace-diagnostics" = .awaiting .diagnostics := rfl
    rw [readArguments, readFrom, hkind]
    rfl
  -- Without the options for presentation, only the policy's own value is left of the front.
  have hpart {flags : List String} (hflags : ∀ flag ∈ flags, flag ∈ presentationFlags)
      (word : String) :
      (readArguments (flags ++ "--workspace-diagnostics" :: word :: arguments)).map Reading.remaining
          = (readArguments arguments).map Reading.remaining
        ∧ ∀ reading, readArguments (flags ++ "--workspace-diagnostics" :: word :: arguments)
              = .ok reading → reading.lastValue? .diagnostics = some word := by
    obtain ⟨options, haside, hoptions⟩ := readArguments_flags hflags
    rw [hoptions, hread]
    cases harguments : readArguments arguments with
    | error problem => exact ⟨rfl, fun reading h => nomatch h⟩
    | ok reading =>
      constructor
      · have hnone : options.filter (fun option => !option.1.isAside) = [] :=
          List.filter_eq_nil_iff.mpr fun option hoption => by simp [(haside option hoption).1]
        simp only [Except.map, Reading.withOption, Reading.remaining, List.filter_append, hnone,
          List.nil_append]
        rfl
      · intro found hfound
        obtain rfl := Except.ok.inj hfound
        have hlast : reading.options.reverse.lookup .diagnostics = none := hunnamed reading harguments
        rw [Reading.lastValue?, List.reverse_append, Reading.withOption, List.reverse_cons,
          List.lookup_append, List.lookup_append, hlast]
        rfl
  obtain ⟨hdrop, hdrops⟩ := hpart hflags "drop"
  obtain ⟨hwarn, hwarns⟩ := hpart hflags' "warn"
  exact ⟨hdrop.trans hwarn.symm, hdrops, hwarns⟩

/-- Command lines that differ in the policy ask for the same run, each with its policy, or there is
no run and they are treated alike. -/
theorem DifferInPolicy.requests {arguments arguments' : List String}
    (h : DifferInPolicy arguments arguments') :
    (∃ descriptor analyzer options presentation presentation',
      Request.of arguments
          = .ok (.run descriptor analyzer (Options.withPolicy options .drop) presentation)
      ∧ Request.of arguments'
          = .ok (.run descriptor analyzer (options.withPolicy .warn) presentation'))
    ∨ Request.of arguments = Request.of arguments'
      ∧ ∀ descriptor analyzer options presentation,
          Request.of arguments ≠ .ok (.run descriptor analyzer options presentation) := by
  have hremaining := h.remaining
  rw [Request.of, Request.of]
  cases hread : readArguments arguments with
  | error problem =>
    rw [hread] at hremaining
    rw [map_eq_error_iff.mp hremaining.symm]
    exact .inr ⟨rfl, fun _ _ _ _ h => nomatch h⟩
  | ok reading =>
    rw [hread] at hremaining
    obtain ⟨reading', hread', hsame⟩ := map_eq_ok_iff.mp hremaining.symm
    rw [hread']
    -- Both readings are the same request, each with its own policy.
    have hdrop := @Request.ofReading_eq reading .drop (h.drops reading hread)
    have hwarn := @Request.ofReading_eq reading' .warn (h.warns reading' hread')
    rw [hsame] at hwarn
    dsimp only [Except.bind]
    rw [hdrop, hwarn]
    cases Request.ofReading reading.remaining with
    | error problem => exact .inr ⟨rfl, fun _ _ _ _ h => nomatch h⟩
    | ok request =>
      cases request with
      | help => exact .inr ⟨rfl, fun _ _ _ _ h => nomatch h⟩
      | run descriptor analyzer options _ => exact .inl ⟨_, _, options, _, _, rfl, rfl⟩

/-- A program whose arguments are a request performs that request. -/
theorem runProgram_of_request {terminals : Terminals} {arguments : List String} {request : Request}
    (h : Request.of arguments = .ok request) :
    runProgram environment terminals arguments = perform environment terminals request := by
  rw [runProgram, h]

/-- Where there are settings under the one policy, there are under the other, and the same workspace
is opened with them. -/
theorem opened_under_both (descriptor : Path) (options : Options) (settings : Settings)
    (h : (settingsStage host descriptor (options.withPolicy .drop)).outcome = .ok settings) :
    (settingsStage host descriptor (options.withPolicy .warn)).outcome
        = .ok (settings.withPolicy .warn)
      ∧ openWorkspace host (settings.withPolicy .warn) .identity descriptor
        = openWorkspace host settings .identity descriptor := by
  refine ⟨?_, openWorkspace_withPolicy host settings .warn .identity descriptor⟩
  rw [settingsStage_withPolicy .drop, h]
  rfl

/-- Warnings about diagnostics are no lines of the report. -/
theorem loadWarnings_without_lines (diagnostics : List Diagnostic) :
    (diagnostics.map fun diagnostic =>
      Message.warning ("Workspace: " ++ diagnostic.render)).filterMap Message.line? = [] := by
  refine Log.filterMap_line?_of_notes fun message hmessage => ?_
  obtain ⟨diagnostic, -, rfl⟩ := List.mem_map.mp hmessage
  rfl

/-- What the program does with a run under each policy. -/
theorem perform_withPolicy (environment : Environment) (terminals : Terminals)
    (descriptor analyzer : String) (options : Options) :
    ∃ (before after : List Message) (conclusion : Conclusion),
      (∀ message ∈ before, ∃ fields, message = .debug fields)
      ∧ (∀ message ∈ after, ¬ ShowsLoading message)
      ∧ (∀ presentation, perform environment terminals
            (.run descriptor analyzer (options.withPolicy .drop) presentation)
          = conclude (loggerOf presentation) terminals ⟨before ++ after, conclusion⟩)
      ∧ ∀ presentation, perform environment terminals
            (.run descriptor analyzer (options.withPolicy .warn) presentation)
          = conclude (loggerOf presentation) terminals
              ⟨before ++ (loadDiagnostics environment (Path.ofText descriptor) analyzer
                  (options.withPolicy .drop)).map
                    (fun diagnostic => .warning ("Workspace: " ++ diagnostic.render)) ++ after,
                conclusion⟩ := by
  obtain ⟨before, after, conclusion, hbefore, hafter, hruns⟩ :=
    runCheckers_withPolicy environment (Path.ofText descriptor) analyzer options
  refine ⟨before, after, conclusion, hbefore, hafter, fun presentation => ?_,
    fun presentation => ?_⟩
  · rw [perform, hruns, Diagnostic.warnings, List.map_nil, List.append_nil]
  · rw [perform, hruns, Diagnostic.warnings, List.map_map]
    rfl

end CommandLine

end WorkspaceLint
