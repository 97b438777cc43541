import WorkspaceLint.Proofs.Analysis.Orders
import WorkspaceLint.Proofs.Checker.Script
import WorkspaceLint.Proofs.CommandLine.Stages
import WorkspaceLint.Proofs.Plugin.Definition
import WorkspaceLint.Proofs.Plugin.Surroundings
import WorkspaceLint.Proofs.Workspace.Ownership
import WorkspaceLint.Proofs.Workspace.Reordering

/-!
# Runs are repeatable

Two things about a run are not chosen by anyone: the order in which directories enumerate what they
hold, and the order in which units complete. When checkers look at nothing but the unit and failures
are isolated, a run tells the same in whatever order either of them comes, `runs_are_repeatable`. It
is put together from what is known of each stage:

* `Plugin.loadCheckers_sameAnswers` — loading plugins.
* `openWorkspace_reorders`          — opening the workspace.
* `run_sameUpTo_stop`               — running the checkers.
-/

namespace WorkspaceLint

/-! ## Stages -/

namespace CommandLine

/-- A fault that nothing of the command handles. -/
def CommandFault.IsEscaped (fault : CommandFault) : Prop := ∃ raised, fault = .escaped raised

/-- Two stages tell the same and come to the same, unless both end with a fault that nothing of the
command handles. -/
structure Stage.Alike {α : Type} (stage other : Stage α) : Prop where
  messages : stage.messages = other.messages
  outcome : SameUpTo CommandFault.IsEscaped stage.outcome other.outcome

namespace Stage.Alike

variable {α β : Type} {stage other : Stage α}

/-- A stage is like itself. -/
theorem of_eq (h : stage = other) : Stage.Alike stage other :=
  ⟨congrArg Stage.messages h, .inl (congrArg Stage.outcome h)⟩

/-- Stages that are alike stay so when what follows them is alike for each value that they come
to. -/
theorem andThen {next next' : α → Stage β} (h : Stage.Alike stage other)
    (hnext : ∀ value, stage.outcome = .ok value → Stage.Alike (next value) (next' value)) :
    Stage.Alike (stage.andThen next) (other.andThen next') := by
  rcases h.outcome with heq | ⟨⟨fault, hfault, hescaped⟩, last, hlast, hescaped'⟩
  · cases hstage : stage.outcome with
    | error fault =>
      rw [andThen_of_error hstage, andThen_of_error (heq ▸ hstage)]
      exact ⟨h.messages, .inl rfl⟩
    | ok value =>
      rw [andThen_of_ok hstage, andThen_of_ok (heq ▸ hstage)]
      exact ⟨congrArg₂ _ h.messages (hnext value hstage).messages, (hnext value hstage).outcome⟩
  · rw [andThen_of_error hfault, andThen_of_error hlast]
    exact ⟨h.messages, .error hescaped hescaped'⟩

/-- Stages that are alike have the same messages as transcripts, and the same conclusion unless both
end with a fault that nothing of the command handles. -/
theorem ofStage {stage other : Stage Unit} (h : Stage.Alike stage other) :
    (Transcript.ofStage stage).messages = (Transcript.ofStage other).messages
    ∧ ((Transcript.ofStage stage).conclusion = (Transcript.ofStage other).conclusion
      ∨ ∃ fault last, (Transcript.ofStage stage).conclusion = .escaped fault
          ∧ (Transcript.ofStage other).conclusion = .escaped last) := by
  rcases h.outcome with heq | ⟨⟨_, hfault, fault, rfl⟩, _, hlast, last, rfl⟩
  · have hsame : Transcript.ofStage stage = Transcript.ofStage other := by
      rw [Transcript.ofStage, Transcript.ofStage, heq, h.messages]
    exact ⟨congrArg Transcript.messages hsame, .inl (congrArg Transcript.conclusion hsame)⟩
  · rw [Transcript.ofStage, Transcript.ofStage, hfault, hlast]
    exact ⟨h.messages, .inr ⟨fault, last, rfl, rfl⟩⟩

end Stage.Alike

section

variable {host other : Host SourceFile} (hhost : host.WellFormed) (h : host.Reorders other)

include hhost h

/-- Loading the plugin does not see the order of enumeration. -/
theorem loadStage_reorders (environment : Environment) (analyzer : String) (withInstalled : Bool) :
    loadStage { environment with host := other } analyzer withInstalled
      = loadStage { environment with host := host } analyzer withInstalled := by
  rw [loadStage, loadStage, Plugin.loadCheckers_sameAnswers (h.sameAnswers hhost.tree)]

/-- Reading the settings does not see the order of enumeration. -/
theorem settingsStage_reorders : settingsStage other = settingsStage host := by
  funext descriptor options
  rw [settingsStage, settingsStage, Host.expandHome_reorders h, readDescriptor_reorders hhost h]

/-- Opening the workspace does not see the order of enumeration. -/
theorem openStage_reorders {descriptor : Path} (hdescriptor : descriptor.IsProper)
    (settings : Settings) :
    Stage.Alike (openStage host descriptor settings) (openStage other descriptor settings) := by
  have hopens := openWorkspace_reorders hhost h settings .identity hdescriptor
  refine Stage.Alike.andThen ⟨?_, hopens.outcome.mapError ?_⟩ fun workspace _ => .of_eq rfl
  · exact congrArg (diagnosticMessages settings) hopens.diagnostics
  · rintro _ ⟨path, rfl⟩
    exact ⟨_, rfl⟩

end

/-- An isolated analysis with checkers that keep no state is the same for all orders of
completion. -/
theorem analysisStage_alike {order order' : RunMode → Analysis.CompletionOrder}
    {settings : Settings} {types : List PluginClass} {workspace : Workspace}
    (hstateless : ∀ checker ∈ Registry.runnable types, checker.IsStateless)
    (hisolate : settings.isolateFailures = true)
    (horder : ∀ mode, (order mode).Completes workspace)
    (horder' : ∀ mode, (order' mode).Completes workspace) :
    Stage.Alike (analysisStage order settings types workspace)
      (analysisStage order' settings types workspace) := by
  have hmode : (RunMode.ofSettings settings).isolateFailures = true := hisolate
  have hruns := Analysis.run_sameUpTo_stop hstateless hmode (horder (.ofSettings settings))
    (horder' (.ofSettings settings)) []
  rw [analysisStage, analysisStage]
  rcases hruns with heq | ⟨⟨_, hfault, fault, rfl⟩, _, hlast, last, rfl⟩
  · rw [heq]
    exact .of_eq rfl
  · rw [hfault, hlast]
    exact ⟨rfl, .error ⟨fault, rfl⟩ ⟨last, rfl⟩⟩

/-- **A run tells the same in every order.** However the directories of a file tree enumerate what
they hold, opening a workspace reports the same diagnostics in the same order and comes to the same,
except that among several names too long for the system another one may be met first. So a run with
isolated failures, whose checkers look at nothing but the unit, tells the same messages, the lines
of the report among them, and has the same conclusion unless it ends with a fault that nothing of
the command handles. -/
theorem runs_are_repeatable {host other : Host SourceFile} (hhost : host.WellFormed)
    (h : host.Reorders other) (descriptor : String) :
    (∀ settings mapper,
      let opened := openWorkspace host settings mapper (Path.ofText descriptor)
      let reopened := openWorkspace other settings mapper (Path.ofText descriptor)
      opened.diagnostics = reopened.diagnostics
      ∧ (opened.outcome = reopened.outcome
        ∨ ∃ path last, opened.outcome = .error (.escaped (PathFault.nameTooLong.toFault path))
            ∧ reopened.outcome = .error (.escaped (PathFault.nameTooLong.toFault last))))
    ∧ ∀ (installed : Plugin.Installed) (order order' : RunMode → Analysis.CompletionOrder)
        (analyzer : String) (options : Options),
      (∀ types, (loadStage ⟨host, installed, order⟩ analyzer options.installed).outcome = .ok types →
        ∀ checker ∈ Registry.runnable types, checker.IsStateless) →
      (∀ settings, (settingsStage host (Path.ofText descriptor) options).outcome = .ok settings →
        settings.isolateFailures = true) →
      (∀ mode workspace, (order mode).Completes workspace) →
      (∀ mode workspace, (order' mode).Completes workspace) →
      let ran := runCheckers ⟨host, installed, order⟩ (Path.ofText descriptor) analyzer options
      let rerun := runCheckers ⟨other, installed, order'⟩ (Path.ofText descriptor) analyzer options
      ran.messages = rerun.messages
      ∧ (ran.conclusion = rerun.conclusion
        ∨ ∃ fault last, ran.conclusion = .escaped fault ∧ rerun.conclusion = .escaped last) := by
  refine ⟨fun settings mapper => ?_, fun installed order order' analyzer options hstateless hisolate
    horder horder' => ?_⟩
  · have hopens := openWorkspace_reorders hhost h settings mapper (Path.ofText_isProper descriptor)
    refine ⟨hopens.diagnostics, hopens.outcome.imp_right ?_⟩
    rintro ⟨⟨_, hfault, path, rfl⟩, _, hlast, last, rfl⟩
    exact ⟨path, last, hfault, hlast⟩
  · refine Stage.Alike.ofStage ?_
    -- Stage by stage: only opening and analysis see an order, and both are alike in it.
    have hload := loadStage_reorders hhost h ⟨host, installed, order'⟩ analyzer options.installed
    refine Stage.Alike.andThen (.of_eq hload.symm) fun types htypes => ?_
    refine Stage.Alike.andThen (.of_eq (by rw [settingsStage_reorders hhost h]))
      fun settings hsettings => ?_
    refine Stage.Alike.andThen
      (openStage_reorders hhost h (Path.ofText_isProper descriptor) settings) fun workspace _ => ?_
    exact Stage.Alike.andThen (analysisStage_alike (hstateless types htypes)
      (hisolate settings hsettings) (fun mode => horder mode workspace)
      (fun mode => horder' mode workspace)) fun result _ => .of_eq rfl

/-! ### A checker that greets every unit -/

/-- A checker that has the same to say about every unit. -/
def greeting : ClassDefinition :=
  ⟨"Greeting", some "Checker",
    some (.oneByOne [⟨none, .text "G1", .text "hello", .emit (.pair [.int 1, .int 1])⟩]), [], [],
    none, none, none, none⟩

/-- A host with a workspace of one project with two source files, and a plugin beside it. -/
def greetingHost : Host SourceFile :=
  ⟨⟨[(["w"], .directory), (["w", "pyproject.toml"], emptyFile), (["w", "m.py"], emptyFile),
      (["w", "n.py"], emptyFile), (["g.py"], .file ⟨[], none, some (Plugin.exporting greeting)⟩)]⟩,
    ["w"], ⟨.root, ["w"]⟩, .standard⟩

/-- The host with everything enumerated the other way round. -/
def reversedHost : Host SourceFile :=
  { greetingHost with tree := ⟨greetingHost.tree.entries.reverse⟩ }

/-- The host with a greeting is well-formed. -/
theorem greetingHost_wellFormed : greetingHost.WellFormed :=
  ⟨⟨by decide, by decide⟩, by decide, by simp only [Path.IsProper]; decide⟩

/-- The reversed host differs in the order of enumeration only. -/
theorem reversedHost_reorders : greetingHost.Reorders reversedHost :=
  ⟨(List.reverse_perm greetingHost.tree.entries).symm, rfl, rfl, rfl⟩

/-- The host with a greeting provides its one checker. -/
theorem greetingHost_provides (installed : Plugin.Installed)
    (order : RunMode → Analysis.CompletionOrder) :
    ∃ number owner, (loadStage ⟨greetingHost, installed, order⟩ "/g.py" false).outcome
      = .ok [.define number owner .checker greeting] := by
  have hdefines : Plugin.DefinesChecker greeting _ :=
    ⟨rfl, rfl, rfl, rfl, rfl, rfl, by decide⟩
  have hloader : Plugin.loaderFor greetingHost "/g.py" = .ok .file :=
    toOption_eq_some_iff.mp (by decide +kernel)
  obtain ⟨name, hlocate⟩ : ∃ name, Plugin.locatePlugin greetingHost "/g.py"
      = .ok (name, ⟨⟨.root, ["g.py"]⟩, none⟩) := by
    have hsource : (Plugin.locatePlugin greetingHost "/g.py").toOption.map
        (fun found => (found.2.location, found.2.search)) = some (⟨.root, ["g.py"]⟩, none) := by
      decide +kernel
    obtain ⟨⟨name, ⟨location, search⟩⟩, hfound, hsource⟩ := Option.map_eq_some_iff.mp hsource
    obtain ⟨rfl, rfl⟩ := Prod.mk.inj hsource
    exact ⟨name, toOption_eq_some_iff.mp hfound⟩
  -- The file has no bytes, so its statements are those that come with it.
  have hread : greetingHost.readFile ⟨.root, ["g.py"]⟩
      = .ok ⟨[], none, some (Plugin.exporting greeting)⟩ := rfl
  have hstatements : Plugin.statementsOf greetingHost.platform.codecs
      ⟨[], none, some (Plugin.exporting greeting)⟩ = .ok (Plugin.exporting greeting) :=
    Plugin.statementsOf_empty _ rfl
  have hsession : Session.initial.nextClass ≠ PluginClass.givenNumber := Nat.succ_ne_zero _
  obtain ⟨owner, hload⟩ := Plugin.loadCheckers_of_exports hdefines hloader hlocate hread hstatements
    hsession installed
  exact ⟨_, owner, Stage.andThen_outcome_eq_ok_iff.mpr
    ⟨_, Stage.ofExcept_outcome_eq_ok_iff.mpr hload, rfl⟩⟩

/-- Greetings are told in the order of the units, in whatever order these are found and complete. -/
theorem greetings_are_repeatable :
    let options := { Options.standard with jobs := .int 2 }
    let ran := runCheckers ⟨greetingHost, .nothing, Pool.order⟩ (Path.ofText "/w/pyproject.toml")
      "/g.py" options
    let rerun := runCheckers ⟨reversedHost, .nothing, fun _ => Analysis.reverseOrder⟩
      (Path.ofText "/w/pyproject.toml") "/g.py" options
    ran.messages = rerun.messages
    ∧ (ran.conclusion = rerun.conclusion
      ∨ ∃ fault last, ran.conclusion = .escaped fault ∧ rerun.conclusion = .escaped last) := by
  intro options
  refine (runs_are_repeatable greetingHost_wellFormed reversedHost_reorders "/w/pyproject.toml").2
    .nothing Pool.order (fun _ => Analysis.reverseOrder) "/g.py" options ?_ ?_ Pool.order_completes
    fun _ => Analysis.reverseOrder_completes
  · intro types htypes
    obtain ⟨number, owner, hprovides⟩ := greetingHost_provides .nothing Pool.order
    obtain rfl := Except.ok.inj (hprovides.symm.trans htypes)
    exact List.forall_mem_singleton.mpr (Checker.ofScript_isStateless _ _ rfl)
  · intro settings hsettings
    have hisolate : ((settingsStage greetingHost (Path.ofText "/w/pyproject.toml")
        options).outcome.toOption.map (·.isolateFailures)) = some true := by decide +kernel
    rw [hsettings] at hisolate
    exact Option.some.inj hisolate

end CommandLine

end WorkspaceLint
