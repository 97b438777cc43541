import WorkspaceLint.Plugin.Given.Basic

/-!
# The modules of this program

The modules of this program that plugins can import, with the names that they provide.
-/

namespace WorkspaceLint.GivenModule

/-- The program's own modules. -/
def program : List GivenModule := [
  ⟨"runcheckers", true,
    "Checker:runcheckers.checkers Finding:runcheckers.models Location:runcheckers.models "
      ++ "SourceUnit:runcheckers.workspace.models", "", "__version__"⟩,
  ⟨"runcheckers.analysis", true,
    "AnalysisFailure:runcheckers.analysis.results AnalysisResult:runcheckers.analysis.results "
      ++ "AnalysisRunner:runcheckers.analysis.runner ProjectResult:runcheckers.analysis.results "
      ++ "RejectedFinding:runcheckers.analysis.results", "", ""⟩,
  ⟨"runcheckers.analysis.results", false,
    "AnalysisFailure AnalysisResult ProjectResult RejectedFinding", "", ""⟩,
  ⟨"runcheckers.analysis.runner", false, "AnalysisRunner UnitOutcome", "", ""⟩,
  ⟨"runcheckers.checkers", false, "Checker", "is_checker_class", ""⟩,
  ⟨"runcheckers.cli", true, "RunOptions:runcheckers.cli.command",
    "main:runcheckers.cli.app run_checkers:runcheckers.cli.command", "app"⟩,
  ⟨"runcheckers.cli.app", false, "", "main", "app"⟩,
  ⟨"runcheckers.cli.command", false, "RunOptions", "default_provider run_checkers run_command", ""⟩,
  ⟨"runcheckers.cli.shared", false, "CLIError CLILogger", "build_cli_logger", ""⟩,
  ⟨"runcheckers.config", false, "ConfigError RunConfig WorkspaceDiagnosticPolicy",
    "descriptor_section load_run_config", ""⟩,
  ⟨"runcheckers.console", false, "RichConsoleManager", "detect_tty get_console_manager", ""⟩,
  ⟨"runcheckers.errors", false,
    "AnalysisError PluginConfigurationError PluginLoadError RunCheckersError WorkspaceLoadError",
    "", ""⟩,
  ⟨"runcheckers.logging", false, "", "emoji fail warn", ""⟩,
  ⟨"runcheckers.models", false, "Finding Location", "", ""⟩,
  ⟨"runcheckers.plugins", true,
    "FileModuleLoader:runcheckers.plugins.loader ImportModuleLoader:runcheckers.plugins.loader "
      ++ "LoadFailure:runcheckers.plugins.failures LoadFailureKind:runcheckers.plugins.failures "
      ++ "ModuleLoader:runcheckers.plugins.loader",
    "classify_load_failure:runcheckers.plugins.failures discover:runcheckers.plugins.registry "
      ++ "discover_many:runcheckers.plugins.registry "
      ++ "load_analyzer_module:runcheckers.plugins.loader load_checkers "
      ++ "load_entry_point_plugins:runcheckers.plugins.loader", "CHECKERS_PLUGIN_GROUP"⟩,
  ⟨"runcheckers.plugins.failures", false, "LoadFailure LoadFailureKind", "classify_load_failure",
    ""⟩,
  ⟨"runcheckers.plugins.loader", false, "FileModuleLoader ImportModuleLoader ModuleLoader",
    "load_analyzer_module load_entry_point_plugins looks_like_path resolve_loader "
      ++ "synthetic_module_name", "CHECKERS_PLUGIN_GROUP"⟩,
  ⟨"runcheckers.plugins.registry", false, "",
    "checker_classes discover discover_many exported_objects instantiate", ""⟩,
  ⟨"runcheckers.reporting", true, "ReportFormat",
    "format_finding:runcheckers.reporting.formatter format_json:runcheckers.reporting.json "
      ++ "format_project:runcheckers.reporting.formatter "
      ++ "format_report:runcheckers.reporting.formatter "
      ++ "relativize:runcheckers.reporting.formatter", ""⟩,
  ⟨"runcheckers.reporting.formatter", false, "",
    "format_finding format_project format_report relativize",
    "FINDING_TEMPLATE PROJECT_HEADER_TEMPLATE"⟩,
  ⟨"runcheckers.reporting.json", false, "FindingPayload ProjectPayload ReportPayload",
    "build_payload format_json", ""⟩,
  ⟨"runcheckers.workspace", true,
    "CompilationGraphProvider:runcheckers.workspace.provider "
      ++ "IdentityPositionMapper:runcheckers.workspace.models "
      ++ "PositionMapper:runcheckers.workspace.models Project:runcheckers.workspace.models "
      ++ "PyProjectWorkspaceProvider:runcheckers.workspace.provider "
      ++ "SourceUnit:runcheckers.workspace.models Workspace:runcheckers.workspace.models "
      ++ "WorkspaceDiagnostic:runcheckers.workspace.models "
      ++ "WorkspaceDiagnosticHandler:runcheckers.workspace.provider "
      ++ "WorkspaceDiagnosticKind:runcheckers.workspace.models",
    "read_descriptor:runcheckers.workspace.provider", ""⟩,
  ⟨"runcheckers.workspace.discovery", false, "", "iter_source_files",
    "ALWAYS_EXCLUDE_DIRS SOURCE_SUFFIX"⟩,
  ⟨"runcheckers.workspace.models", false,
    "IdentityPositionMapper PositionMapper Project SourceUnit Workspace WorkspaceDiagnostic "
      ++ "WorkspaceDiagnosticKind", "", ""⟩,
  ⟨"runcheckers.workspace.provider", false,
    "CompilationGraphProvider PyProjectWorkspaceProvider WorkspaceDiagnosticHandler",
    "read_descriptor", "PROJECT_FILE"⟩]

end WorkspaceLint.GivenModule
