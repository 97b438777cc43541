import WorkspaceLint.Proofs.Plugin.Classification
import WorkspaceLint.Proofs.Plugin.Rollback

/-!
# Dependencies that are not found

A plugin that is there may need a module that is not. That is told to be a plugin that does not fit,
unless the reference to the plugin, which is one to a path, reads as the name of the missing module
or of one below it. A reference with a slash before its first dot does not, whatever is missing; a
bare file name may, and then the plugin is told to be missing although it was executed.

* `locatePlugin_eq_ok_iff`      — the references that name an existing plugin.
* `lost_dependency_kind`        — what is told of a dependency that is not found.
* `dependency_hides_its_plugin` — an existing plugin that is told to be missing.
-/

namespace WorkspaceLint.Plugin

open LoadFailure

variable {host : Host SourceFile} {reference name : String} {source : PluginSource}
  {session : Session} {fault : Fault}

/-! ## Existing plugins -/

/-- What is executed for a plugin that is at a path: the file that is there, or the package file of
the directory that is there. -/
inductive IsAt (host : Host SourceFile) (path : Path) : PluginSource → Prop
  | file (hdirectory : host.isDirectory? path = .ok false) (hfile : host.isFile? path = .ok true) :
      IsAt host path ⟨path, none⟩
  | package (hdirectory : host.isDirectory? path = .ok true)
      (hfile : host.isFile? (path.child packageFile) = .ok true) :
      IsAt host path ⟨path.child packageFile, some [path]⟩

/-- The source at a path is found if and only if it is there, as a file or as a package. -/
theorem sourceAt_eq_ok_iff {path : Path} :
    sourceAt host reference path = .ok source ↔ IsAt host path source := by
  constructor
  · intro h
    obtain ⟨isDirectory, hdirectory, h⟩ := bind_eq_ok_iff.mp h
    cases isDirectory with
    | true =>
      obtain ⟨isFile, hfile, h⟩ := bind_eq_ok_iff.mp h
      cases isFile with
      | true =>
        cases h
        exact .package hdirectory hfile
      | false => cases h
    | false =>
      obtain ⟨isFile, hfile, h⟩ := bind_eq_ok_iff.mp h
      cases isFile with
      | true =>
        cases h
        exact .file hdirectory hfile
      | false => cases h
  · rintro (⟨hdirectory, hfile⟩ | ⟨hdirectory, hfile⟩)
    · exact bind_eq_ok_iff.mpr ⟨false, hdirectory, bind_eq_ok_iff.mpr ⟨true, hfile, rfl⟩⟩
    · exact bind_eq_ok_iff.mpr ⟨true, hdirectory, bind_eq_ok_iff.mpr ⟨true, hfile, rfl⟩⟩

/-- A reference names an existing plugin: it leads to a module file or to a package, which is
registered under the given name. -/
structure NamesPlugin (host : Host SourceFile) (reference name : String) (source : PluginSource) :
    Prop where
  kind : looksLikePath host reference = .ok true
  found : ∃ path, host.expandHome (Path.ofText reference) = .ok path ∧ IsAt host path source
    ∧ nameOf host path = .ok name
  suffix : endsWith source.location.text moduleSuffix = true

/-- A plugin is located if and only if its path has a source, a name, and the ending of a module. -/
theorem locatePlugin_eq_ok_iff : locatePlugin host reference = .ok (name, source)
    ↔ ∃ path, host.expandHome (Path.ofText reference) = .ok path ∧ IsAt host path source
      ∧ nameOf host path = .ok name ∧ endsWith source.location.text moduleSuffix = true := by
  constructor
  · intro h
    obtain ⟨path, hpath, h⟩ := bind_eq_ok_iff.mp h
    obtain ⟨found, hsource, h⟩ := bind_eq_ok_iff.mp h
    obtain ⟨registered, hname, h⟩ := bind_eq_ok_iff.mp h
    split at h
    next hsuffix =>
      cases h
      exact ⟨path, hpath, sourceAt_eq_ok_iff.mp hsource, hname, hsuffix⟩
    next => cases h
  · rintro ⟨path, hpath, hsource, hname, hsuffix⟩
    refine bind_eq_ok_iff.mpr ⟨path, hpath, bind_eq_ok_iff.mpr
      ⟨source, sourceAt_eq_ok_iff.mpr hsource, bind_eq_ok_iff.mpr ⟨name, hname, ?_⟩⟩⟩
    rw [if_pos hsuffix]
    rfl

/-- A reference names a plugin if and only if it looks like a path and the plugin is located. -/
theorem namesPlugin_iff : NamesPlugin host reference name source
    ↔ looksLikePath host reference = .ok true
      ∧ locatePlugin host reference = .ok (name, source) := by
  rw [locatePlugin_eq_ok_iff]
  constructor
  · rintro ⟨hkind, ⟨path, hpath, hsource, hname⟩, hsuffix⟩
    exact ⟨hkind, path, hpath, hsource, hname, hsuffix⟩
  · rintro ⟨hkind, path, hpath, hsource, hname, hsuffix⟩
    exact ⟨hkind, ⟨path, hpath, hsource, hname⟩, hsuffix⟩

/-! ## Plugins that fail -/

/-- A reference names an existing plugin, the execution of which ends with a fault when it is loaded
from a session. -/
def ExecutionFails (host : Host SourceFile) (reference : String) (session : Session)
    (fault : Fault) : Prop :=
  ∃ name source, NamesPlugin host reference name source
    ∧ (runFile host (importName host) session.modules.length source.location
        (started session name (.ofFile name source.search))).1 = .error fault

/-- The fault of a plugin that fails is told as it is for the reference. -/
theorem loadPlugin_of_executionFails (h : ExecutionFails host reference session fault) :
    (loadPlugin host reference session).1 = .error (loadFault reference fault) := by
  obtain ⟨name, source, hnames, hfails⟩ := h
  obtain ⟨hkind, hlocate⟩ := namesPlugin_iff.mp hnames
  rw [loadPlugin_of_path hkind, told, loadFile_of_located hlocate]
  generalize runFile host (importName host) session.modules.length source.location
    (started session name (.ofFile name source.search)) = result at hfails
  obtain ⟨result, after⟩ := result
  obtain rfl : result = .error fault := hfails
  rfl

/-- **The kind of a failure for which a dependency was not found.** An existing plugin that fails
because a module was not found is told not to fit, unless the reference reads as the name of that
module or of one below it; then the plugin is told to be missing. A reference with a slash before
its first dot reads as no name of a module. -/
theorem lost_dependency_kind (h : ExecutionFails host reference session fault)
    (hraisable : fault.IsRaisable) (hnotFound : fault.isA "ModuleNotFoundError" = true)
    {missing : String} (hmissing : fault.importName = some missing) :
    (¬ ReadsAs reference missing →
      (loadPlugin host reference session).1 = .error (.failure ⟨.incompatible, reference⟩))
    ∧ (ReadsAs reference missing →
      (loadPlugin host reference session).1 = .error (.failure ⟨.missing, reference⟩))
    ∧ ('/' ∈ reference.toList.takeWhile (· ≠ '.') → '/' ∉ missing.toList →
      ¬ ReadsAs reference missing) := by
  refine ⟨fun hreads => ?_, fun hreads => ?_, not_readsAs_of_slash⟩
  · have hnone (name : String) (hname : fault.importName = some name) : ¬ ReadsAs reference name :=
      Option.some.inj (hmissing.symm.trans hname) ▸ hreads
    rw [loadPlugin_of_executionFails h, loadFault_of_not_readsAs hraisable hnotFound hnone]
  · rw [loadPlugin_of_executionFails h, loadFault_of_readsAs hraisable hnotFound hmissing hreads]

/-! ### A plugin with a dot in its name -/

/-- A host with a plugin that imports a module which is not there. -/
def dependentHost : Host SourceFile := loneHost "acme.rules.py" [.importModule "acme"]

/-- The import of the module fails wherever the plugin is registered. -/
theorem runModule_dependent (handle : Nat) {session : Session}
    (h : session.handle? "acme" = none) :
    (runModule (importName dependentHost) handle [.importModule "acme"] session).1
      = .error (moduleNotFound "acme" "") := by
  let begun := session.change handle fun module =>
    module.bind Session.checkerName (.classObject PluginClass.checker)
  have hparts : reversedParts "acme" = ["acme"] := by decide +kernel
  have hgiven : GivenModule.find? "acme" = none := by decide +kernel
  have hplace : topPlace dependentHost "acme" = none := (topPlace_of_not_given hgiven).trans rfl
  have hbegun : begun.handle? "acme" = none := h
  have himport : importName dependentHost "acme" begun
      = (.error (moduleNotFound "acme" ""), begun) := by
    rw [importName_eq, hparts, importParts_singleton hbegun,
      loadModule_of_nowhere (placeOf_top hplace)]
  have hstatement : runStatement (importName dependentHost) handle (.importModule "acme") begun
      = (.error (moduleNotFound "acme" ""), begun) := by
    have hdiscard : (discard (importName dependentHost "acme") : Loading Unit) begun
        = (.error (moduleNotFound "acme" ""), begun) := by
      change ((importName dependentHost "acme" >>= fun _ => pure ()) : Loading Unit) begun = _
      rw [bind_apply, himport]
    rw [runStatement, bind_apply, hdiscard]
  have hruns : runModule (importName dependentHost) handle [.importModule "acme"] session
      = runStatements (importName dependentHost) handle [.importModule "acme"] begun := rfl
  rw [hruns, runStatements, bind_apply, hstatement]

/-- The plugin fails under every reference by which it is found. -/
theorem dependent_executionFails {reference : String} {path : Path}
    (hkind : looksLikePath dependentHost reference = .ok true)
    (hfound : (locatePlugin dependentHost reference).toOption.map
        (fun found => (found.1 == "acme", found.2.location, found.2.search))
      = some (false, path, none))
    (hread : dependentHost.readFile path = .ok ⟨[], none, some [.importModule "acme"]⟩) :
    ExecutionFails dependentHost reference Session.initial (moduleNotFound "acme" "") := by
  obtain ⟨⟨name, ⟨location, search⟩⟩, hlocate, hsource⟩ := Option.map_eq_some_iff.mp hfound
  obtain ⟨hname, rfl, rfl⟩ : (name == "acme") = false ∧ location = path ∧ search = none := by
    simpa using hsource
  refine ⟨name, ⟨location, none⟩, namesPlugin_iff.mpr ⟨hkind, toOption_eq_some_iff.mp hlocate⟩, ?_⟩
  have hinitial : Session.initial.handle? "acme" = none := handle?_initial (by decide +kernel)
  rw [runFile_of_statements hread (statementsOf_empty _ rfl)]
  exact runModule_dependent _
    ((handle?_started_of_ne (beq_eq_false_iff_ne.mp hname).symm _ _).trans hinitial)

/-- A reference from the root does not read as a name, so the plugin is told not to fit. -/
theorem rooted_plugin_is_incompatible :
    ExecutionFails dependentHost "/acme.rules.py" Session.initial (moduleNotFound "acme" "")
    ∧ (loadPlugin dependentHost "/acme.rules.py" Session.initial).1
      = .error (.failure ⟨.incompatible, "/acme.rules.py"⟩) := by
  have hfails : ExecutionFails dependentHost "/acme.rules.py" Session.initial
      (moduleNotFound "acme" "") :=
    dependent_executionFails rfl
      (show _ = some (false, ⟨.root, ["acme.rules.py"]⟩, none) by decide +kernel) rfl
  obtain ⟨hincompatible, -, hslash⟩ := lost_dependency_kind hfails (isRaisable_moduleNotFound _ _)
    (isA_moduleNotFound _ _) (show _ = some "acme" from rfl)
  exact ⟨hfails, hincompatible (hslash (by decide) (by decide))⟩

/-- The name of the file reads as that of a module below the missing one, so the plugin is told to
be missing although it was executed. -/
theorem dependency_hides_its_plugin :
    ExecutionFails dependentHost "acme.rules.py" Session.initial (moduleNotFound "acme" "")
    ∧ (moduleNotFound "acme" "").isA "ModuleNotFoundError" = true
    ∧ (moduleNotFound "acme" "").importName = some "acme"
    ∧ (loadPlugin dependentHost "acme.rules.py" Session.initial).1
      = .error (.failure ⟨.missing, "acme.rules.py"⟩) := by
  have hfails : ExecutionFails dependentHost "acme.rules.py" Session.initial
      (moduleNotFound "acme" "") :=
    dependent_executionFails rfl
      (show _ = some (false, ⟨.relative, ["acme.rules.py"]⟩, none) by decide +kernel) rfl
  have hreads : ReadsAs "acme.rules.py" "acme" := ⟨by decide, .inr ⟨"rules.py", by decide⟩⟩
  refine ⟨hfails, isA_moduleNotFound _ _, rfl, ?_⟩
  rw [loadPlugin_of_executionFails hfails,
    loadFault_moduleNotFound (namesArtifact_iff.mpr ⟨"acme", rfl, hreads⟩)]

end WorkspaceLint.Plugin
