import WorkspaceLint.Proofs.CommandLine.Stages
import WorkspaceLint.Proofs.Fault.Lineage
import WorkspaceLint.Proofs.Plugin.Absence
import WorkspaceLint.Proofs.Plugin.ExportFaults

/-!
# The command and the exports of its plugin

A plugin that was loaded is asked for its checkers. A checker that cannot be made ends a run with an
account of it. That the exports of the plugin cannot be told is not foreseen: the run tells nothing,
and is ended by the fault of looking through them.
-/

namespace WorkspaceLint.CommandLine

open Log Plugin Registry

/-! ## The faults that tell that exports cannot be told -/

/-- The classes of the faults that the program handles at its end, besides those of the system. -/
def endingClasses : List String := ["SystemExit", "KeyboardInterrupt", "EOFError"]

/-- A fault with a message that the program does not handle at its end leaves it. -/
theorem endedBy_withMessage {className : String}
    (h : ∀ name ∈ endingClasses, name ∉ Fault.lineage (Fault.standardName className))
    (written : Written) (message : String) :
    endedBy written (.withMessage className message)
      = ⟨written, 1, some (.withMessage className message)⟩ := by
  have hisA {name : String} (hname : name ∈ endingClasses) :
      (Fault.withMessage className message).isA name = false := by
    rw [Fault.isA, Fault.ancestors_withMessage, Bool.eq_false_iff, ne_eq, List.contains_iff_mem]
    exact h name hname
  have hpipe : isBrokenPipe (.withMessage className message) = false := by
    rw [isBrokenPipe, Fault.systemNumber?_withMessage]
    rfl
  rw [endedBy, hisA (by simp [endingClasses]), hisA (by simp [endingClasses]),
    hisA (by simp [endingClasses]), hpipe]
  rfl

/-- The program does not handle such a fault at its end. -/
theorem conclude_of_exportsFail {module : PluginModule} {fault : Fault}
    (h : ExportsFail module fault) (logger : Logger) (terminals : Terminals) :
    conclude logger terminals ⟨[], .escaped fault⟩
      = ⟨logger.writeAll terminals [], 1, some fault⟩ := by
  have htype : ∀ name ∈ endingClasses, name ∉ Fault.lineage (Fault.standardName "TypeError") := by
    decide +kernel
  have hattribute : ∀ name ∈ endingClasses,
      name ∉ Fault.lineage (Fault.standardName "AttributeError") := by
    decide +kernel
  cases h with
  | notIterable => exact endedBy_withMessage htype _ _
  | noMemberName => exact endedBy_withMessage htype _ _
  | nameless => exact endedBy_withMessage hattribute _ _

/-- The checkers of a run are those that discovery makes of the plugin. -/
theorem loadCheckers_of_loadPlugin {host : Host SourceFile} {reference : String}
    {session after : Session} {handle : Nat}
    (h : loadPlugin host reference session = (.ok handle, after)) (installed : Installed) :
    loadCheckers host installed false reference session = discover handle after := by
  rw [loadCheckers, bind_apply, h]
  rfl

/-- The module of the session lists its exports and binds nothing else. -/
theorem module_listingSession (names : Value) :
    (idleSession [.declareExports names]).module 0
      = idleModule.bind PluginModule.exportsKey (.value names) := by
  rw [idleSession_eq rfl]
  rfl

/-- A file that does nothing but list exports is loaded, whatever it lists. -/
theorem loadPlugin_listing (names : Value) (session : Session) :
    ∃ after, loadPlugin (loneHost "acme.py" [.declareExports names]) "/acme.py" session
        = (.ok session.modules.length, after)
      ∧ (after.module session.modules.length).lookup PluginModule.exportsKey
        = some (.value names) := by
  let host := loneHost "acme.py" [.declareExports names]
  obtain ⟨name, hlocate⟩ : ∃ name, locatePlugin host "/acme.py"
      = .ok (name, ⟨⟨.root, ["acme.py"]⟩, none⟩) := ⟨_, rfl⟩
  let handle := session.modules.length
  let begun := (started session name (.ofFile name none)).change handle fun module =>
    module.bind Session.checkerName (.classObject PluginClass.checker)
  let after := begun.change handle fun module =>
    module.bind PluginModule.exportsKey (.value names)
  have hlength : session.modules.length < begun.modules.length := by
    rw [Session.length_change, length_started]
    exact Nat.lt_succ_self _
  have hload : loadFile host "/acme.py" session = (.ok session.modules.length, after) :=
    loadFile_of_statements hlocate rfl (statementsOf_empty _ rfl) session
  refine ⟨after, ?_, ?_⟩
  · rw [loadPlugin_of_path rfl, told, hload]
  · rw [Session.module_change _ hlength, PluginModule.lookup_bind_self]

/-- An environment with nothing but a file that lists exports. -/
def listingEnvironment (names : Value) : Environment :=
  ⟨loneHost "acme.py" [.declareExports names], .nothing, fun _ _ => Analysis.submissionOrder⟩

end WorkspaceLint.CommandLine
