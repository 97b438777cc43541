import WorkspaceLint.Proofs.Plugin.Classes
import WorkspaceLint.Proofs.Plugin.Making
import WorkspaceLint.Proofs.SourceText

/-!
# A plugin file with one checker

The simplest plugin is a file that defines one class of checkers and exports it. Loading it provides
that class and nothing else, `loadCheckers_of_exports`, from whatever session the loading starts.
-/

namespace WorkspaceLint

/-! ## Bindings and modules -/

namespace PluginModule

/-- A name that is bound stands for what it was bound to. -/
theorem lookup_bind_self (module : PluginModule) (name : String) (object : PluginObject) :
    (module.bind name object).lookup name = some object := by
  rw [lookup, bind]
  induction module.bindings with
  | nil => simp [setBinding]
  | cons binding bindings ih =>
    rw [setBinding]
    split
    · simp
    next hne => rw [List.lookup_cons, beq_false_of_ne (Ne.symm hne), ih]

/-- Every other name stands for what it did. -/
theorem lookup_bind_of_ne (module : PluginModule) {name other : String} (h : other ≠ name)
    (object : PluginObject) : (module.bind name object).lookup other = module.lookup other := by
  rw [lookup, lookup, bind]
  induction module.bindings with
  | nil => simp [setBinding, h]
  | cons binding bindings ih =>
    rw [setBinding]
    split
    next heq => rw [List.lookup_cons, List.lookup_cons, heq, beq_false_of_ne h]
    next => rw [List.lookup_cons, List.lookup_cons, ih]

end PluginModule

namespace Session

/-- A module that is changed is what the change makes of it. -/
theorem module_change {session : Session} {handle : Nat} (f : PluginModule → PluginModule)
    (h : handle < session.modules.length) :
    (session.change handle f).module handle = f (session.module handle) := by
  simp [change, Session.module, h]

/-- A change adds and removes no module. -/
theorem length_change (session : Session) (handle : Nat) (f : PluginModule → PluginModule) :
    (session.change handle f).modules.length = session.modules.length := by
  simp [change]

end Session

namespace Plugin

/-! ## Executing the file -/

/-- The statements of a file that exports the one class it defines. -/
def exporting (definition : ClassDefinition) : List Statement :=
  [.declareExports (.list [.text definition.name]), .defineClass definition]

/-- A definition of a class of checkers that follows a script and is made without arguments. -/
structure DefinesChecker (definition : ClassDefinition) (script : CheckScript) : Prop where
  base : definition.base = some Session.checkerName
  script : definition.script = some script
  abstractMethods : definition.abstractMethods = []
  methods : definition.methods = []
  init : definition.init = none
  signature : definition.signature = none
  name : definition.name ≠ PluginModule.exportsKey

/-- Where the work has a value, the handler of faults is not asked. -/
theorem tryCatch_of_ok {α : Type} {work : Loading α} {session after : Session} {value : α}
    (h : work session = (.ok value, after)) (handler : Fault → Loading α) :
    (tryCatch work handler) session = (.ok value, after) := by
  simp only [tryCatch, tryCatchThe, MonadExceptOf.tryCatch, ExceptT.tryCatch, ExceptT.mk, bind,
    StateT.bind, h]
  rfl

/-- A file the statements of which are read is executed statement by statement. -/
theorem runFile_of_statements {host : Host SourceFile} {path : Path} {file : SourceFile}
    {statements : List Statement} (hread : host.readFile path = .ok file)
    (hstatements : statementsOf host.platform.codecs file = .ok statements) (importer : Importer)
    (handle : Nat) (session : Session) :
    runFile host importer handle path session = runModule importer handle statements session := by
  rw [runFile, bind_apply, hread]
  change (((MonadLift.monadLift (statementsOf host.platform.codecs file) :
    Loading (List Statement)) >>= fun statements => runModule importer handle statements) session) = _
  rw [bind_apply, hstatements]
  rfl

/-- A file without text has the statements that it is said to have, if they all make sense. -/
theorem statementsOf_empty (codecs : CodecRegistry) {statements : List Statement}
    (h : statements.any Statement.isMalformed = false) :
    statementsOf codecs ⟨[], none, some statements⟩ = .ok statements := by
  rw [statementsOf, SourceText.ofBytes_nil]
  simp [SourceFile.parseProblem, h]

variable {definition : ClassDefinition} {script : CheckScript}
  (hdefines : DefinesChecker definition script)

include hdefines

/-- The name of the checker, where it is imported, stands for it as a base. -/
theorem baseOf_of_lookup {handle : Nat} {session : Session}
    (hlookup : (session.module handle).lookup Session.checkerName
      = some (.classObject PluginClass.checker)) :
    baseOf handle definition session = (.ok PluginClass.checker, session) := by
  have hobject : objectOf handle Session.checkerName session
      = (.ok (.classObject PluginClass.checker), session) := by
    have hmodule : moduleOf handle session = (.ok (session.module handle), session) := rfl
    rw [objectOf, bind_apply, hmodule]
    dsimp only
    rw [hlookup]
    rfl
  have hdotted : dottedObject handle Session.checkerName session
      = (.ok (.classObject PluginClass.checker), session) := by
    have hnames : (Text.splitAt '.' Session.checkerName.toList).map String.ofList
        = [Session.checkerName] := by decide +kernel
    rw [dottedObject, hnames]
    dsimp only
    rw [bind_apply, hobject]
    rfl
  rw [baseOf, hdefines.base]
  dsimp only
  -- The checker is no class that forbids to be refined.
  have hfinal : finalNames.contains PluginClass.checker.name = false := by decide +kernel
  rw [bind_apply, hdotted]
  dsimp only
  rw [hfinal, Bool.and_false]
  rfl

/-- A definition gives the class the next number and binds it. -/
theorem runStatement_defineClass (importer : Importer) {handle : Nat} {session : Session}
    (hlookup : (session.module handle).lookup Session.checkerName
      = some (.classObject PluginClass.checker)) :
    runStatement importer handle (.defineClass definition) session
      = (.ok (), { session with nextClass := session.nextClass + 1 }.change handle fun module =>
          module.bind definition.name (.classObject (.define session.nextClass
            ((session.module handle).ownName?.getD (.text PluginClass.commonOwner)) .checker
            definition))) := by
  rw [runStatement, bind_apply, baseOf_of_lookup hdefines hlookup]
  rfl

/-- A module that defines one checker and exports it binds both its exports and the class. -/
theorem runModule_exporting (importer : Importer) {handle : Nat} {session : Session}
    (hhandle : handle < session.modules.length) :
    ∃ owner after, runModule importer handle (exporting definition) session = (.ok (), after)
      ∧ after.modules.length = session.modules.length
      ∧ (after.module handle).lookup PluginModule.exportsKey
          = some (.value (.list [.text definition.name]))
      ∧ (after.module handle).lookup definition.name
          = some (.classObject (.define session.nextClass owner .checker definition)) := by
  have hexecutes : (exporting definition).any preventsExecution = false := by
    simp [exporting, preventsExecution, Statement.isMalformed, hdefines.init]
  let started := session.change handle fun module =>
    module.bind Session.checkerName (.classObject PluginClass.checker)
  let exported := started.change handle fun module =>
    module.bind PluginModule.exportsKey (.value (.list [.text definition.name]))
  have hstarts : runModule importer handle (exporting definition) session
      = runStatements importer handle (exporting definition) started := by
    rw [runModule, hexecutes]
    rfl
  have hexports : runStatements importer handle (exporting definition) started
      = runStatements importer handle [.defineClass definition] exported := by
    rfl
  have hlength : started.modules.length = session.modules.length := Session.length_change _ _ _
  have hchecker : (exported.module handle).lookup Session.checkerName
      = some (.classObject PluginClass.checker) := by
    rw [Session.module_change _ (hlength ▸ hhandle), PluginModule.lookup_bind_of_ne _ (by decide),
      Session.module_change _ hhandle, PluginModule.lookup_bind_self]
  -- The definition is executed last, so that nothing takes its name again.
  let owner := (exported.module handle).ownName?.getD (.text PluginClass.commonOwner)
  let type := PluginClass.define session.nextClass owner .checker definition
  let numbered : Session := { exported with nextClass := exported.nextClass + 1 }
  have hdefined : runStatements importer handle [.defineClass definition] exported
      = (.ok (), numbered.change handle fun module =>
          module.bind definition.name (.classObject type)) := by
    rw [runStatements, bind_apply, runStatement_defineClass hdefines importer hchecker]
    rfl
  have hnumbered : handle < numbered.modules.length := by
    rw [Session.length_change, Session.length_change]
    exact hhandle
  refine ⟨owner, _, hstarts.trans (hexports.trans hdefined), ?_, ?_, ?_⟩
  · rw [Session.length_change, Session.length_change, Session.length_change]
  · rw [Session.module_change _ hnumbered, PluginModule.lookup_bind_of_ne _ hdefines.name.symm]
    change (exported.module handle).lookup PluginModule.exportsKey = _
    rw [Session.module_change _ (hlength ▸ hhandle), PluginModule.lookup_bind_self]
  · rw [Session.module_change _ hnumbered, PluginModule.lookup_bind_self]

/-! ## Making the checker -/

/-- The definition has a script. -/
theorem isSome_script : definition.script.isSome = true := by
  rw [hdefines.script]
  rfl

omit hdefines in
/-- A module that exports one concrete checker has that class and no other. -/
theorem checkerClasses_of_exports {module : PluginModule} {type : PluginClass} {name : String}
    (hexports : module.lookup PluginModule.exportsKey = some (.value (.list [.text name])))
    (hlookup : module.lookup name = some (.classObject type))
    (hconcrete : type.isConcreteChecker = true) : Registry.checkerClasses module = .ok [type] := by
  rw [Registry.checkerClasses, Registry.exportedObjects, hexports]
  simp only [Registry.listedItems, Registry.itemsOf?, Fault.itemsOf?, Except.bind,
    Registry.listedObjects, hlookup, Except.map, Option.toList_some, List.append_nil,
    List.filterMap_cons, List.filterMap_nil, PluginObject.concreteChecker?, hconcrete, if_true,
    Registry.distinct, List.filter_nil]

/-- A class without a constructor of its own is made without arguments. -/
theorem makeCheckers_define (number : Nat) (owner : Value) (session : Session) :
    Registry.makeCheckers [.define number owner .checker definition] session
      = (.ok [.define number owner .checker definition], session) := by
  let type := PluginClass.define number owner .checker definition
  have hinit : type.init = none := by
    change PluginClass.initOf .checker definition = none
    rw [PluginClass.initOf, hdefines.init, hdefines.methods]
    rfl
  have hsignature : type.signature = none := by
    change (definition.signature <|> none) = none
    rw [hdefines.signature]
    rfl
  have hinstantiable : type.IsInstantiable :=
    { unasked := by
        rw [PluginClass.requiredParameters, PluginClass.shownSignature, hsignature, hinit]
        rfl
      callable :=
        ⟨PluginClass.openMethodsOf_checker_eq_nil (isSome_script hdefines) hdefines.abstractMethods,
          by simp [hinit]⟩
      quiet := by rw [PluginClass.raised?, hinit]; rfl }
  -- Without a constructor there is nothing to log.
  have hsession : session.constructing [type] = session := by
    simp [Session.constructing, hinit]
  have hmake := Registry.makeCheckers_of_isInstantiable
    (List.forall_mem_singleton.mpr hinstantiable) session
  rwa [hsession] at hmake

/-- A file that defines one class of checkers and exports it provides that class, and its checkers
follow the script of the definition. -/
theorem loadCheckers_of_exports {host : Host SourceFile} {reference name : String} {path : Path}
    {search : Option (List Path)} {file : SourceFile} {session : Session}
    (hloader : loaderFor host reference = .ok .file)
    (hlocate : locatePlugin host reference = .ok (name, ⟨path, search⟩))
    (hread : host.readFile path = .ok file)
    (hstatements : statementsOf host.platform.codecs file = .ok (exporting definition))
    (hsession : session.nextClass ≠ PluginClass.givenNumber) (installed : Installed) :
    ∃ owner, (loadCheckers host installed false reference session).1
      = .ok [.define session.nextClass owner .checker definition] := by
  let added := (session.add (.ofFile name search)).register name session.modules.length
  have hadded : session.modules.length < added.modules.length := by
    simp [added, Session.register, Session.add]
  obtain ⟨owner, after, hruns, -, hexports, hlookup⟩ :=
    runModule_exporting hdefines (importName host) hadded
  have hfile : runFile host (importName host) session.modules.length path added
      = (.ok (), after) :=
    (runFile_of_statements hread hstatements _ _ _).trans hruns
  -- The file is executed under the name of the plugin, and no fault takes it back.
  have hexecuted : executeRegistered name session.modules.length
      (runFile host (importName host) session.modules.length path)
      (session.add (.ofFile name search)) = (.ok (), after) := by
    rw [executeRegistered, bind_apply]
    exact tryCatch_of_ok hfile _
  have hloaded : loadFile host reference session = (.ok session.modules.length, after) := by
    rw [loadFile, bind_apply, hlocate]
    change ((addModule (.ofFile name search) >>= fun handle => _ : Loading Nat) session) = _
    rw [bind_apply]
    change ((executeRegistered name session.modules.length _ >>= fun _ => pure _ : Loading Nat)
      (session.add (.ofFile name search))) = _
    rw [bind_apply, hexecuted]
    rfl
  have hload : loadPlugin host reference session = (.ok session.modules.length, after) := by
    rw [loadPlugin, hloader]
    dsimp only
    rw [told, hloaded]
  have hclasses := checkerClasses_of_exports hexports hlookup
    (PluginClass.isConcreteChecker_define (isSome_script hdefines) hdefines.abstractMethods
      hsession owner)
  have hdiscover : Registry.discover session.modules.length after
      = (.ok [.define session.nextClass owner .checker definition], after) := by
    have hget : (get : Providing Session) after = (.ok after, after) := rfl
    rw [Registry.discover, bind_apply, hget]
    dsimp only
    rw [hclasses]
    exact makeCheckers_define hdefines _ _ _
  refine ⟨owner, ?_⟩
  rw [loadCheckers, bind_apply, hload]
  exact congrArg Prod.fst hdiscover

end Plugin

end WorkspaceLint
