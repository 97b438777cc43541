import WorkspaceLint.Proofs.Plugin.Frame
import WorkspaceLint.Proofs.Plugin.Import

/-!
# Making and registering a module

A module is looked for, which leaves the session as it is, then made and registered under its name,
and only then executed; when that fails, its name is free again, `settle`. Modules that are
imported, `loadModule_apply`, and plugins that are loaded from a file, `loadFile_of_located`, go the
same way.
-/

namespace WorkspaceLint

/-! ## The table of a session -/

namespace Session

/-- A name that is taken out of a table is not found in it. -/
theorem lookup_filter_self (name : String) (entries : List (String × Nat)) :
    (entries.filter fun entry => entry.1 != name).lookup name = none := by
  refine List.lookup_eq_none_iff.mpr fun entry hentry => ?_
  exact bne_iff_ne.mpr (bne_iff_ne.mp (List.mem_filter.mp hentry).2).symm

/-- Every other name is found as before. -/
theorem lookup_filter_of_ne {name other : String} (h : other ≠ name)
    (entries : List (String × Nat)) :
    (entries.filter fun entry => entry.1 != name).lookup other = entries.lookup other := by
  induction entries with
  | nil => rfl
  | cons entry entries ih =>
    obtain ⟨key, handle⟩ := entry
    by_cases hkey : key = name
    · rw [List.filter_cons_of_neg (by simp [hkey]), ih, List.lookup_cons, hkey,
        beq_false_of_ne h]
    · rw [List.filter_cons_of_pos (by simp [hkey]), List.lookup_cons, List.lookup_cons, ih]

variable (session : Session) (name : String) (handle : Nat)

/-- A name that is registered stands for its module. -/
theorem handle?_register_self : (session.register name handle).handle? name = some handle := by
  rw [handle?, register, List.lookup_append, lookup_filter_self]
  simp

/-- A name that is taken back stands for none. -/
theorem handle?_unregister_self : (session.unregister name).handle? name = none :=
  lookup_filter_self name session.registered

variable {name} {other : String} (h : other ≠ name)

include h

/-- Every other name stands for what it did when a name is registered. -/
theorem handle?_register_of_ne :
    (session.register name handle).handle? other = session.handle? other := by
  rw [handle?, register, List.lookup_append, lookup_filter_of_ne h, List.lookup_cons,
    beq_false_of_ne h]
  simp [handle?]

/-- Every other name stands for what it did when a name is taken back. -/
theorem handle?_unregister_of_ne :
    (session.unregister name).handle? other = session.handle? other :=
  lookup_filter_of_ne h session.registered

end Session

namespace Plugin

variable {host : Host SourceFile} {session : Session}

/-! ## Places -/

/-- A directory has files and directories for a name, but no given module. -/
theorem placeIn_ne_given (directory : Path) (tail : String) (module : GivenModule) :
    placeIn host directory tail ≠ some (.given module) := by
  unfold placeIn
  dsimp only
  split
  · simp
  · split
    · simp
    · split <;> simp

/-- Places put together are a given module only if one of them is. -/
theorem merge_ne_given {place further : Option ModulePlace} {module : GivenModule}
    (h : place ≠ some (.given module)) (h' : further ≠ some (.given module)) :
    Option.merge ModulePlace.merge place further ≠ some (.given module) := by
  cases place with
  | none => cases further <;> simp_all [Option.merge]
  | some place =>
    cases further with
    | none => simpa [Option.merge] using h
    | some further =>
      cases place <;> cases further <;> simp_all [Option.merge, ModulePlace.merge]

/-- Directories have no given module for a name. -/
theorem placeAmong_ne_given (tail : String) (directories : List Path) (module : GivenModule) :
    placeAmong host tail directories ≠ some (.given module) := by
  rw [placeAmong]
  induction directories with
  | nil => simp
  | cons directory directories ih =>
    exact merge_ne_given (placeIn_ne_given directory tail module) ih

/-- The given module that is found under a name has that name. -/
theorem name_of_find? {name : String} {module : GivenModule}
    (h : (GivenModule.find? name).map ModulePlace.given = some (.given module)) :
    module.name = name := by
  obtain ⟨found, hfound, heq⟩ := Option.map_eq_some_iff.mp h
  obtain rfl : found = module := ModulePlace.given.inj heq
  rw [GivenModule.find?] at hfound
  simpa using List.find?_some hfound

/-- The given module at the top that a name leads to has that name. -/
theorem name_of_topPlace {name : String} {module : GivenModule}
    (h : topPlace host name = some (.given module)) : module.name = name := by
  by_contra hname
  have hfind := mt name_of_find? hname
  have hbuiltIn : (GivenModule.findBuiltIn? name).map ModulePlace.given ≠ some (.given module) := by
    rw [GivenModule.findBuiltIn?]
    split
    · exact hfind
    · simp
  -- The files of the tree are no given modules, so only the tables of these are left.
  have hprovided : placeAmong host name [⟨.root, host.working⟩] ≠ some (.given module) :=
    placeAmong_ne_given name _ module
  have hmerged := merge_ne_given hprovided hfind
  rw [topPlace] at h
  generalize (GivenModule.findBuiltIn? name).map ModulePlace.given = builtIn at h hbuiltIn
  cases builtIn with
  | none => exact hmerged h
  | some place => exact hbuiltIn h

/-- The given module within a package that a name leads to has that name. -/
theorem name_of_placeWithin {directories : List Path} {name tail : String} {module : GivenModule}
    (h : placeWithin host directories name tail = some (.given module)) : module.name = name := by
  rw [placeWithin] at h
  split at h
  · exact name_of_find? h
  · exact absurd h (placeAmong_ne_given tail directories module)

/-- The search for a module leaves the session as it is. If there is one, the package that is looked
in is a package, and a given module has the name that is looked for. -/
theorem placeOf_apply (host : Host SourceFile) (parent : Option Nat) (name tail : String)
    (session : Session) :
    (∃ fault, placeOf host parent name tail session = (.error fault, session))
    ∨ ∃ place, placeOf host parent name tail session = (.ok place, session)
        ∧ (∀ module, place = .given module → module.name = name)
        ∧ ∀ handle, parent = some handle → (session.module handle).search ≠ none := by
  cases parent with
  | none =>
    cases hplace : topPlace host name with
    | none => exact .inl ⟨_, placeOf_top hplace⟩
    | some place =>
      refine .inr ⟨place, by rw [placeOf, hplace]; rfl, fun module heq => ?_, by simp⟩
      exact name_of_topPlace (heq ▸ hplace)
  | some package =>
    have hmodule : moduleOf package session = (.ok (session.module package), session) := rfl
    rw [placeOf, bind_apply, hmodule]
    dsimp only
    -- Only a package has directories in which submodules are searched.
    cases hsearch : (session.module package).search with
    | none => exact .inl ⟨_, rfl⟩
    | some directories =>
      dsimp only
      cases hplace : placeWithin host directories name tail with
      | none => exact .inl ⟨_, rfl⟩
      | some place =>
        refine .inr ⟨place, rfl, fun module heq => name_of_placeWithin (heq ▸ hplace), ?_⟩
        rintro handle ⟨⟩
        simp [hsearch]

/-! ## Making and registering -/

/-- A session in which a new module was made and registered under a name. -/
def started (session : Session) (name : String) (module : PluginModule) : Session :=
  (session.add module).register name session.modules.length

/-- What becomes of a registered module when its execution has ended. -/
def settle (name : String) (handle : Nat) : Except Fault Unit × Session → Except Fault Nat × Session
  | (.ok _, session) => (.ok handle, session)
  | (.error fault, session) => (.error fault, session.unregister name)

/-- What executing a registered module comes to: its name is taken back when the execution fails. -/
theorem executeRegistered_apply (name : String) (handle : Nat) (execution : Loading Unit)
    (session : Session) : executeRegistered name handle execution session
      = match execution (session.register name handle) with
        | (.ok _, after) => (.ok (), after)
        | (.error fault, after) => (.error fault, after.unregister name) := by
  rw [executeRegistered, bind_apply]
  change tryCatch execution _ (session.register name handle) = _
  rw [tryCatch_apply]
  obtain ⟨result, after⟩ := execution (session.register name handle)
  cases result <;> rfl

/-- What making and executing a module comes to, from the session in which it was started. -/
theorem makeAndExecute_apply (name : String) (module : PluginModule)
    (execution : Nat → Loading Unit) (session : Session) :
    (do
      let handle ← addModule module
      executeRegistered name handle (execution handle)
      return handle : Loading Nat) session
    = settle name session.modules.length
        (execution session.modules.length (started session name module)) := by
  have hadd : addModule module session = (.ok session.modules.length, session.add module) := rfl
  rw [bind_apply, hadd]
  dsimp only
  rw [bind_apply, executeRegistered_apply, ← started]
  obtain ⟨result, after⟩ := execution session.modules.length (started session name module)
  cases result <;> rfl

/-- Makes the module at a place. -/
def makeAt (host : Host SourceFile) (importer : Importer) (name : String) :
    ModulePlace → Loading Nat
  | .given module => addRegistered module.toModule
  | .directories paths => addRegistered (.ofDirectories name paths)
  | .file path search => do
    let handle ← addModule (.ofFile name search)
    executeRegistered name handle (runFile host importer handle path)
    return handle

/-- Binds a module in the package it lies in. -/
def bindWithin (parent : Option Nat) (tail : String) (handle : Nat) : Loading Nat := do
  match parent with
  | none => return handle
  | some package =>
    bindName package tail (.module handle)
    return handle

/-- Loading a module in three steps: finding its place, making it there, and binding it in its
package. -/
theorem loadModule_eq (host : Host SourceFile) (importer : Importer) (parent : Option Nat)
    (name tail : String) : loadModule host importer parent name tail
      = placeOf host parent name tail >>= fun place =>
          makeAt host importer name place >>= bindWithin parent tail := by
  rw [loadModule]
  congr 1
  funext place
  cases place with
  | given module => rfl
  | directories paths => rfl
  | file path search => simp only [makeAt, bind_assoc, pure_bind]; rfl

/-- A module is made and registered before it is executed, if there is something to execute. -/
theorem makeAt_apply (host : Host SourceFile) (importer : Importer) {name : String}
    {place : ModulePlace} (hname : ∀ module, place = .given module → module.name = name)
    (session : Session) :
    ∃ module execution, (execution = pure () ∨ ∃ path, execution
          = runFile host importer session.modules.length path)
      ∧ makeAt host importer name place session
        = settle name session.modules.length (execution (started session name module)) := by
  cases place with
  | given module =>
    refine ⟨module.toModule, pure (), .inl rfl, ?_⟩
    have hregistered : module.toModule.name = name := hname module rfl
    rw [← hregistered]
    rfl
  | directories paths => exact ⟨.ofDirectories name paths, pure (), .inl rfl, rfl⟩
  | file path search =>
    exact ⟨.ofFile name search, _, .inr ⟨path, rfl⟩, makeAndExecute_apply name _ _ session⟩

/-- Loading a module ends where it is looked for, or makes, registers and executes the module, which
is bound in its package once it was executed without a fault. -/
theorem loadModule_apply (host : Host SourceFile) (importer : Importer) (parent : Option Nat)
    (name tail : String) (session : Session) :
    (∃ fault, loadModule host importer parent name tail session = (.error fault, session))
    ∨ (∀ handle, parent = some handle → (session.module handle).search ≠ none)
      ∧ ∃ module execution, (execution = pure () ∨ ∃ path, execution
            = runFile host importer session.modules.length path)
        ∧ loadModule host importer parent name tail session
          = match settle name session.modules.length (execution (started session name module)) with
            | (.ok handle, mid) => bindWithin parent tail handle mid
            | (.error fault, mid) => (.error fault, mid) := by
  rw [loadModule_eq, bind_apply]
  rcases placeOf_apply host parent name tail session with
    ⟨fault, hplace⟩ | ⟨place, hplace, hname, hparent⟩
  · exact .inl ⟨fault, by rw [hplace]⟩
  · obtain ⟨module, execution, hexecution, hmake⟩ := makeAt_apply host importer hname session
    refine .inr ⟨hparent, module, execution, hexecution, ?_⟩
    rw [hplace]
    dsimp only
    rw [bind_apply, hmake]
    obtain ⟨result, mid⟩ :=
      settle name session.modules.length (execution (started session name module))
    cases result <;> rfl

/-- Binding a module in its package never fails and leaves the table as it is. -/
theorem bindWithin_apply (parent : Option Nat) (tail : String) (handle : Nat) (session : Session) :
    ∃ after, bindWithin parent tail handle session = (.ok handle, after)
      ∧ SameTable session after := by
  cases parent with
  | none => exact ⟨session, rfl, .refl session⟩
  | some package => exact ⟨_, rfl, sameTable_change session package fun _ => rfl⟩

/-! ### A module that was just registered -/

/-- Starting a module adds one. -/
theorem length_started (session : Session) (name : String) (module : PluginModule) :
    (started session name module).modules.length = session.modules.length + 1 := by
  simp [started, Session.register, Session.add]

/-- The module that was started is registered under its name. -/
theorem handle?_started_self (session : Session) (name : String) (module : PluginModule) :
    (started session name module).handle? name = some session.modules.length :=
  Session.handle?_register_self _ name _

/-- Every other name stands for what it did. -/
theorem handle?_started_of_ne {name other : String} (h : other ≠ name) (session : Session)
    (module : PluginModule) : (started session name module).handle? other = session.handle? other :=
  Session.handle?_register_of_ne _ _ h

/-- Every module that was there is what it was. -/
theorem module_started {handle : Nat} (h : handle < session.modules.length) (name : String)
    (module : PluginModule) :
    (started session name module).module handle = session.module handle := by
  simp [started, Session.register, Session.add, Session.module, List.getElem?_append_left h]

/-! ## Plugins from files -/

/-- A plugin that is located is started, executed, and settled. -/
theorem loadFile_of_located {reference name : String} {source : PluginSource}
    (h : locatePlugin host reference = .ok (name, source)) (session : Session) :
    loadFile host reference session = settle name session.modules.length
      (runFile host (importName host) session.modules.length source.location
        (started session name (.ofFile name source.search))) := by
  rw [loadFile, bind_apply, h]
  exact makeAndExecute_apply name _
    (fun handle => runFile host (importName host) handle source.location) session

/-- A plugin file that can be read is executed as a module that was just added. -/
theorem loadFile_of_statements {reference name : String} {source : PluginSource} {file : SourceFile}
    {statements : List Statement} (hlocate : locatePlugin host reference = .ok (name, source))
    (hread : host.readFile source.location = .ok file)
    (hstatements : statementsOf host.platform.codecs file = .ok statements) (session : Session) :
    loadFile host reference session = settle name session.modules.length
      (runModule (importName host) session.modules.length statements
        (started session name (.ofFile name source.search))) := by
  rw [loadFile_of_located hlocate, runFile_of_statements hread hstatements]

/-- A plugin that is not located leaves the session as it is. -/
theorem loadFile_of_not_located {reference : String} {fault : Fault}
    (h : locatePlugin host reference = .error fault) (session : Session) :
    loadFile host reference session = (.error fault, session) := by
  rw [loadFile, bind_apply, h]
  rfl

end Plugin

end WorkspaceLint
