import WorkspaceLint.Proofs.Plugin.Ledger
import WorkspaceLint.Proofs.Plugin.Registration

/-!
# The sessions that plugins lead to

Plugins are loaded from files, by name, or as what an entry point leads to, and checkers are made of
their classes, in any order. Each of these keeps to the ledger of the classes that were defined, so
every session that can be reached agrees with one.

* `yields_importWithin` — imports, from the execution of the files that they find.
* `Reachable`, `exists_ledger_of_reachable` — the sessions, and that there is a ledger for each.
* `eq_of_number_eq`, `distinct_of_bound` — what a session gets from its ledger.
-/

namespace WorkspaceLint

namespace Plugin

variable {ε α : Type} {ledger : Ledger}

/-! ## Making modules -/

section

variable {name : String} {search : Option (List Path)} {binding : String × PluginObject}

/-- What every module binds before it is executed is no class. -/
theorem isGiven_of_mem_ownBindings (h : binding ∈ PluginModule.ownBindings name) :
    IsGiven binding.2 := by
  rcases List.mem_cons.mp h with rfl | h
  · rintro _ ⟨⟩
  · obtain ⟨key, -, rfl⟩ := List.mem_map.mp h
    rintro _ ⟨⟩

/-- What the module of a file binds from the start was there before any plugin. -/
theorem isGiven_of_mem_ofFile (h : binding ∈ (PluginModule.ofFile name search).bindings) :
    IsGiven binding.2 := by
  rcases List.mem_append.mp h with h | h
  · exact isGiven_of_mem_ownBindings h
  · obtain ⟨key, -, rfl⟩ := List.mem_map.mp h
    rintro _ ⟨⟩

/-- So is what a package without a file binds from the start. -/
theorem isGiven_of_mem_ofDirectories {paths : List Path}
    (h : binding ∈ (PluginModule.ofDirectories name paths).bindings) : IsGiven binding.2 := by
  rcases List.mem_append.mp h with h | h
  · exact isGiven_of_mem_ownBindings h
  · rcases List.mem_pair.mp h with rfl | rfl <;> rintro _ ⟨⟩

/-- The names that a module binds by itself differ. -/
theorem distinct_ownBindings (name : String) :
    ((PluginModule.ownBindings name).map Prod.fst).Nodup := by
  have hkeys : (PluginModule.ownBindings name).map Prod.fst
      = ["__name__", "__doc__", "__package__", "__loader__", "__spec__"] := rfl
  rw [hkeys]
  decide

/-- The names that the module of a file binds from the start differ. -/
theorem distinct_ofFile (name : String) (search : Option (List Path)) :
    ((PluginModule.ofFile name search).bindings.map Prod.fst).Nodup := by
  have hkeys : (PluginModule.ofFile name search).bindings.map Prod.fst
      = ["__name__", "__doc__", "__package__", "__loader__", "__spec__", "__file__", "__cached__"]
        ++ if search.isSome then ["__path__"] else [] := by
    cases search <;> rfl
  rw [hkeys]
  cases search with
  | none => decide
  | some paths =>
    rw [Option.isSome_some, if_pos rfl]
    decide

end

/-- What a given module binds was there before any plugin. -/
theorem isGiven_of_mem_toModule {module : GivenModule} {binding : String × PluginObject}
    (h : binding ∈ module.toModule.bindings) : IsGiven binding.2 := by
  rcases List.mem_append.mp h with h | h
  · exact isGiven_of_mem_ofFile h
  · exact isGiven_of_mem_bindings h

/-- Adding a module with nothing in it but what was there keeps the ledger, with the module
added. -/
theorem yields_addRegistered {module : PluginModule}
    (hgiven : ∀ binding ∈ module.bindings, IsGiven binding.2) :
    Yields ledgers ledger (addRegistered module) Anything :=
  fun _ hrecords => ⟨ledger, .refl ledger, (hrecords.add hgiven).congr rfl rfl, fun _ _ => trivial⟩

/-- A module that is made to be executed has a handle that the ledger knows from then on. -/
theorem yields_addModule {module : PluginModule}
    (hgiven : ∀ binding ∈ module.bindings, IsGiven binding.2)
    (hdistinct : (module.bindings.map Prod.fst).Nodup) :
    Yields ledgers ledger (addModule module) fun later handle => handle ∈ later.executed := by
  intro session hrecords
  obtain ⟨hgrows, hadded⟩ := hrecords.addExecuted hgiven hdistinct
  refine ⟨_, hgrows, hadded, ?_⟩
  rintro _ ⟨⟩
  exact List.mem_cons_self

/-- Executing a registered module keeps the ledger if the execution does. -/
theorem yields_executeRegistered {execution : Loading Unit} (name : String) (handle : Nat)
    (hexecution : ∀ later, ledger.Grows later → Yields ledgers later execution Anything) :
    Yields ledgers ledger (executeRegistered name handle execution) Anything := by
  refine yields_bind (yields_modify fun _ hrecords => hrecords.congr rfl rfl)
    fun later hgrows _ _ => yields_tryCatch (hexecution later hgrows) fun last _ fault => ?_
  exact yields_bind (yields_modify fun _ hrecords => hrecords.congr rfl rfl)
    fun _ _ _ _ => yields_throw fault

section

variable {importer : Importer}
  (himporter : ∀ (ledger : Ledger) (name : String), Yields ledgers ledger (importer name) Anything)

include himporter

/-- A file is executed as the module that was made for it. -/
theorem yields_makeAndExecute (host : Host SourceFile) (name : String) (search : Option (List Path))
    (path : Path) :
    Yields ledgers ledger (do
      let handle ← addModule (.ofFile name search)
      executeRegistered name handle (runFile host importer handle path)
      return handle) Anything := by
  have hadded : Yields ledgers ledger (addModule (.ofFile name search))
      fun later handle => handle ∈ later.executed :=
    yields_addModule (fun _ => isGiven_of_mem_ofFile) (distinct_ofFile name search)
  refine yields_bind hadded fun later _ handle hhandle => ?_
  refine yields_bind (yields_executeRegistered name handle fun last hlast => ?_)
    fun _ _ _ _ => yields_pure trivial
  exact yields_runFile himporter host (hlast.executed handle hhandle) path

/-- Loading one module keeps the ledger if the importer does. -/
theorem yields_loadModule (host : Host SourceFile) (parent : Option Nat) (name tail : String) :
    Yields ledgers ledger (loadModule host importer parent name tail) Anything := by
  have hplace (later : Ledger) : Yields ledgers later (placeOf host parent name tail) Anything := by
    intro session hrecords
    refine ⟨later, .refl later, ?_, fun _ _ => trivial⟩
    rcases placeOf_apply host parent name tail session with ⟨fault, h⟩ | ⟨place, h, -⟩
    · rwa [h]
    · rwa [h]
  have hmake (later : Ledger) (place : ModulePlace) :
      Yields ledgers later (makeAt host importer name place) Anything := by
    cases place with
    | given module => exact yields_addRegistered fun _ => isGiven_of_mem_toModule
    | directories paths => exact yields_addRegistered fun _ => isGiven_of_mem_ofDirectories
    | file path search => exact yields_makeAndExecute himporter host name search path
  have hbind (later : Ledger) (handle : Nat) :
      Yields ledgers later (bindWithin parent tail handle) Anything := by
    cases parent with
    | none => exact yields_pure trivial
    | some package =>
      -- A package that is not executed can get its submodule for a name all the same.
      have hmodule := isGiven_module handle
      have hname : Yields ledgers later (bindName package tail (.module handle)) Anything :=
        yields_modify fun _ hrecords => hrecords.bind (hmodule.holds later) (.inr hmodule) tail
      exact yields_bind hname fun _ _ _ _ => yields_pure trivial
  rw [loadModule_eq]
  exact yields_bind (hplace ledger) fun later _ place _ =>
    yields_bind (hmake later place) fun last _ handle _ => hbind last handle

/-- So does importing the parts of a name, by induction on them. -/
theorem yields_importParts (host : Host SourceFile) (parts : List String) :
    Yields ledgers ledger (importParts host importer parts) Anything := by
  induction parts generalizing ledger with
  | nil => exact yields_throw _
  | cons tail parents ih =>
    refine yields_bind (yields_loaded? _) fun later _ loaded _ => ?_
    split
    · exact yields_pure trivial
    · split
      · exact yields_loadModule himporter host none _ tail
      · refine yields_bind ih fun last _ parent _ => ?_
        refine yields_bind (yields_loaded? _) fun _ _ loaded _ => ?_
        split
        · exact yields_pure trivial
        · exact yields_loadModule himporter host (some parent) _ tail

end

/-- Imports keep to the ledger, however deep modules import one another. -/
theorem yields_importWithin (host : Host SourceFile) (depth : Nat) (ledger : Ledger)
    (name : String) : Yields ledgers ledger (importWithin host depth name) Anything := by
  induction depth generalizing ledger name with
  | zero => exact yields_throw _
  | succ depth ih => exact yields_importParts ih host (reversedParts name)

/-- Importing a name keeps the ledger, by induction on how deep imports may be nested. -/
theorem yields_importName (host : Host SourceFile) (ledger : Ledger) (name : String) :
    Yields ledgers ledger (importName host name) Anything :=
  yields_importWithin host (importDepth host) ledger name

/-! ## Loading plugins -/

/-- Loading a plugin from a file keeps the ledger. -/
theorem yields_loadFile (host : Host SourceFile) (reference : String) :
    Yields ledgers ledger (loadFile host reference) Anything := by
  refine yields_bind (yields_ofExcept _) fun _ _ located _ => ?_
  exact yields_makeAndExecute (yields_importName host) host located.1 located.2.search
    located.2.location

/-- Loading a plugin by its name keeps the ledger. -/
theorem yields_loadByName (host : Host SourceFile) (reference : String) :
    Yields ledgers ledger (loadByName host reference) Anything := by
  unfold loadByName
  split
  · exact yields_throw _
  · exact yields_importName host ledger reference

/-- Telling the faults of work changes nothing in what it keeps. -/
theorem yields_told {work : Loading α} (artifact : String)
    (h : Yields ledgers ledger work Anything) :
    Yields ledgers ledger (told artifact work) Anything := by
  intro session hrecords
  obtain ⟨later, hgrows, hlater, -⟩ := h session hrecords
  refine ⟨later, hgrows, ?_, fun _ _ => trivial⟩
  rw [told]
  generalize work session = result at hlater
  obtain ⟨result, after⟩ := result
  cases result <;> exact hlater

/-- Loading a plugin keeps the ledger, whether from a path or by its name. -/
theorem yields_loadPlugin (host : Host SourceFile) (reference : String) :
    Yields ledgers ledger (loadPlugin host reference) Anything := by
  unfold loadPlugin
  split
  · exact yields_throw _
  · exact yields_told reference (yields_loadFile host reference)
  · exact yields_told reference (yields_loadByName host reference)

/-- A module that is made of statements. -/
theorem yields_makeModule (host : Host SourceFile) (name : String) (statements : List Statement) :
    Yields ledgers ledger (makeModule host name statements) Anything := by
  refine yields_bind (yields_addModule (fun _ => isGiven_of_mem_ownBindings)
    (distinct_ownBindings name)) fun later _ handle hhandle => ?_
  exact yields_bind (yields_runModule (yields_importName host) hhandle statements)
    fun _ _ _ _ => yields_pure trivial

/-- Loading the target of an entry point keeps the ledger. -/
theorem yields_loadTarget (host : Host SourceFile) (target : EntryTarget) :
    Yields ledgers ledger (loadTarget host target) Anything := by
  unfold loadTarget
  split
  · exact yields_bind (yields_makeModule host _ _) fun _ _ _ _ => yields_pure trivial
  · refine yields_bind (yields_makeModule host _ _) fun _ _ handle _ => ?_
    refine yields_bind (yields_moduleOf handle) fun _ _ _ _ => ?_
    split
    · exact yields_pure trivial
    · exact yields_throw _
  · exact yields_pure trivial
  · exact yields_throw _

/-! ## Making checkers -/

/-- Calling what a checker is made of keeps the ledger. -/
theorem yields_makeOf (object : PluginObject) :
    Yields ledgers ledger (Registry.makeOf object) Anything := by
  intro session hrecords
  obtain ⟨later, hgrows, hlater, -⟩ := yields_callObject object session hrecords
  rw [Registry.makeOf]
  split
  · refine ⟨later, hgrows, ?_, fun _ _ => trivial⟩
    generalize callObject object session = result at hlater
    obtain ⟨result, after⟩ := result
    cases result with
    | ok made => exact hlater
    | error fault =>
      dsimp only
      split <;> exact hlater
  · exact ⟨ledger, .refl ledger, hrecords, fun _ _ => trivial⟩

/-- Making checkers of classes keeps the ledger, by induction on them. -/
theorem yields_makeCheckers (types : List PluginClass) :
    Yields ledgers ledger (Registry.makeCheckers types) Anything := by
  induction types generalizing ledger with
  | nil => exact yields_pure trivial
  | cons type types ih =>
    have hdiscard : Yields ledgers ledger
        (discard (Registry.makeOf (.classObject type)) : Providing Unit) Anything :=
      yields_bind (yields_makeOf _) fun _ _ _ _ => yields_pure trivial
    have hmake : Yields ledgers ledger (Registry.makeChecker type) Anything :=
      yields_bind hdiscard fun _ _ _ _ => yields_pure trivial
    exact yields_bind hmake fun _ _ _ _ => yields_bind ih fun _ _ _ _ => yields_pure trivial

/-- Reading the session changes nothing. -/
theorem yields_get : Yields ledgers ledger (get : Providing Session) Anything :=
  fun _ hrecords => ⟨ledger, .refl ledger, hrecords, fun _ _ => trivial⟩

/-- Discovery in a module keeps the ledger. -/
theorem yields_discover (handle : Nat) :
    Yields ledgers ledger (Registry.discover handle) Anything := by
  refine yields_bind yields_get fun _ _ session _ => ?_
  split
  · exact yields_throw _
  · exact yields_makeCheckers _

/-- Discovery in several sources keeps the ledger. -/
theorem yields_discoverMany (sources : List PluginObject) :
    Yields ledgers ledger (Registry.discoverMany sources) Anything := by
  refine yields_bind yields_get fun _ _ session _ => ?_
  split
  · exact yields_throw _
  · exact yields_makeCheckers _

/-! ## Sessions that plugins lead to -/

/-- No plugin was loaded yet: all that is bound was there before, and no number was given out. -/
structure IsStart (session : Session) : Prop where
  nextClass : session.nextClass = PluginClass.givenNumber + 1
  given : ∀ handle, ∀ binding ∈ (session.module handle).bindings, IsGiven binding.2

/-- The sessions that plugins lead to: by loading them from files, by name, or as what an entry
point leads to, and by making checkers of them, in any order and as often as one likes, from
whatever files there are at the time, and whether or not it fails. -/
inductive Reachable : Session → Prop
  | start {session : Session} (h : IsStart session) : Reachable session
  | loadPlugin {session : Session} (h : Reachable session) (host : Host SourceFile)
      (reference : String) : Reachable (loadPlugin host reference session).2
  | loadTarget {session : Session} (h : Reachable session) (host : Host SourceFile)
      (target : EntryTarget) : Reachable (loadTarget host target session).2
  | discover {session : Session} (h : Reachable session) (handle : Nat) :
      Reachable (Registry.discover handle session).2
  | discoverMany {session : Session} (h : Reachable session) (sources : List PluginObject) :
      Reachable (Registry.discoverMany sources session).2

/-- The session at the start of a program is one from which sessions are reached. -/
theorem isStart_initial : IsStart Session.initial := by
  refine ⟨rfl, fun handle binding hmem => ?_⟩
  have hmodules : Session.initial.modules
      = (GivenModule.all.filter GivenModule.isLoaded).map GivenModule.toModule := by
    simp only [Session.initial]
  rw [Session.module, hmodules] at hmem
  cases hfound : ((GivenModule.all.filter GivenModule.isLoaded).map
      GivenModule.toModule)[handle]? with
  | none =>
    rw [hfound] at hmem
    exact absurd hmem List.not_mem_nil
  | some module =>
    rw [hfound] at hmem
    obtain ⟨given, -, rfl⟩ := List.mem_map.mp (List.mem_of_getElem? hfound)
    exact isGiven_of_mem_toModule hmem

/-- At the start the only class with a number of its own is that of all checkers. -/
theorem IsStart.records {session : Session} (h : IsStart session) :
    (⟨[PluginClass.checker], []⟩ : Ledger).Records session where
  count := h.nextClass.symm
  positive := h.nextClass ▸ Nat.lt_succ_self _
  holds handle binding hmem := (h.given handle binding hmem).holds _
  inside _ hmem := absurd hmem List.not_mem_nil
  distinct _ hmem := absurd hmem List.not_mem_nil
  given handle _ := h.given handle

/-- Every session that plugins lead to agrees with a ledger. -/
theorem exists_ledger_of_reachable {session : Session} (h : Reachable session) :
    ∃ ledger : Ledger, ledger.Records session := by
  have hstep {ε α : Type} {work : ExceptT ε (StateM Session) α} {session : Session}
      (hwork : ∀ ledger, Yields ledgers ledger work Anything)
      (h : ∃ ledger : Ledger, ledger.Records session) :
      ∃ ledger : Ledger, ledger.Records (work session).2 := by
    obtain ⟨ledger, hrecords⟩ := h
    obtain ⟨later, -, hlater, -⟩ := hwork ledger session hrecords
    exact ⟨later, hlater⟩
  induction h with
  | start h => exact ⟨_, h.records⟩
  | loadPlugin _ host reference ih => exact hstep (fun _ => yields_loadPlugin host reference) ih
  | loadTarget _ host target ih => exact hstep (fun _ => yields_loadTarget host target) ih
  | discover _ handle ih => exact hstep (fun _ => yields_discover handle) ih
  | discoverMany _ sources ih => exact hstep (fun _ => yields_discoverMany sources) ih

/-! ## What this means for a session -/

section

variable {session : Session} (h : Reachable session)

include h

/-- Of the classes that modules bind, two with one number are the same, unless they were there
before any plugin. -/
theorem eq_of_number_eq {handle other : Nat} {binding binding' : String × PluginObject}
    (hmem : binding ∈ (session.module handle).bindings)
    (hmem' : binding' ∈ (session.module other).bindings) {type type' : PluginClass}
    (htype : binding.2 = .classObject type) (htype' : binding'.2 = .classObject type')
    (hnumber : type.number ≠ PluginClass.givenNumber) (heq : type.number = type'.number) :
    type = type' := by
  obtain ⟨ledger, hrecords⟩ := exists_ledger_of_reachable h
  have hplace := (hrecords.holds handle binding hmem type htype).2.resolve_left hnumber
  have hplace' := (hrecords.holds other binding' hmem' type' htype').2.resolve_left (heq ▸ hnumber)
  rw [← heq, hplace] at hplace'
  exact Option.some.inj hplace'

/-- Every class that a module binds was made, so it is marked as one of checkers exactly if it comes
down from the class of all checkers. -/
theorem isMade_of_bound {handle : Nat} {binding : String × PluginObject}
    (hmem : binding ∈ (session.module handle).bindings) {type : PluginClass}
    (htype : binding.2 = .classObject type) : type.IsMade := by
  obtain ⟨ledger, hrecords⟩ := exists_ledger_of_reachable h
  exact (hrecords.holds handle binding hmem type htype).1

/-- A module that binds a class which a plugin defined binds each name once. -/
theorem distinct_of_bound {handle : Nat} {binding : String × PluginObject}
    (hmem : binding ∈ (session.module handle).bindings) {type : PluginClass}
    (htype : binding.2 = .classObject type) (hnumber : type.number ≠ PluginClass.givenNumber) :
    ((session.module handle).bindings.map Prod.fst).Nodup := by
  obtain ⟨ledger, hrecords⟩ := exists_ledger_of_reachable h
  by_cases hhandle : handle ∈ ledger.executed
  · exact hrecords.distinct handle hhandle
  · exact absurd (hrecords.given handle hhandle binding hmem type htype).2 hnumber

end

end Plugin

end WorkspaceLint
