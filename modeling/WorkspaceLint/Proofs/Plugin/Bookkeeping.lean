import WorkspaceLint.Proofs.Plugin.Definition

/-!
# Keeping books while modules are executed

Executing a module changes a session in few ways: it binds and unbinds names in the module, defines
classes, makes instances, and imports. So whatever is kept in books about a session can be kept
through a whole execution, provided that it can be kept through each of these.

## The method

`Bookkeeping` says what there is to check, once: how books grow, when a session agrees with them, of
which objects they know, and that they can be kept. Work `Yields` a property of its value if it
leads from sessions that agree with the books to sessions that agree with books that have grown.

* `yields_runStatement` — one statement, by the kind of the statement.
* `yields_runFile` — a whole file, from the imports in it.
-/

namespace WorkspaceLint.Plugin

/-! ## Objects -/

/-- An object that is no class which a plugin defined. -/
def IsGiven (object : PluginObject) : Prop :=
  ∀ type, object = .classObject type → type.IsMade ∧ type.number = PluginClass.givenNumber

/-- What is looked up is among the bindings. -/
theorem mem_of_lookup {bindings : List (String × PluginObject)} {name : String}
    {object : PluginObject} (h : bindings.lookup name = some object) :
    (name, object) ∈ bindings := by
  obtain ⟨before, after, rfl, -⟩ := List.lookup_eq_some_iff.mp h
  exact List.mem_append_right before List.mem_cons_self

/-- What a given module binds was there before any plugin. -/
theorem isGiven_of_mem_bindings {module : GivenModule} {binding : String × PluginObject}
    (h : binding ∈ module.bindings) : IsGiven binding.2 := by
  rcases List.mem_append.mp h with h | h
  · rcases List.mem_append.mp h with h | h
    · obtain ⟨provision, -, rfl⟩ := List.mem_map.mp h
      rintro _ ⟨⟩
      unfold GivenModule.classOf
      split
      · exact ⟨.checker, rfl⟩
      · exact ⟨.given _ _, rfl⟩
    · obtain ⟨provision, -, rfl⟩ := List.mem_map.mp h
      rintro _ ⟨⟩
  · obtain ⟨name, -, rfl⟩ := List.mem_map.mp h
    rintro _ ⟨⟩

/-- A member that several given modules share was there before any plugin. -/
theorem isGiven_of_commonObject? {name : String} {object : PluginObject}
    (h : GivenModule.commonObject? name = some object) : IsGiven object := by
  unfold GivenModule.commonObject? at h
  split at h
  · obtain rfl := Option.some.inj h
    rintro _ ⟨⟩
  · have hmem := mem_of_lookup h
    unfold GivenModule.commonBindings at hmem
    cases hfound : GivenModule.find? PluginClass.commonOwner with
    | none =>
      rw [hfound] at hmem
      cases hmem
    | some module =>
      rw [hfound] at hmem
      exact isGiven_of_mem_bindings hmem

/-! ## Books -/

/-- Books that are kept about sessions while modules are executed. They only grow; a session agrees
with a page of them; a page holds objects, those that were there before any plugin and all that a
session which agrees with it binds; and it knows the modules that are executed. Each way in which an
execution changes a session leads to a session that agrees with the page, or with a later one. -/
structure Bookkeeping (Page : Type) where
  Grows : Page → Page → Prop
  Records : Page → Session → Prop
  Holds : Page → PluginObject → Prop
  Executes : Page → Nat → Prop
  refl (page : Page) : Grows page page
  trans {page later last : Page} : Grows page later → Grows later last → Grows page last
  holds_grow {page later : Page} {object : PluginObject} :
    Grows page later → Holds page object → Holds later object
  executes_grow {page later : Page} {handle : Nat} :
    Grows page later → Executes page handle → Executes later handle
  holds_given (page : Page) {object : PluginObject} : IsGiven object → Holds page object
  holds_bound {page : Page} {session : Session} : Records page session →
    ∀ handle, ∀ binding ∈ (session.module handle).bindings, Holds page binding.2
  created {page : Page} {session : Session} : Records page session →
    ∀ names, Records page { session with created := names }
  bind {page : Page} {session : Session} {handle : Nat} {object : PluginObject} :
    Records page session → Executes page handle → Holds page object → ∀ name,
      Records page (session.change handle fun module => module.bind name object)
  unbind {page : Page} {session : Session} : Records page session → ∀ handle name,
    Records page (session.change handle fun module => module.unbind name)
  define {page : Page} {session : Session} {base : PluginClass} : Records page session →
    Holds page (.classObject base) → ∀ owner definition, ∃ later, Grows page later
      ∧ Holds later (.classObject (.define session.nextClass owner base definition))
      ∧ Records later { session with nextClass := session.nextClass + 1 }

variable {ε α β Page : Type} {book : Bookkeeping Page} {page : Page}

/-- Work leads from sessions that agree with a page to sessions that agree with a later one, also
when it fails, and its value has a property with respect to the later one. -/
def Yields (book : Bookkeeping Page) (page : Page) (work : ExceptT ε (StateM Session) α)
    (P : Page → α → Prop) : Prop :=
  ∀ session, book.Records page session → ∃ later, book.Grows page later
    ∧ book.Records later (work session).2 ∧ ∀ value, (work session).1 = .ok value → P later value

/-- Nothing is said of the value. -/
def Anything (_ : Page) (_ : α) : Prop := True

/-! ## Work put together -/

section

variable {P : Page → α → Prop}

/-- A value keeps to every page for which it has the property. -/
theorem yields_pure {value : α} (h : P page value) :
    Yields book page (pure value : ExceptT ε (StateM Session) α) P := by
  intro session hrecords
  refine ⟨page, book.refl page, hrecords, ?_⟩
  rintro _ ⟨⟩
  exact h

/-- A fault changes no session, so it keeps to every page. -/
theorem yields_throw (fault : ε) :
    Yields book page (throw fault : ExceptT ε (StateM Session) α) P := by
  intro session hrecords
  refine ⟨page, book.refl page, hrecords, ?_⟩
  rintro _ ⟨⟩

/-- What cannot change a session. -/
theorem yields_ofExcept (result : Except Fault α) :
    Yields book page (liftM result : Loading α) Anything := by
  cases result with
  | error fault => exact yields_throw fault
  | ok value => exact yields_pure trivial

/-- Work put together keeps the books if its parts do, the second part from any page that the first
one leads to. -/
theorem yields_bind {work : ExceptT ε (StateM Session) α}
    {next : α → ExceptT ε (StateM Session) β} {R : Page → β → Prop}
    (hwork : Yields book page work P) (hnext : ∀ later, book.Grows page later →
      ∀ value, P later value → Yields book later (next value) R) :
    Yields book page (work >>= next) R := by
  intro session hrecords
  rw [bind_apply]
  obtain ⟨later, hgrows, hlater, hvalue⟩ := hwork session hrecords
  generalize work session = result at hlater hvalue
  obtain ⟨result, after⟩ := result
  cases result with
  | error fault => exact ⟨later, hgrows, hlater, by rintro _ ⟨⟩⟩
  | ok value =>
    obtain ⟨last, hlast, hrest⟩ := hnext later hgrows value (hvalue value rfl) after hlater
    exact ⟨last, book.trans hgrows hlast, hrest⟩

/-- What catching a fault comes to, from the state that the fault left. -/
theorem tryCatch_apply (work : Loading α) (handler : Fault → Loading α) (session : Session) :
    (tryCatch work handler) session = match work session with
      | (.ok value, session) => (.ok value, session)
      | (.error fault, session) => handler fault session := by
  simp only [tryCatch, tryCatchThe, MonadExceptOf.tryCatch, ExceptT.tryCatch, ExceptT.mk, bind,
    StateT.bind]
  generalize work session = result
  obtain ⟨result, after⟩ := result
  cases result <;> rfl

/-- Catching a fault keeps the books if the handler does from any page that the work leads to. -/
theorem yields_tryCatch {work : Loading α} {handler : Fault → Loading α}
    (hwork : Yields book page work P)
    (hhandler : ∀ later, book.Grows page later → ∀ fault, Yields book later (handler fault) P) :
    Yields book page (tryCatch work handler) P := by
  intro session hrecords
  rw [tryCatch_apply]
  obtain ⟨later, hgrows, hlater, hvalue⟩ := hwork session hrecords
  generalize work session = result at hlater hvalue
  obtain ⟨result, after⟩ := result
  cases result with
  | ok value => exact ⟨later, hgrows, hlater, hvalue⟩
  | error fault =>
    obtain ⟨last, hlast, hrest⟩ := hhandler later hgrows fault after hlater
    exact ⟨last, book.trans hgrows hlast, hrest⟩

/-- A loop keeps the books if each of its steps does, by induction on the items. -/
theorem yields_forIn {step : α → Loading Unit} {items : List α} (hstep : ∀ item ∈ items,
      ∀ later, book.Grows page later → Yields book later (step item) Anything) :
    Yields book page (forIn items PUnit.unit fun item _ => do
      step item
      pure (ForInStep.yield PUnit.unit)) Anything := by
  induction items generalizing page with
  | nil => exact yields_pure trivial
  | cons item items ih =>
    rw [List.forIn_cons]
    have hfirst := hstep item List.mem_cons_self page (book.refl page)
    have hyield : Yields book page (do step item; pure (ForInStep.yield PUnit.unit))
        fun _ result => result = ForInStep.yield PUnit.unit :=
      yields_bind hfirst fun _ _ _ _ => yields_pure rfl
    refine yields_bind hyield fun later hgrows result hresult => ?_
    subst hresult
    exact ih fun other hmem last hlast =>
      hstep other (List.mem_cons_of_mem _ hmem) last (book.trans hgrows hlast)

/-- A change of a session that keeps to the page. -/
theorem yields_modify {f : Session → Session}
    (h : ∀ session, book.Records page session → book.Records page (f session)) :
    Yields book page (modify f : Loading Unit) Anything :=
  fun session hrecords => ⟨page, book.refl page, h session hrecords, fun _ _ => trivial⟩

end

/-! ## Work that does not import -/

/-- The page holds all that a module binds. -/
def Bookkeeping.HoldsAll (book : Bookkeeping Page) (page : Page) (module : PluginModule) : Prop :=
  ∀ binding ∈ module.bindings, book.Holds page binding.2

/-- What a module binds is looked up as something that the page holds. -/
theorem Bookkeeping.HoldsAll.lookup {module : PluginModule} (h : book.HoldsAll page module)
    {name : String} {object : PluginObject} (hlookup : module.lookup name = some object) :
    book.Holds page object :=
  h _ (mem_of_lookup hlookup)

/-- A module is no class. -/
theorem isGiven_module (handle : Nat) : IsGiven (.module handle) := by
  rintro _ ⟨⟩

/-- A function is no class. -/
theorem isGiven_function (owner : Value) (name : String) : IsGiven (.function owner name) := by
  rintro _ ⟨⟩

/-- A value is no class. -/
theorem isGiven_value (value : Value) : IsGiven (.value value) := by
  rintro _ ⟨⟩

/-- All that a module binds is held by the page that its session agrees with. -/
theorem yields_moduleOf (handle : Nat) : Yields book page (moduleOf handle) book.HoldsAll := by
  intro session hrecords
  refine ⟨page, book.refl page, hrecords, ?_⟩
  rintro _ ⟨⟩
  exact book.holds_bound hrecords handle

/-- Asking whether a module is loaded changes nothing. -/
theorem yields_loaded? (name : String) : Yields book page (loaded? name) Anything :=
  fun _ hrecords => ⟨page, book.refl page, hrecords, fun _ _ => trivial⟩

/-- A module that is executed can bind what the page holds. -/
theorem yields_bindName {handle : Nat} {object : PluginObject}
    (hhandle : book.Executes page handle) (hobject : book.Holds page object) (name : String) :
    Yields book page (bindName handle name object) Anything :=
  yields_modify fun _ hrecords => book.bind hrecords hhandle hobject name

/-- The object that a name stands for in a module is held by the page. -/
theorem yields_objectOf (handle : Nat) (name : String) :
    Yields book page (objectOf handle name) book.Holds := by
  refine yields_bind (yields_moduleOf handle) fun later _ module hmodule => ?_
  split
  next object hobject =>
    refine yields_pure ?_
    cases hlookup : module.lookup name with
    | some bound =>
      rw [hlookup] at hobject
      obtain rfl := Option.some.inj hobject
      exact hmodule.lookup hlookup
    | none =>
      rw [hlookup] at hobject
      exact book.holds_given later (isGiven_of_commonObject? hobject)
  next => exact yields_throw _

/-- What a module provides for a name is held by the page. -/
theorem yields_providedObject? (source : Nat) (name : String) :
    Yields book page (providedObject? source name) fun later found =>
      ∀ object, found = some object → book.Holds later object := by
  refine yields_bind (yields_moduleOf source) fun later _ module hmodule => ?_
  split
  next object hlookup =>
    refine yields_pure ?_
    rintro _ ⟨⟩
    exact hmodule.lookup hlookup
  next =>
    refine yields_bind (yields_loaded? _) fun last _ loaded _ => yields_pure fun object h => ?_
    obtain ⟨handle, -, rfl⟩ := Option.map_eq_some_iff.mp h
    exact book.holds_given last (isGiven_module handle)

/-- A member of an object is held by the page, whatever the object is. -/
theorem yields_memberOf (object : PluginObject) (name : String) :
    Yields book page (memberOf object name) book.Holds := by
  unfold memberOf
  split
  next handle =>
    refine yields_bind (yields_providedObject? handle name) fun later _ found hfound => ?_
    split
    next member => exact yields_pure (hfound member rfl)
    next => exact yields_bind (yields_moduleOf handle) fun _ _ _ _ => yields_throw _
  next => exact yields_pure (book.holds_given page (by rintro _ ⟨⟩))
  next => exact yields_throw _
  next => exact yields_throw _

/-- So is a member of a member, by induction on the names. -/
theorem yields_memberAt {object : PluginObject} (hobject : book.Holds page object)
    (names : List String) : Yields book page (memberAt object names) book.Holds := by
  induction names generalizing page object with
  | nil => exact yields_pure hobject
  | cons name names ih =>
    exact yields_bind (yields_memberOf object name) fun later _ member hmember => ih hmember

/-- So is what a dotted name stands for in a module. -/
theorem yields_dottedObject (handle : Nat) (dotted : String) :
    Yields book page (dottedObject handle dotted) book.Holds := by
  unfold dottedObject
  split
  · exact yields_throw _
  · exact yields_bind (yields_objectOf handle _) fun later _ object hobject =>
      yields_memberAt hobject _

/-- Calling a class changes nothing but the list of what was constructed. -/
theorem yields_makeInstance (type : PluginClass) :
    Yields book page (makeInstance type) Anything := by
  unfold makeInstance
  split
  · exact yields_throw _
  · split
    · exact yields_pure trivial
    · refine yields_bind (yields_modify fun _ hrecords => book.created hrecords _) fun _ _ _ _ => ?_
      split
      · exact yields_throw _
      · exact yields_pure trivial

/-- Nothing that is made by a call is a class. -/
theorem yields_callObject (object : PluginObject) :
    Yields book page (callObject object) fun _ => IsGiven := by
  have hmade (type : PluginClass) : IsGiven (madeOf type) := by
    unfold madeOf
    split
    · cases emptyValues.lookup type.name <;> rintro _ ⟨⟩
    · rintro _ ⟨⟩
  unfold callObject
  split
  next type => exact yields_bind (yields_makeInstance type) fun _ _ _ _ => yields_pure (hmade type)
  next => exact yields_pure (by rintro _ ⟨⟩)
  next => exact yields_pure (by rintro _ ⟨⟩)
  next => exact yields_throw _

/-- The base of a definition is a class that the page holds. -/
theorem yields_baseOf (handle : Nat) (definition : ClassDefinition) :
    Yields book page (baseOf handle definition) fun later base =>
      book.Holds later (.classObject base) := by
  have hgiven (later : Page) (owner name : String) :
      book.Holds later (.classObject (.given owner name)) := by
    refine book.holds_given later ?_
    rintro _ ⟨⟩
    exact ⟨.given owner name, rfl⟩
  unfold baseOf
  split
  · exact yields_pure (hgiven page _ _)
  · refine yields_bind (yields_dottedObject handle _) fun later _ object hobject => ?_
    split
    next type =>
      split
      · exact yields_throw _
      · exact yields_pure hobject
    next => exact yields_pure (hgiven later _ _)
    next => exact yields_throw _

/-- A class that is defined is entered in the books and bound at once. -/
theorem yields_defineClass {handle : Nat} (hhandle : book.Executes page handle) {base : PluginClass}
    (hbase : book.Holds page (.classObject base)) (definition : ClassDefinition) :
    Yields book page (do
      let number ← newClassNumber
      let owner := (← moduleOf handle).ownName?.getD (.text PluginClass.commonOwner)
      bindName handle definition.name (.classObject (.define number owner base definition)))
      Anything := by
  intro session hrecords
  let numbered : Session := { session with nextClass := session.nextClass + 1 }
  let owner := (numbered.module handle).ownName?.getD (.text PluginClass.commonOwner)
  obtain ⟨later, hgrows, hholds, hlater⟩ := book.define hrecords hbase owner definition
  have hbound := book.bind hlater (book.executes_grow hgrows hhandle) hholds definition.name
  exact ⟨later, hgrows, hbound, fun _ _ => trivial⟩

/-- Names that are imported from a module are bound to what the page holds. -/
theorem yields_bindImports {handle : Nat} (hhandle : book.Executes page handle) (source : Nat)
    (names : List String) : Yields book page (bindImports handle source names) Anything := by
  induction names generalizing page with
  | nil => exact yields_pure trivial
  | cons name names ih =>
    refine yields_bind (yields_providedObject? source name) fun later hgrows found hfound => ?_
    have hhandle := book.executes_grow hgrows hhandle
    split
    next object =>
      exact yields_bind (yields_bindName hhandle (hfound object rfl) name)
        fun last hlast _ _ => ih (book.executes_grow hlast hhandle)
    next =>
      refine yields_bind (yields_moduleOf source) fun last hlast _ _ => ?_
      exact yields_bind (P := Anything) (yields_throw _) fun final hfinal _ _ =>
        ih (book.executes_grow (book.trans hlast hfinal) hhandle)

/-- Names of a list of exports are bound to what the page holds. -/
theorem yields_bindExports {handle : Nat} (hhandle : book.Executes page handle) (source : Nat)
    (items : List Value) : Yields book page (bindExports handle source items) Anything := by
  fun_induction bindExports handle source items generalizing page with
  | case1 => exact yields_pure trivial
  | case2 name items ih =>
    refine yields_bind (yields_moduleOf source) fun later hgrows module hmodule => ?_
    have hhandle := book.executes_grow hgrows hhandle
    split
    next object hlookup =>
      exact yields_bind (yields_bindName hhandle (hmodule.lookup hlookup) name)
        fun last hlast _ _ => ih (book.executes_grow hlast hhandle)
    next =>
      exact yields_bind (P := Anything) (yields_throw _) fun last hlast _ _ =>
        ih (book.executes_grow hlast hhandle)
  | case3 => exact yields_bind (yields_moduleOf source) fun _ _ _ _ => yields_throw _

/-! ## Work that imports -/

section

variable {importer : Importer}
  (himporter : ∀ (page : Page) (name : String), Yields book page (importer name) Anything)

include himporter

/-- Importing a submodule keeps the books if the importer does. -/
theorem yields_importSubmodule (package name : String) :
    Yields book page (importSubmodule importer package name) Anything := by
  have himport : Yields book page (discard (importer (package ++ "." ++ name)) : Loading Unit)
      Anything :=
    yields_bind (himporter page _) fun _ _ _ _ => yields_pure trivial
  refine yields_bind (P := Anything) (yields_tryCatch (yields_bind himport fun _ _ _ _ =>
    yields_pure trivial) fun later _ fault => ?_) fun later _ result _ => ?_
  · split
    · exact yields_pure trivial
    · exact yields_bind (P := Anything) (yields_throw _) fun _ _ _ _ => yields_pure trivial
  · cases result <;> exact yields_pure trivial

/-- So does importing several of them. -/
theorem yields_importSubmodules (source : Nat) (names : List String) :
    Yields book page (importSubmodules importer source names) Anything := by
  induction names generalizing page with
  | nil => exact yields_pure trivial
  | cons name names ih =>
    refine yields_bind (yields_moduleOf source) fun later _ package _ => ?_
    split
    · exact yields_bind (yields_importSubmodule himporter _ _) fun _ _ _ _ => ih
    · exact ih

/-- So does importing everything that a module exports. -/
theorem yields_importEverything {handle : Nat} (hhandle : book.Executes page handle)
    (source : Nat) : Yields book page (importEverything importer handle source) Anything := by
  refine yields_bind (yields_moduleOf source) fun later hgrows module hmodule => ?_
  have hhandle := book.executes_grow hgrows hhandle
  split
  · refine yields_bind (yields_forIn fun binding hmem last hlast => ?_) fun _ _ _ _ =>
      yields_pure trivial
    -- What the other module bound at the start is still held when its turn comes.
    have hholds := hmodule binding (List.mem_filter.mp hmem).1
    exact yields_bindName (book.executes_grow hlast hhandle) (book.holds_grow hlast hholds) _
  · refine yields_bind (yields_ofExcept _) fun last hlast items _ => ?_
    have hhandle := book.executes_grow hlast hhandle
    split
    · refine yields_bind (yields_ofExcept _) fun mid hmid names _ => ?_
      refine yields_bind (yields_importSubmodules himporter source names) fun final hfinal _ _ => ?_
      exact yields_bindExports (book.executes_grow (book.trans hmid hfinal) hhandle) source items
    · exact yields_bindExports hhandle source items

/-- The books can be kept through one statement of a module that is executed. -/
theorem yields_runStatement {handle : Nat} (hhandle : book.Executes page handle)
    (statement : Statement) :
    Yields book page (runStatement importer handle statement) Anything := by
  have hgiven {object : PluginObject} {later : Page} (hgrows : book.Grows page later)
      (hobject : IsGiven object) (name : String) :
      Yields book later (bindName handle name object) Anything :=
    yields_bindName (book.executes_grow hgrows hhandle) (book.holds_given later hobject) name
  -- Only a definition enters something in the books; the imports are left to the importer.
  cases statement with
  | defineClass definition =>
    exact yields_bind (yields_baseOf handle definition) fun later hgrows base hbase =>
      yields_defineClass (book.executes_grow hgrows hhandle) hbase definition
  | defineFunction name =>
    exact yields_bind (yields_moduleOf handle) fun later hgrows _ _ =>
      hgiven hgrows (isGiven_function _ _) name
  | declareExports names => exact hgiven (book.refl page) (isGiven_value _) _
  | bindAlias name target =>
    exact yields_bind (yields_dottedObject handle target) fun later hgrows object hobject =>
      yields_bindName (book.executes_grow hgrows hhandle) hobject name
  | bindValue name value => exact hgiven (book.refl page) (isGiven_value value) name
  | bindInstance name target =>
    exact yields_bind (yields_dottedObject handle target) fun later hgrows object _ =>
      yields_bind (yields_callObject object) fun last hlast made hmade =>
        hgiven (book.trans hgrows hlast) hmade name
  | unbind name =>
    refine yields_bind (yields_moduleOf handle) fun later _ module _ => ?_
    have hunbind (last : Page) : Yields book last (modify fun session =>
        session.change handle fun module => module.unbind name : Loading Unit) Anything :=
      yields_modify fun _ hrecords => book.unbind hrecords handle name
    split
    · exact yields_bind (P := Anything) (yields_throw _) fun last _ _ _ => hunbind last
    · exact hunbind later
  | importModule target =>
    have hfirst : Yields book page (discard (importer target) : Loading Unit) Anything :=
      yields_bind (himporter page target) fun _ _ _ _ => yields_pure trivial
    exact yields_bind hfirst fun later hgrows _ _ =>
      yields_bind (himporter later _) fun last hlast top _ =>
        hgiven (book.trans hgrows hlast) (isGiven_module top) _
  | importNames target names =>
    refine yields_bind (yields_moduleOf handle) fun later hgrows module _ => ?_
    refine yields_bind (yields_ofExcept _) fun last hlast name _ => ?_
    refine yields_bind (himporter last name) fun mid hmid source _ => ?_
    have hhandle := book.executes_grow (book.trans hgrows (book.trans hlast hmid)) hhandle
    split
    · exact yields_importEverything himporter hhandle source
    · refine yields_bind (yields_moduleOf source) fun final hfinal package _ => ?_
      have hhandle := book.executes_grow hfinal hhandle
      split
      · exact yields_bind (yields_importSubmodules himporter source names) fun _ hgrown _ _ =>
          yields_bindImports (book.executes_grow hgrown hhandle) source names
      · exact yields_bindImports hhandle source names
  | raise fault => exact yields_throw fault
  | malformed => exact yields_throw _

/-- The books can be kept through a list of statements, by induction on it. -/
theorem yields_runStatements {handle : Nat} (hhandle : book.Executes page handle)
    (statements : List Statement) :
    Yields book page (runStatements importer handle statements) Anything := by
  induction statements generalizing page with
  | nil => exact yields_pure trivial
  | cons statement statements ih =>
    exact yields_bind (yields_runStatement himporter hhandle statement) fun later hgrows _ _ =>
      ih (book.executes_grow hgrows hhandle)

/-- The books can be kept through the execution of a module. -/
theorem yields_runModule {handle : Nat} (hhandle : book.Executes page handle)
    (statements : List Statement) :
    Yields book page (runModule importer handle statements) Anything := by
  have hchecker : IsGiven (.classObject PluginClass.checker) := by
    rintro _ ⟨⟩
    exact ⟨.checker, rfl⟩
  have hrest (later : Page) (hgrows : book.Grows page later) : Yields book later (do
      bindName handle Session.checkerName (.classObject PluginClass.checker)
      runStatements importer handle statements) Anything := by
    have hhandle := book.executes_grow hgrows hhandle
    exact yields_bind (yields_bindName hhandle (book.holds_given later hchecker) _)
      fun last hlast _ _ =>
        yields_runStatements himporter (book.executes_grow hlast hhandle) statements
  unfold runModule
  split
  · exact yields_bind (P := Anything) (yields_throw _) fun later hgrows _ _ => hrest later hgrows
  · exact hrest page (book.refl page)

/-- The books can be kept through the execution of a file if they can be kept through imports. -/
theorem yields_runFile (host : Host SourceFile) {handle : Nat} (hhandle : book.Executes page handle)
    (path : Path) : Yields book page (runFile host importer handle path) Anything :=
  yields_bind (yields_ofExcept _) fun _ hgrows _ _ =>
    yields_bind (yields_ofExcept _) fun _ hlast statements _ =>
      yields_runModule himporter (book.executes_grow (book.trans hgrows hlast) hhandle) statements

end

end WorkspaceLint.Plugin
