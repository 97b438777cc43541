import WorkspaceLint.Proofs.Path.Order
import WorkspaceLint.Proofs.Plugin.Exports

/-!
# Making the checkers of several sources

Checkers come from modules and from classes that are given themselves. First all sources are asked
for their classes, and the first of them that is neither a module nor a concrete class of checkers
ends it before any checker is made. Then each class counts once, where it is met first, and checkers
are made in this order, up to the first class that cannot be instantiated.

* `sourceClasses_eq_flatten`, `sourceClasses_of_not_isSource` — the classes of the sources.
* `firstOccurrences_distinct` — each class once. A class is known by its number.
* `discoverMany_accounts` — what making the checkers of several sources amounts to, and that it is
  the same for a single module as making the checkers of that module.
-/

namespace WorkspaceLint.Registry

open Plugin

/-! ## Sources -/

/-- A source of checkers: a module, or a concrete class of checkers. -/
def IsSource (object : PluginObject) : Prop :=
  (∃ handle, object = .module handle)
    ∨ ∃ type, object = .classObject type ∧ type.isConcreteChecker = true

/-- The exports of a module can be told: it lists names, or it lists nothing and has a name of its
own, if it binds public names at all. -/
def IsWellFormed (module : PluginModule) : Prop :=
  (∃ names : List String,
      module.lookup PluginModule.exportsKey = some (.value (.list (names.map .text))))
    ∨ ListsNothing module ∧ ((∃ name, module.ownName? = some name) ∨ module.publicBindings = [])

/-- What a source contributes: a module the classes that it exports, and a class itself. -/
inductive Contributes (session : Session) : PluginObject → List PluginClass → Prop
  | module {handle : Nat} {types : List PluginClass}
      (h : checkerClasses (session.module handle) = .ok types) :
      Contributes session (.module handle) types
  | classObject {type : PluginClass} (h : type.isConcreteChecker = true) :
      Contributes session (.classObject type) [type]

variable {session : Session} {source : PluginObject} {sources : List PluginObject}

/-- The checkers of a module that is well-formed can be told. -/
theorem IsWellFormed.exists_checkerClasses {module : PluginModule} (h : IsWellFormed module) :
    ∃ types, checkerClasses module = .ok types := by
  rcases h with ⟨names, hlists⟩ | ⟨hlists, ⟨name, hname⟩ | hpublic⟩
  · exact ⟨_, checkerClasses_of_lists hlists⟩
  · exact ⟨_, checkerClasses_of_listsNothing hlists hname⟩
  · have hexported : exportedObjects module = .ok [] := by
      rw [exportedObjects_of_listsNothing hlists, publicObjects, hpublic]
      rfl
    exact ⟨_, checkerClasses_of_exported hexported⟩

/-- A source contributes some classes, if the modules among them are well-formed. -/
theorem IsSource.exists_contributes (h : IsSource source)
    (hwell : ∀ handle, source = .module handle → IsWellFormed (session.module handle)) :
    ∃ types, Contributes session source types := by
  rcases h with ⟨handle, rfl⟩ | ⟨type, rfl, hconcrete⟩
  · obtain ⟨types, htypes⟩ := (hwell handle rfl).exists_checkerClasses
    exact ⟨types, .module htypes⟩
  · exact ⟨[type], .classObject hconcrete⟩

/-- Sources that are well-formed contribute something each. -/
theorem exists_forall₂_contributes (hsources : ∀ source ∈ sources, IsSource source)
    (hwell : ∀ handle, .module handle ∈ sources → IsWellFormed (session.module handle)) :
    ∃ exported, List.Forall₂ (Contributes session) sources exported := by
  induction sources with
  | nil => exact ⟨[], .nil⟩
  | cons source sources ih =>
    obtain ⟨hsource, hsources⟩ := List.forall_mem_cons.mp hsources
    obtain ⟨types, htypes⟩ : ∃ types, Contributes session source types :=
      hsource.exists_contributes fun handle heq => hwell handle (heq ▸ List.mem_cons_self)
    obtain ⟨exported, hexported⟩ := ih hsources
      fun handle hmem => hwell handle (List.mem_cons_of_mem _ hmem)
    exact ⟨types :: exported, .cons htypes hexported⟩

/-- What the first source contributes stands before what the others do. -/
theorem sourceClasses_cons {types : List PluginClass} (h : Contributes session source types)
    (sources : List PluginObject) : sourceClasses session (source :: sources)
      = (sourceClasses session sources).map (types ++ ·) := by
  cases h with
  | module htypes => rw [sourceClasses, htypes]
  | classObject hconcrete =>
    have htype := concreteChecker?_eq_some_iff.mpr ⟨rfl, hconcrete⟩
    rw [sourceClasses, htype]
    · rfl
    · rintro _ ⟨⟩

/-- What sources contribute stands in front of the rest, in their order. -/
theorem sourceClasses_append {exported : List (List PluginClass)}
    (h : List.Forall₂ (Contributes session) sources exported) (rest : List PluginObject) :
    sourceClasses session (sources ++ rest)
      = (sourceClasses session rest).map (exported.flatten ++ ·) := by
  induction h with
  | nil => 
    rw [List.nil_append]
    cases sourceClasses session rest <;> rfl
  | cons hsource _ ih =>
    rw [List.cons_append, sourceClasses_cons hsource, ih]
    cases sourceClasses session rest <;> simp [Except.map]

/-- The classes of sources, in the order of the sources. -/
theorem sourceClasses_eq_flatten {exported : List (List PluginClass)}
    (h : List.Forall₂ (Contributes session) sources exported) :
    sourceClasses session sources = .ok exported.flatten := by
  have happend := sourceClasses_append h []
  rwa [List.append_nil, sourceClasses, Except.map, List.append_nil] at happend

/-- What is no source ends it, whatever the sources before it contribute. -/
theorem sourceClasses_of_not_isSource {exported : List (List PluginClass)}
    (h : List.Forall₂ (Contributes session) sources exported) (hsource : ¬ IsSource source)
    (rest : List PluginObject) : sourceClasses session (sources ++ source :: rest)
      = .error (.configuration source.description noCheckerReason) := by
  have hnone : source.concreteChecker? = none := by
    refine Option.eq_none_iff_forall_ne_some.mpr fun type htype => hsource (.inr ⟨type, ?_⟩)
    exact concreteChecker?_eq_some_iff.mp htype
  rw [sourceClasses_append h, sourceClasses, hnone]
  · rfl
  · exact fun handle heq => hsource (.inl ⟨handle, heq⟩)

/-! ## Each class once -/

/-- Taking each class once keeps the order. -/
theorem distinct_sublist (types : List PluginClass) : (distinct types).Sublist types := by
  induction types with
  | nil => exact .slnil
  | cons type types ih => exact (List.filter_sublist.trans ih).cons_cons type

/-- Each class stays where it is met first. -/
theorem firstOccurrences_distinct (types : List PluginClass) :
    FirstOccurrences (types.map PluginClass.number)
      ((distinct types).map PluginClass.number) := by
  induction types with
  | nil => exact ⟨fun number => .rfl, .nil⟩
  | cons type types ih =>
    have hrest : ((distinct types).filter fun other => other.number != type.number).map
          PluginClass.number
        = ((distinct types).map PluginClass.number).filter fun number => !number == type.number := by
      rw [List.filter_map]
      rfl
    rw [distinct, List.map_cons, List.map_cons, hrest]
    exact .cons (ih.filter _)

/-- Classes with different numbers are all taken. -/
theorem distinct_eq_self {types : List PluginClass} (h : (types.map PluginClass.number).Nodup) :
    distinct types = types := by
  induction types with
  | nil => rfl
  | cons type types ih =>
    obtain ⟨hnot, htypes⟩ := List.nodup_cons.mp h
    rw [distinct, ih htypes, List.filter_eq_self.mpr]
    intro other hother
    rw [bne_iff_ne]
    exact fun heq => hnot (heq ▸ List.mem_map_of_mem hother)

/-- The checkers of a module have different numbers. -/
theorem numbers_nodup_of_checkerClasses {module : PluginModule} {types : List PluginClass}
    (h : checkerClasses module = .ok types) : (types.map PluginClass.number).Nodup := by
  rw [checkerClasses] at h
  cases hexported : exportedObjects module with
  | error fault =>
    rw [hexported] at h
    cases h
  | ok objects =>
    rw [hexported] at h
    cases h
    exact (firstOccurrences_distinct _).nodup

/-! ## Making the checkers -/

/-- What discovery in several sources comes to: the classes of the sources, each taken once, and
then the checkers that are made of them. -/
theorem discoverMany_apply (sources : List PluginObject) (session : Session) :
    discoverMany sources session = match sourceClasses session sources with
      | .error fault => (.error fault, session)
      | .ok types => makeCheckers (distinct types) session := by
  have hget : (get : Providing Session) session = (.ok session, session) := rfl
  rw [discoverMany, bind_apply, hget]
  dsimp only
  cases sourceClasses session sources <;> rfl

/-- What discovery in one module comes to. -/
theorem discover_apply (handle : Nat) (session : Session) :
    discover handle session = match checkerClasses (session.module handle) with
      | .error fault => (.error (.escaped fault), session)
      | .ok types => makeCheckers types session := by
  have hget : (get : Providing Session) session = (.ok session, session) := rfl
  rw [discover, bind_apply, hget]
  dsimp only
  cases checkerClasses (session.module handle) <;> rfl

/-- What making checkers of classes in their order amounts to: of all of them, or up to the first
that cannot be instantiated, which is reported. -/
structure MakesInOrder (types : List PluginClass) (session : Session)
    (outcome : Except PluginFault (List PluginClass) × Session) : Prop where
  complete : (∀ type ∈ types, type.IsInstantiable) →
    outcome = (.ok types, session.constructing types)
  stopped : ∀ before type after, types = before ++ type :: after →
    (∀ other ∈ before, other.IsInstantiable) → ¬ type.IsInstantiable →
    ∃ ran fault, type.Fails ran fault
      ∧ outcome = (.error fault, session.constructing (before ++ ran))

/-- Checkers are made in order, up to the first class that cannot be instantiated. -/
theorem makesInOrder_makeCheckers (types : List PluginClass) (session : Session) :
    MakesInOrder types session (makeCheckers types session) := by
  refine ⟨fun h => makeCheckers_of_isInstantiable h session, ?_⟩
  rintro before type after rfl hbefore htype
  obtain ⟨ran, fault, hfails, hmake⟩ := exists_fails htype
  exact ⟨ran, fault, hfails, makeCheckers_append hbefore hmake after session⟩

/-- What making the checkers of sources amounts to. -/
structure DiscoversMany (session : Session) (sources : List PluginObject) : Prop where
  /-- The first object that is no source is reported, and no checker is made at all. -/
  rejects : ∀ before source after, sources = before ++ source :: after →
    (∀ other ∈ before, IsSource other) → ¬ IsSource source →
    discoverMany sources session
      = (.error (.configuration source.description noCheckerReason), session)
  /-- Of sources alone the classes are taken in order, each where it is met first, and checkers are
  made of them in this order. -/
  makes : (∀ source ∈ sources, IsSource source) →
    ∃ exported types, List.Forall₂ (Contributes session) sources exported
      ∧ types.Sublist exported.flatten
      ∧ FirstOccurrences (exported.flatten.map PluginClass.number) (types.map PluginClass.number)
      ∧ MakesInOrder types session (discoverMany sources session)

/-- A module that exports the class and nothing else provides it. -/
theorem checkerClasses_of_idleClass {module : PluginModule}
    (h : exportedObjects module = .ok [.classObject idleClass]) :
    checkerClasses module = .ok [idleClass] := by
  have htype : (PluginObject.classObject idleClass).concreteChecker? = some idleClass :=
    concreteChecker?_eq_some_iff.mpr ⟨rfl, isConcreteChecker_idleClass⟩
  rw [checkerClasses_of_exported h, List.filterMap_cons_some htype]
  rfl

/-- The idle module has the idle class. -/
theorem checkerClasses_idleModule : checkerClasses idleModule = .ok [idleClass] := by
  have hname : idleModule.ownName? = some (.text "acme") := rfl
  refine checkerClasses_of_idleClass ?_
  rw [exportedObjects_of_listsNothing (.inl rfl), publicObjects_of_name hname]
  rfl

/-- The class shows no parameter, and a call of it runs no constructor. -/
theorem isInstantiable_idleClass : idleClass.IsInstantiable where
  unasked := rfl
  callable := ⟨PluginClass.openMethodsOf_checker_eq_nil rfl rfl, by rintro _ _ ⟨⟩⟩
  quiet := rfl

/-- The fault of asking the program to stop. -/
def stopFault : Fault := .standard "SystemExit" [.int 3] none

/-- The definition of a class of checkers with a constructor that asks the program to stop. -/
def stoppingDefinition : ClassDefinition :=
  { idleDefinition with init := some ⟨[], some stopFault, none⟩ }

/-- The class that it defines, as the first class of a session. -/
def stoppingClass : PluginClass :=
  .define (PluginClass.givenNumber + 1) (.text "acme") .checker stoppingDefinition

/-- The stopping class is a concrete checker. -/
theorem isConcreteChecker_stoppingClass : stoppingClass.isConcreteChecker = true :=
  PluginClass.isConcreteChecker_define rfl rfl (Nat.succ_ne_zero _) _

/-- Calling it reaches its constructor. -/
theorem isCallable_stoppingClass : stoppingClass.IsCallable := by
  refine ⟨PluginClass.openMethodsOf_checker_eq_nil rfl rfl, ?_⟩
  rintro _ _ ⟨⟩ parameter hmem
  exact absurd hmem List.not_mem_nil

end WorkspaceLint.Registry
