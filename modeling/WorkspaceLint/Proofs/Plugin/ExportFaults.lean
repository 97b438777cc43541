import WorkspaceLint.Proofs.Plugin.Discovery

/-!
# Exports that cannot be told

What a module lists under the name of its exports is looked through without further ado. Three kinds
of modules cannot be looked through, `ExportsFail`: what they list holds no items, or one that is no
name; or they list nothing and have no name for themselves. Discovery passes the fault of that on as
it is. Of every other module the classes can be told, and then discovery ends with a checker of each
or with an account of one, `DiscoversAll`.

* `checkerClasses_eq_error_iff` — the modules of which the classes cannot be told.
* `discover_of_exportsFail`, `discoversAll_discover` — what discovery ends with.
-/

namespace WorkspaceLint.Registry

open Plugin

variable {module : PluginModule} {fault : Fault}

/-! ## Modules of which the exports cannot be told -/

/-- The exports of a module cannot be told, and the fault that tells so. -/
inductive ExportsFail (module : PluginModule) : Fault → Prop
  | notIterable {declared : PluginObject}
      (hlists : module.lookup PluginModule.exportsKey = some declared)
      (hnull : declared ≠ .value .null) (hitems : itemsOf? declared = none) :
      ExportsFail module (notIterable declared)
  | noMemberName {declared : PluginObject} {names : List String} {item : Value} {items : List Value}
      (hlists : module.lookup PluginModule.exportsKey = some declared)
      (hitems : itemsOf? declared = some (names.map .text ++ item :: items))
      (hitem : ∀ name, item ≠ .text name) : ExportsFail module (noMemberName item)
  | nameless (hlists : ListsNothing module) (hname : module.ownName? = none)
      (hpublic : module.publicBindings ≠ []) :
      ExportsFail module (module.unknownMember PluginModule.nameKey)

/-- Listed items are looked through up to the first that is no name. -/
theorem listedObjects_eq_error_iff {items : List Value} :
    listedObjects module items = .error fault
      ↔ ∃ (names : List String) (item : Value) (rest : List Value),
        items = names.map .text ++ item :: rest ∧ (∀ name, item ≠ .text name)
          ∧ fault = noMemberName item := by
  constructor
  · intro h
    fun_induction listedObjects module items with
    | case1 => cases h
    | case2 name items ih =>
      obtain ⟨names, item, rest, rfl, hitem⟩ := ih (map_eq_error_iff.mp h)
      exact ⟨name :: names, item, rest, rfl, hitem⟩
    | case3 item items hitem =>
      cases h
      exact ⟨[], item, items, rfl, fun name heq => hitem name heq, rfl⟩
  · rintro ⟨names, item, rest, rfl, hitem, rfl⟩
    induction names with
    | nil =>
      rw [List.map_nil, List.nil_append, listedObjects]
      exact hitem
    | cons name names ih =>
      rw [List.map_cons, List.cons_append, listedObjects, ih]
      rfl

/-- A module that lists something exports the objects of the listed names. -/
theorem exportedObjects_of_lists {declared : PluginObject}
    (hlists : module.lookup PluginModule.exportsKey = some declared)
    (hnull : declared ≠ .value .null) :
    exportedObjects module = (listedItems declared).bind (listedObjects module) := by
  rw [exportedObjects, hlists]
  split
  next heq => cases heq
  next heq => exact absurd (Option.some.inj heq) hnull
  next heq => rw [Option.some.inj heq]

/-- A module lists nothing, or lists something that is not null. -/
theorem listsNothing_or_lists (module : PluginModule) :
    ListsNothing module
      ∨ ∃ declared, module.lookup PluginModule.exportsKey = some declared
          ∧ declared ≠ .value .null := by
  cases hlists : module.lookup PluginModule.exportsKey with
  | none => exact .inl (.inl hlists)
  | some declared =>
    by_cases hnull : declared = .value .null
    · exact .inl (.inr (hnull ▸ hlists))
    · exact .inr ⟨declared, rfl, hnull⟩

/-- The checkers of a module cannot be told if and only if its exported objects cannot. -/
theorem checkerClasses_eq_error_iff_exported :
    checkerClasses module = .error fault ↔ exportedObjects module = .error fault :=
  map_eq_error_iff

/-- The classes of a module cannot be told exactly if its exports cannot. -/
theorem checkerClasses_eq_error_iff :
    checkerClasses module = .error fault ↔ ExportsFail module fault := by
  constructor
  · intro h
    -- Without a list only the name can be missing, with one it is the list that fails.
    rcases listsNothing_or_lists module with hnothing | ⟨declared, hlists, hnull⟩
    · cases hname : module.ownName? with
      | some name =>
        rw [checkerClasses_of_listsNothing hnothing hname] at h
        cases h
      | none =>
        rw [checkerClasses_of_nameless hnothing hname] at h
        split at h
        · cases h
        next hpublic =>
          cases h
          exact .nameless hnothing hname hpublic
    · rw [checkerClasses_eq_error_iff_exported, exportedObjects_of_lists hlists hnull,
        listedItems] at h
      cases hitems : itemsOf? declared with
      | none =>
        rw [hitems] at h
        cases h
        exact .notIterable hlists hnull hitems
      | some items =>
        rw [hitems] at h
        obtain ⟨names, item, rest, rfl, hitem, rfl⟩ := listedObjects_eq_error_iff.mp h
        exact .noMemberName hlists hitems hitem
  · intro h
    cases h with
    | notIterable hlists hnull hitems =>
      rw [checkerClasses_eq_error_iff_exported, exportedObjects_of_lists hlists hnull, listedItems,
        hitems]
      rfl
    | @noMemberName declared names item items hlists hitems hitem =>
      have hnull : declared ≠ .value .null := by
        rintro rfl
        cases hitems
      rw [checkerClasses_eq_error_iff_exported, exportedObjects_of_lists hlists hnull, listedItems,
        hitems]
      exact listedObjects_eq_error_iff.mpr ⟨names, item, items, rfl, hitem, rfl⟩
    | nameless hnothing hname hpublic =>
      rw [checkerClasses_of_nameless hnothing hname, if_neg hpublic]

/-! ## What discovery ends with -/

/-- What discovery ends with where all goes as it is declared: with a checker of each class, or with
an account of the first class that cannot be instantiated. -/
inductive DiscoversAll (types : List PluginClass) (session : Session) :
    Except PluginFault (List PluginClass) × Session → Prop
  | made (hall : ∀ type ∈ types, type.IsInstantiable) :
      DiscoversAll types session (.ok types, session.constructing types)
  | reported {before after ran : List PluginClass} {type : PluginClass} {reason : String}
      (htypes : types = before ++ type :: after) (hbefore : ∀ other ∈ before, other.IsInstantiable)
      (htype : ¬ type.IsInstantiable)
      (hfails : type.Fails ran (.configuration type.qualifiedName reason)) :
      DiscoversAll types session
        (.error (.configuration type.qualifiedName reason), session.constructing (before ++ ran))

/-- Either all classes can be instantiated, or there is a first one that cannot. -/
theorem all_or_first_fails (types : List PluginClass) :
    (∀ type ∈ types, type.IsInstantiable)
      ∨ ∃ before type after, types = before ++ type :: after
          ∧ (∀ other ∈ before, other.IsInstantiable) ∧ ¬ type.IsInstantiable := by
  classical
  cases hfound : types.find? fun type => ¬ type.IsInstantiable with
  | none => exact .inl (by simpa using hfound)
  | some type =>
    obtain ⟨htype, before, after, htypes, hbefore⟩ := List.find?_eq_some_iff_append.mp hfound
    exact .inr ⟨before, type, after, htypes, by simpa using hbefore, by simpa using htype⟩

/-- Without a constructor that asks the program to stop, a class that cannot be instantiated is
reported. -/
theorem MakesInOrder.discoversAll {types : List PluginClass} {session : Session}
    {outcome : Except PluginFault (List PluginClass) × Session}
    (h : MakesInOrder types session outcome)
    (hordinary : ∀ type ∈ types, ∀ fault, type.raised? = some fault → fault.isOrdinary = true) :
    DiscoversAll types session outcome := by
  rcases all_or_first_fails types with hall | ⟨before, type, after, htypes, hbefore, htype⟩
  · exact h.complete hall ▸ .made hall
  · obtain ⟨ran, fault, hfails, rfl⟩ := h.stopped before type after htypes hbefore htype
    cases hfails with
    | asked hasked => exact .reported htypes hbefore htype (.asked hasked)
    | refused hunasked hcall reason =>
      exact .reported htypes hbefore htype (.refused hunasked hcall reason)
    | raised hunasked hcall hraises hquiet =>
      exact .reported htypes hbefore htype (.raised hunasked hcall hraises hquiet)
    | escaped _ _ hraises hstops =>
      rw [hordinary type (by simp [htypes]) _ hraises] at hstops
      cases hstops

/-- Discovery in a module the exports of which fail ends with that fault. -/
theorem discover_of_exportsFail {session : Session} {handle : Nat}
    (h : ExportsFail (session.module handle) fault) :
    discover handle session = (.error (.escaped fault), session) := by
  rw [discover_apply, checkerClasses_eq_error_iff.mpr h]

/-- Where the exports of a module can be told, discovery ends as it is declared to, if no
constructor asks the program to stop. -/
theorem discoversAll_discover {session : Session} {handle : Nat}
    (h : ∀ fault, ¬ ExportsFail (session.module handle) fault) :
    ∃ types, checkerClasses (session.module handle) = .ok types
      ∧ ((∀ type ∈ types, ∀ fault, type.raised? = some fault → fault.isOrdinary = true) →
        DiscoversAll types session (discover handle session)) := by
  cases hclasses : checkerClasses (session.module handle) with
  | error fault => exact absurd (checkerClasses_eq_error_iff.mp hclasses) (h fault)
  | ok types =>
    refine ⟨types, rfl, fun hordinary => ?_⟩
    rw [discover_apply, hclasses]
    exact (makesInOrder_makeCheckers types session).discoversAll hordinary

end WorkspaceLint.Registry
