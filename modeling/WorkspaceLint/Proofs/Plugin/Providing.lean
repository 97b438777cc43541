import WorkspaceLint.Plugin.Loading
import WorkspaceLint.Proofs.Outcome

/-!
# Loading before making

Providing checkers falls into two parts: everything that is referred to is loaded, `loadSources`,
and then the checkers of what was loaded are made, `discoverSources`. Each part has its own declared
fault. Loading fails with a load failure, `failsOnly_loadSources`, and making a checker with an
account of why it could not be made, `failsOnly_discoverSources`; both let other faults through.
-/

namespace WorkspaceLint.Plugin

variable {α β : Type}

/-- Work that goes on with the value of other work ends with its fault, if there is one. -/
theorem bind_apply {ε : Type} (work : ExceptT ε (StateM Session) α)
    (next : α → ExceptT ε (StateM Session) β) (session : Session) :
    (work >>= next) session = match work session with
      | (.ok value, session) => next value session
      | (.error fault, session) => (.error fault, session) := by
  change ExceptT.bind work next session = _
  rw [ExceptT.bind, ExceptT.mk]
  change ExceptT.bindCont next (work session).1 (work session).2 = _
  obtain ⟨result, after⟩ := work session
  cases result <;> rfl

/-! ## The two parts -/

/-- Loads the plugin that a reference refers to, and those that are installed if they are asked for.
-/
def loadSources (host : Host SourceFile) (installed : Installed) (withInstalled : Bool)
    (reference : String) : Providing (Nat × Option (List PluginObject)) := do
  let handle ← loadPlugin host reference
  if withInstalled then
    let objects ← loadEntries host (installed.select checkerGroup)
    return (handle, some objects)
  else return (handle, none)

/-- Makes the checkers of what was loaded. -/
def discoverSources : Nat × Option (List PluginObject) → Providing (List PluginClass)
  | (handle, some objects) => Registry.discoverMany (.module handle :: objects)
  | (handle, none) => Registry.discover handle

/-- Loading checkers is loading the sources and then discovering the classes in them. -/
theorem loadCheckers_eq_bind (host : Host SourceFile) (installed : Installed)
    (withInstalled : Bool) (reference : String) :
    loadCheckers host installed withInstalled reference
      = loadSources host installed withInstalled reference >>= discoverSources := by
  cases withInstalled <;> simp [loadCheckers, loadSources, discoverSources]

/-! ## Their faults -/

/-- All faults of a piece of work are of one kind. -/
def FailsOnly (Kind : PluginFault → Prop) (work : Providing α) : Prop :=
  ∀ session fault, (work session).1 = .error fault → Kind fault

/-- The faults of loading: load failures, and faults that are none of the loader's business. -/
inductive IsLoadFault : PluginFault → Prop
  | failure (failure : LoadFailure) : IsLoadFault (.failure failure)
  | escaped (fault : Fault) : IsLoadFault (.escaped fault)

/-- The faults of making checkers: accounts of why one could not be made, and other faults. -/
inductive IsDiscoveryFault : PluginFault → Prop
  | configuration (checker reason : String) : IsDiscoveryFault (.configuration checker reason)
  | escaped (fault : Fault) : IsDiscoveryFault (.escaped fault)

section

variable {Kind : PluginFault → Prop}

/-- A value is no fault of another kind. -/
theorem failsOnly_pure (value : α) : FailsOnly Kind (pure value : Providing α) := by
  intro session fault h
  cases h

/-- A fault of the kind is one. -/
theorem failsOnly_throw {fault : PluginFault} (hfault : Kind fault) :
    FailsOnly Kind (throw fault : Providing α) := by
  intro session other h
  cases h
  exact hfault

/-- Work put together fails only in a way in which its parts do. -/
theorem failsOnly_bind {work : Providing α} {next : α → Providing β} (hwork : FailsOnly Kind work)
    (hnext : ∀ value, FailsOnly Kind (next value)) : FailsOnly Kind (work >>= next) := by
  intro session fault h
  rw [bind_apply] at h
  have hfirst := hwork session
  generalize work session = result at h hfirst
  obtain ⟨result, after⟩ := result
  cases result with
  | error first =>
    cases h
    exact hfirst _ rfl
  | ok value => exact hnext value after fault h

end

/-- Work that is told fails as a load does. -/
theorem failsOnly_told (artifact : String) (work : Loading α) :
    FailsOnly IsLoadFault (told artifact work) := by
  intro session fault h
  unfold told at h
  split at h
  · cases h
  next origin _ _ =>
    cases h
    unfold loadFault
    split
    · exact .escaped _
    · split
      · exact .failure _
      · exact .escaped _

/-- Loading a plugin fails as a load does, whether it is loaded from a path or by its name. -/
theorem failsOnly_loadPlugin (host : Host SourceFile) (reference : String) :
    FailsOnly IsLoadFault (loadPlugin host reference) := by
  unfold loadPlugin
  split
  · exact failsOnly_throw (.escaped _)
  · exact failsOnly_told _ _
  · exact failsOnly_told _ _

/-- Loading entry points fails as a load does, by induction on them. -/
theorem failsOnly_loadEntries (host : Host SourceFile) (entries : List EntryPoint) :
    FailsOnly IsLoadFault (loadEntries host entries) := by
  induction entries with
  | nil => exact failsOnly_pure _
  | cons entry entries ih =>
    exact failsOnly_bind (failsOnly_told _ _) fun object =>
      failsOnly_bind ih fun objects => failsOnly_pure _

/-- Loading ends in a load failure, if in a declared fault at all. -/
theorem failsOnly_loadSources (host : Host SourceFile) (installed : Installed)
    (withInstalled : Bool) (reference : String) :
    FailsOnly IsLoadFault (loadSources host installed withInstalled reference) := by
  refine failsOnly_bind (failsOnly_loadPlugin host reference) fun handle => ?_
  split
  · exact failsOnly_bind (failsOnly_loadEntries host _) fun objects => failsOnly_pure _
  · exact failsOnly_pure _

/-- Making a checker fails as discovery does. -/
theorem failsOnly_makeChecker (type : PluginClass) :
    FailsOnly IsDiscoveryFault (Registry.makeChecker type) := by
  refine failsOnly_bind (failsOnly_bind ?_ fun _ => failsOnly_pure _) fun _ => failsOnly_pure _
  intro session fault h
  unfold Registry.makeOf at h
  split at h
  · split at h
    · cases h
    · split at h <;> cases h
      · exact .configuration _ _
      · exact .escaped _
  · cases h
    exact .configuration _ _

/-- Making several checkers fails as discovery does, by induction on them. -/
theorem failsOnly_makeCheckers (types : List PluginClass) :
    FailsOnly IsDiscoveryFault (Registry.makeCheckers types) := by
  induction types with
  | nil => exact failsOnly_pure _
  | cons type types ih =>
    exact failsOnly_bind (failsOnly_makeChecker type) fun checker =>
      failsOnly_bind ih fun checkers => failsOnly_pure _

/-- The classes of sources fail to be told as discovery does. -/
theorem isDiscoveryFault_of_sourceClasses {session : Session} {sources : List PluginObject}
    {fault : PluginFault} (h : Registry.sourceClasses session sources = .error fault) :
    IsDiscoveryFault fault := by
  fun_induction Registry.sourceClasses session sources with
  | case1 => cases h
  | case2 =>
    cases h
    exact .escaped _
  | case3 handle sources types htypes ih => exact ih (map_eq_error_iff.mp h)
  | case4 source sources hsource type htype ih => exact ih (map_eq_error_iff.mp h)
  | case5 =>
    cases h
    exact .configuration _ _

/-- Making checkers ends in an account of one that could not be made, if in a declared fault at all.
-/
theorem failsOnly_discoverSources (sources : Nat × Option (List PluginObject)) :
    FailsOnly IsDiscoveryFault (discoverSources sources) := by
  obtain ⟨handle, _ | objects⟩ := sources
  · refine failsOnly_bind (fun session fault h => ?_) fun session => ?_
    · cases h
    · split
      · exact failsOnly_throw (.escaped _)
      · exact failsOnly_makeCheckers _
  · refine failsOnly_bind (fun session fault h => ?_) fun session => ?_
    · cases h
    · split
      next hsources => exact failsOnly_throw (isDiscoveryFault_of_sourceClasses hsources)
      · exact failsOnly_makeCheckers _

end WorkspaceLint.Plugin
