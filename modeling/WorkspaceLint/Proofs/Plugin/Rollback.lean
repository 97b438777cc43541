import WorkspaceLint.Proofs.Plugin.Extension

/-!
# What a failed load leaves in the table

A plugin is registered before it is executed, and what it imports is registered along with it. When
the plugin then fails, its own name is free again and nothing else is undone,
`loadFile_rolledBack`: neither is what was loaded under that name before put back, nor are the
submodules taken out that a package imported before it failed, `failed_load_leaves_traces`.
-/

namespace WorkspaceLint.Plugin

variable {host : Host SourceFile} {before after : Session}

/-- What the failed load of a plugin leaves in the table of loaded modules. What is added was
executed from when the plugin was registered on. -/
structure RolledBack (host : Host SourceFile) (name : String) (source : PluginSource)
    (before after : Session) : Prop where
  free : after.handle? name = none
  kept : ∀ {other handle}, other ≠ name → before.handle? other = some handle →
    after.handle? other = some handle
  added : ∀ {other handle}, other ≠ name → before.handle? other = none →
    after.handle? other = some handle →
    CompletedBetween host (started before name (.ofFile name source.search)) after other handle
  below : source.search = none → ∀ {other}, IsBelow other name → after.handle? other ≠ none →
    ∃ old, IsBelow old name ∧ before.handle? old ≠ none ∧ (old = other ∨ IsBelow other old)

/-- What an execution left is rolled back when the name of the plugin is taken out of the table. -/
theorem rolledBack_unregister {mid : Session} {name : String} {source : PluginSource}
    (h : Extends host (started before name (.ofFile name source.search)) mid) :
    RolledBack host name source before (mid.unregister name) where
  free := Session.handle?_unregister_self mid name
  kept hne hbefore := by
    rw [Session.handle?_unregister_of_ne mid hne]
    exact h.kept ((handle?_started_of_ne hne before _).trans hbefore)
  added hne hbefore hafter := by
    rw [Session.handle?_unregister_of_ne mid hne] at hafter
    exact h.added ((handle?_started_of_ne hne before _).trans hbefore) hafter
  below := by
    intro hfile other hother hafter
    rw [Session.handle?_unregister_of_ne mid hother.ne] at hafter
    obtain ⟨old, hold, hstarted, hwithin⟩ :=
      h.below (isLoadedFile_started before name hfile) hother hafter
    rw [handle?_started_of_ne hold.ne] at hstarted
    exact ⟨old, hold, hstarted, hwithin⟩

/-- A load that fails leaves the table as it was, if the plugin was not even found. Else the name of
the plugin is free, nothing else is taken away, and nothing is added but modules that were executed
without a fault; if the plugin is a file, none of these is below its name, but below what was there
already. -/
theorem loadFile_rolledBack {reference : String} {fault : Fault}
    (h : loadFile host reference before = (.error fault, after)) :
    (locatePlugin host reference = .error fault ∧ after = before)
    ∨ ∃ name source, locatePlugin host reference = .ok (name, source)
        ∧ RolledBack host name source before after := by
  cases hlocate : locatePlugin host reference with
  | error reason =>
    rw [loadFile_of_not_located hlocate] at h
    cases h
    exact .inl ⟨rfl, rfl⟩
  | ok located =>
    obtain ⟨name, source⟩ := located
    refine .inr ⟨name, source, rfl, ?_⟩
    rw [loadFile_of_located hlocate] at h
    -- The execution starts with the plugin in the table, and adds what it imports.
    have hext : Extends host (started before name (.ofFile name source.search))
        (runFile host (importName host) before.modules.length source.location
          (started before name (.ofFile name source.search))).2 :=
      steps_runFile (isFrame_extends host) (extends_importWithin host (importDepth host)) host _ _ _
    generalize runFile host (importName host) before.modules.length source.location
      (started before name (.ofFile name source.search)) = result at h hext
    obtain ⟨result, mid⟩ := result
    cases result with
    | ok _ => cases h
    | error fault =>
      cases h
      exact rolledBack_unregister hext

/-! ## Two packages that fail -/

/-- A file with the given statements. -/
def moduleFile (statements : List Statement) : Entry SourceFile := .file ⟨[], none, some statements⟩

/-- A host without files. -/
def bareHost : Host SourceFile := ⟨⟨[]⟩, [], .ofText "/", .standard⟩

/-- A host with nothing but a file with the given name and statements. -/
def loneHost (name : String) (statements : List Statement) : Host SourceFile :=
  ⟨⟨[([name], moduleFile statements)]⟩, [], .ofText "/", .standard⟩

/-- Two packages with a submodule each. The first unbinds the name that its submodule is given when
it is imported for the first time, the second a name that is not bound at all. -/
def twoPackages : Host SourceFile :=
  let submodule := moduleFile [.bindValue "limit" (.int 3)]
  let package (name : String) := moduleFile [.importNames ".sub" ["limit"], .unbind name]
  ⟨⟨[(["p"], .directory), (["p", "__init__.py"], package "sub"), (["p", "sub.py"], submodule),
    (["q"], .directory), (["q", "__init__.py"], package "other"), (["q", "sub.py"], submodule)]⟩,
    [], .ofText "/", .standard⟩

/-- The name under which the first package is registered. -/
def firstName : String := "_runcheckers_plugin_ca85a389d362_p"

/-- The name under which the second package is registered. -/
def secondName : String := "_runcheckers_plugin_7269bde598c1_q"

/-- The name under which a plugin is registered, if it is found. -/
def locatedName? (host : Host SourceFile) (reference : String) : Option String :=
  (locatePlugin host reference).toOption.map Prod.fst

/-- A session in which nothing is loaded. -/
def emptySession : Session := ⟨[], [], PluginClass.givenNumber + 1, []⟩

/-- The session after a load of the first package. -/
def loadedOnce : Session := (loadFile twoPackages "/p" emptySession).2

/-- The first package fails when it is loaded once more. -/
theorem second_load_rolledBack : ∃ fault source after,
    loadFile twoPackages "/p" loadedOnce = (.error fault, after)
    ∧ RolledBack twoPackages firstName source loadedOnce after := by
  have hname : locatedName? twoPackages "/p" = some firstName := by decide +kernel
  have hfails : (loadFile twoPackages "/p" loadedOnce).1.toOption = none := by decide +kernel
  obtain ⟨fault, hfault⟩ : ∃ fault, (loadFile twoPackages "/p" loadedOnce).1 = .error fault := by
    cases hresult : (loadFile twoPackages "/p" loadedOnce).1 with
    | error fault => exact ⟨fault, rfl⟩
    | ok handle =>
      rw [hresult] at hfails
      cases hfails
  have hload : loadFile twoPackages "/p" loadedOnce = (.error fault, _) := Prod.ext hfault rfl
  rw [locatedName?] at hname
  rcases loadFile_rolledBack hload with ⟨hlocate, -⟩ | ⟨name, source, hlocate, hback⟩
  · rw [hlocate] at hname
    cases hname
  · rw [hlocate] at hname
    cases hname
    exact ⟨fault, source, _, hload, hback⟩

/-- A failed load takes away what was loaded under the name of the plugin before, and a package that
fails leaves the submodules that it imported, also in a table that had none of them. -/
theorem failed_load_leaves_traces :
    locatedName? twoPackages "/p" = some firstName
    ∧ loadedOnce.registered = [(firstName, 0), (firstName ++ ".sub", 1)]
    ∧ (loadFile twoPackages "/p" loadedOnce).1.toOption = none
    ∧ (loadFile twoPackages "/p" loadedOnce).2.registered = [(firstName ++ ".sub", 1)]
    ∧ locatedName? twoPackages "/q" = some secondName
    ∧ emptySession.registered = []
    ∧ (loadFile twoPackages "/q" emptySession).1.toOption = none
    ∧ (loadFile twoPackages "/q" emptySession).2.registered = [(secondName ++ ".sub", 1)] := by
  decide +kernel

end WorkspaceLint.Plugin
