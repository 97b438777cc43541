import WorkspaceLint.Proofs.Path.Text
import WorkspaceLint.Proofs.Plugin.Registration

/-!
# What an import adds to the table

An import only ever adds to the table of loaded modules, and only modules whose execution was
completed, `Extends`. This holds for a module that is loaded, whether its execution fails,
`extends_of_failed`, or not, `extends_of_completed`, and from there for every import,
`extends_importWithin`.
-/

namespace WorkspaceLint.Plugin

/-! ## Names below others -/

/-- A name starts with another one and a dot. -/
def IsBelow (name package : String) : Prop := (package ++ ".").toList <+: name.toList

/-- Being below a package, as characters. -/
theorem isBelow_iff {name package : String} :
    IsBelow name package ↔ package.toList ++ ['.'] <+: name.toList := by
  rw [IsBelow, String.toList_append]
  rfl

/-- What lies below something that lies below a package lies below the package. -/
theorem IsBelow.trans {name mid package : String} (h : IsBelow name mid)
    (h' : IsBelow mid package) : IsBelow name package := by
  rw [isBelow_iff] at h h' ⊢
  exact h'.trans ((List.prefix_append _ _).trans h)

/-- A name behind a package and a dot lies below it. -/
theorem isBelow_append (package tail : String) : IsBelow (package ++ "." ++ tail) package := by
  rw [isBelow_iff]
  exact ⟨tail.toList, by simp [String.toList_append]⟩

/-- A name without dots lies below nothing. -/
theorem not_isBelow {name : String} (h : '.' ∉ name.toList) (package : String) :
    ¬ IsBelow name package := fun hbelow =>
  h ((isBelow_iff.mp hbelow).subset (by simp))

/-- No name lies below itself. -/
theorem IsBelow.ne {name package : String} (h : IsBelow name package) : name ≠ package := by
  rintro rfl
  have hlength := (isBelow_iff.mp h).length_le
  rw [List.length_append, List.length_singleton] at hlength
  omega

/-- Of the beginnings of a name that end at a dot, the one at the last dot is the longest. -/
theorem isBelow_append_iff {parent tail : String} (h : '.' ∉ tail.toList) {package : String} :
    IsBelow (parent ++ "." ++ tail) package ↔ package = parent ∨ IsBelow parent package := by
  refine ⟨fun hbelow => ?_, ?_⟩
  · have hparent := isBelow_iff.mp (isBelow_append parent tail)
    have hpackage := isBelow_iff.mp hbelow
    -- Both are beginnings of one name, so one is a beginning of the other.
    rcases List.prefix_or_prefix_of_prefix hpackage hparent with hshort | hlong
    · rcases List.prefix_concat_iff.mp hshort with heq | hshort
      · exact .inl (String.toList_inj.mp (List.append_cancel_right heq))
      · exact .inr (isBelow_iff.mpr hshort)
    · rcases List.prefix_concat_iff.mp hlong with heq | ⟨rest, hrest⟩
      · exact .inl (String.toList_inj.mp (List.append_cancel_right heq.symm))
      · -- The longer one would put a dot behind the last one.
        obtain ⟨more, hmore⟩ := hpackage
        refine absurd ?_ h
        have htail : tail.toList = rest ++ '.' :: more := by
          rw [← hrest] at hmore
          simpa [String.toList_append] using hmore.symm
        simp [htail]
  · rintro (rfl | hbelow)
    · exact isBelow_append package tail
    · exact (isBelow_append parent tail).trans hbelow

/-! ## What an import adds -/

/-- What is loaded in a session stays loaded in another one, and packages keep their directories. -/
structure Keeps (before after : Session) : Prop where
  length : before.modules.length ≤ after.modules.length
  search : ∀ handle < before.modules.length,
    (after.module handle).search = (before.module handle).search
  kept : ∀ {name handle}, before.handle? name = some handle → after.handle? name = some handle

/-- A module is loaded under a name and has no directories of submodules. -/
def IsLoadedFile (session : Session) (name : String) : Prop :=
  ∃ handle < session.modules.length, session.handle? name = some handle
    ∧ (session.module handle).search = none

/-- Between two sessions a module that was not loaded was looked for, made and executed without a
fault. -/
def CompletedBetween (host : Host SourceFile) (before after : Session) (name : String)
    (handle : Nat) : Prop :=
  ∃ depth parent tail start finish,
    Keeps before start ∧ start.handle? name = none
    ∧ loadModule host (importWithin host depth) parent name tail start = (.ok handle, finish)
    ∧ before.modules.length ≤ handle ∧ finish.modules.length ≤ after.modules.length

/-- What importing does to the table of a session. What is loaded stays loaded, and what is added
was executed without a fault. Below a module that is no package nothing is added, but below what was
there already. -/
structure Extends (host : Host SourceFile) (before after : Session) : Prop
    extends Keeps before after where
  added : ∀ {name handle}, before.handle? name = none → after.handle? name = some handle →
    CompletedBetween host before after name handle
  below : ∀ {package name}, IsLoadedFile before package → IsBelow name package →
    after.handle? name ≠ none →
    ∃ old, IsBelow old package ∧ before.handle? old ≠ none ∧ (old = name ∨ IsBelow name old)

variable {host : Host SourceFile} {before mid after session : Session}

/-- Sessions with the same table keep what is loaded. -/
theorem keeps_of_sameTable (h : SameTable before after) : Keeps before after :=
  ⟨h.length, h.search, fun {name handle} hname => by
    rw [Session.handle?, h.registered]
    exact hname⟩

/-- A session keeps what is loaded in it. -/
theorem Keeps.refl (session : Session) : Keeps session session := keeps_of_sameTable (.refl session)

/-- What is kept twice is kept. -/
theorem Keeps.trans (h : Keeps before mid) (h' : Keeps mid after) : Keeps before after where
  length := h.length.trans h'.length
  search handle hlt := (h'.search handle (hlt.trans_le h.length)).trans (h.search handle hlt)
  kept hname := h'.kept (h.kept hname)

/-- A file that is loaded stays one. -/
theorem Keeps.isLoadedFile {name : String} (h : Keeps before after)
    (hname : IsLoadedFile before name) : IsLoadedFile after name := by
  obtain ⟨handle, hlt, hloaded, hsearch⟩ := hname
  exact ⟨handle, hlt.trans_le h.length, h.kept hloaded, (h.search handle hlt).trans hsearch⟩

/-- What was completed between two sessions was completed between sessions further apart. -/
theorem CompletedBetween.mono {name : String} {handle : Nat} {first last : Session}
    (h : CompletedBetween host before after name handle) (hfirst : Keeps first before)
    (hlast : after.modules.length ≤ last.modules.length) :
    CompletedBetween host first last name handle := by
  obtain ⟨depth, parent, tail, start, finish, hstart, hnew, hload, hhandle, hfinish⟩ := h
  exact ⟨depth, parent, tail, start, finish, hfirst.trans hstart, hnew, hload,
    hfirst.length.trans hhandle, hfinish.trans hlast⟩

/-- What two imports after one another do to the table is what one could do. -/
theorem Extends.trans (h : Extends host before mid) (h' : Extends host mid after) :
    Extends host before after where
  toKeeps := h.toKeeps.trans h'.toKeeps
  added := by
    intro name handle hbefore hafter
    -- A name that is new at the end came in one of the two parts, and the second takes none away.
    cases hmid : mid.handle? name with
    | none => exact (h'.added hmid hafter).mono h.toKeeps le_rfl
    | some first =>
      obtain rfl : first = handle := Option.some.inj ((h'.kept hmid).symm.trans hafter)
      exact (h.added hbefore hmid).mono (.refl before) h'.length
  below := by
    intro package name hpackage hname hafter
    obtain ⟨middle, hmiddle, hmid, hwithin⟩ := h'.below (h.isLoadedFile hpackage) hname hafter
    obtain ⟨old, hold, hbefore, hbelow⟩ := h.below hpackage hmiddle hmid
    refine ⟨old, hold, hbefore, ?_⟩
    rcases hwithin with rfl | hwithin
    · exact hbelow
    · rcases hbelow with rfl | hbelow
      · exact .inr hwithin
      · exact .inr (hwithin.trans hbelow)

/-- Work that leaves the table as it is extends it by nothing. -/
theorem extends_of_sameTable (h : SameTable before after) : Extends host before after := by
  have hhandle (name : String) : after.handle? name = before.handle? name := by
    rw [Session.handle?, Session.handle?, h.registered]
  refine ⟨keeps_of_sameTable h, fun hbefore hafter => ?_, fun {package name} _ hname hafter => ?_⟩
  · rw [hhandle, hbefore] at hafter
    cases hafter
  · exact ⟨name, hname, hhandle name ▸ hafter, .inl rfl⟩

/-- Being extended is a frame, so it holds of everything that imports do. -/
theorem isFrame_extends (host : Host SourceFile) : IsFrame (Extends host) :=
  ⟨.trans, extends_of_sameTable⟩

/-! ## One module more -/

/-- A module that was just started is a loaded file, if it has no directories. -/
theorem isLoadedFile_started (session : Session) (name : String) {module : PluginModule}
    (h : module.search = none) : IsLoadedFile (started session name module) name := by
  refine ⟨session.modules.length, ?_, handle?_started_self session name module, ?_⟩
  · rw [length_started]
    omega
  · simpa [started, Session.register, Session.add, Session.module] using h

section

variable {name : String} {module : PluginModule} (hloaded : session.handle? name = none)

include hloaded

/-- A name that is loaded is not the one that is not. -/
theorem ne_of_handle? {other : String} {handle : Nat} (h : session.handle? other = some handle) :
    other ≠ name := by
  rintro rfl
  rw [hloaded] at h
  cases h

/-- A name that is not loaded can be registered without taking away another one. -/
theorem keeps_started (module : PluginModule) : Keeps session (started session name module) where
  length := by
    rw [length_started]
    omega
  search handle hlt := by rw [module_started hlt]
  kept h := (handle?_started_of_ne (ne_of_handle? hloaded h) session module).trans h

variable (hext : Extends host (started session name module) mid)
  (hold : ∀ package, IsLoadedFile session package → IsBelow name package →
    ∃ old, IsBelow old package ∧ session.handle? old ≠ none ∧ IsBelow name old)

include hext

/-- What was added since a module was started, other than the module, was completed since then. -/
theorem added_of_started {other : String} {handle : Nat} (hne : other ≠ name)
    (hbefore : session.handle? other = none) (hafter : mid.handle? other = some handle) :
    CompletedBetween host session mid other handle := by
  have hstarted := (handle?_started_of_ne hne session module).trans hbefore
  exact (hext.added hstarted hafter).mono (keeps_started hloaded module) le_rfl

include hold

/-- Below a file, what is loaded after a module was started was there before or lies below something
that was. -/
theorem below_of_started {package other : String} (hpackage : IsLoadedFile session package)
    (hother : IsBelow other package) (hmid : mid.handle? other ≠ none) :
    ∃ old, IsBelow old package ∧ session.handle? old ≠ none
      ∧ (old = other ∨ IsBelow other old) := by
  obtain ⟨middle, hmiddle, hstarted, hwithin⟩ :=
    hext.below ((keeps_started hloaded module).isLoadedFile hpackage) hother hmid
  -- What the execution had below the file from its start is the new module, or is older.
  by_cases hmiddleName : middle = name
  · subst hmiddleName
    obtain ⟨old, hbelow, hbefore, hname⟩ := hold package hpackage hmiddle
    refine ⟨old, hbelow, hbefore, .inr ?_⟩
    rcases hwithin with rfl | hwithin
    · exact hname
    · exact hwithin.trans hname
  · exact ⟨middle, hmiddle, handle?_started_of_ne hmiddleName session module ▸ hstarted, hwithin⟩

/-- When the execution of a module that was not loaded fails, what it imported is all that is added.
-/
theorem extends_of_failed : Extends host session (mid.unregister name) where
  length := (keeps_started hloaded module).length.trans hext.length
  search := ((keeps_started hloaded module).trans hext.toKeeps).search
  kept h := (Session.handle?_unregister_of_ne mid (ne_of_handle? hloaded h)).trans
    (((keeps_started hloaded module).trans hext.toKeeps).kept h)
  added := by
    intro other handle hbefore hafter
    have hne : other ≠ name := by
      rintro rfl
      rw [Session.handle?_unregister_self] at hafter
      cases hafter
    rw [Session.handle?_unregister_of_ne mid hne] at hafter
    exact added_of_started hloaded hext hne hbefore hafter
  below := by
    intro package other hpackage hother hafter
    refine below_of_started hloaded hext hold hpackage hother fun hmid => hafter ?_
    by_cases hne : other = name
    · rw [hne, Session.handle?_unregister_self]
    · rw [Session.handle?_unregister_of_ne mid hne, hmid]

/-- When it is completed, the module itself is added too. -/
theorem extends_of_completed
    (hcompleted : CompletedBetween host session mid name session.modules.length) :
    Extends host session mid where
  toKeeps := (keeps_started hloaded module).trans hext.toKeeps
  added := by
    intro other handle hbefore hafter
    by_cases hne : other = name
    · subst hne
      have hself := hext.kept (handle?_started_self session other module)
      obtain rfl : session.modules.length = handle := Option.some.inj (hself.symm.trans hafter)
      exact hcompleted
    · exact added_of_started hloaded hext hne hbefore hafter
  below := below_of_started hloaded hext hold

end

/-! ## Loading one module -/

/-- Where a module is loaded: at the top, or within a package that is loaded under its own name. -/
inductive LiesWithin (session : Session) : Option Nat → (name tail : String) → Prop
  | top {name : String} (hname : '.' ∉ name.toList) : LiesWithin session none name name
  | package {package tail : String} {handle : Nat} (htail : '.' ∉ tail.toList)
      (hpackage : session.handle? package = some handle) :
      LiesWithin session (some handle) (package ++ "." ++ tail) tail

/-- A module within a package that is below a file was loaded below what is below that file. -/
theorem LiesWithin.old_of_isBelow {parent : Option Nat} {name tail : String}
    (h : LiesWithin session parent name tail)
    (hparent : ∀ handle, parent = some handle → (session.module handle).search ≠ none)
    {package : String} (hpackage : IsLoadedFile session package) (hname : IsBelow name package) :
    ∃ old, IsBelow old package ∧ session.handle? old ≠ none ∧ IsBelow name old := by
  cases h with
  | top hdot => exact absurd hname (not_isBelow hdot package)
  | @package parent tail handle htail hloaded =>
    rcases (isBelow_append_iff htail).mp hname with rfl | hbelow
    · obtain ⟨file, -, hfile, hsearch⟩ := hpackage
      -- The file is no package, so nothing is found in it.
      obtain rfl : handle = file := Option.some.inj (hloaded.symm.trans hfile)
      exact absurd hsearch (hparent handle rfl)
    · exact ⟨parent, hbelow, by simp [hloaded], isBelow_append parent tail⟩

/-- Loading a module under a name leads from a session to a result: it only adds to the session, and
the module that it ends with is loaded under that name. -/
structure Loads (host : Host SourceFile) (name : String) (session : Session)
    (result : Except Fault Nat × Session) : Prop where
  grows : Extends host session result.2
  loaded : ∀ handle, result.1 = .ok handle → result.2.handle? name = some handle

/-- A load that fails only has to extend the session. -/
theorem Loads.of_error {name : String} {fault : Fault} (h : Extends host session after) :
    Loads host name session (.error fault, after) :=
  ⟨h, by simp⟩

/-- A load that ends with a module has to leave it loaded, too. -/
theorem Loads.of_ok {name : String} {handle : Nat} (h : Extends host session after)
    (hloaded : after.handle? name = some handle) : Loads host name session (.ok handle, after) :=
  ⟨h, by rintro _ ⟨⟩; exact hloaded⟩

/-- Loading a module that is not loaded adds it and what it imports. -/
theorem loads_loadModule {depth : Nat}
    (himporter : ∀ name, Steps (Extends host) (importWithin host depth name)) {parent : Option Nat}
    {name tail : String} (hloaded : session.handle? name = none)
    (hlies : LiesWithin session parent name tail) :
    Loads host name session
      (loadModule host (importWithin host depth) parent name tail session) := by
  rcases loadModule_apply host (importWithin host depth) parent name tail session with
    ⟨fault, hload⟩ | ⟨hparent, module, execution, hexecution, hload⟩
  · rw [hload]
    exact .of_error ((isFrame_extends host).refl session)
  have hsteps : Steps (Extends host) execution := by
    rcases hexecution with rfl | ⟨path, rfl⟩
    · exact steps_pure (isFrame_extends host) ()
    · exact steps_runFile (isFrame_extends host) himporter host _ path
  have hext := hsteps (started session name module)
  have hold (package : String) (hpackage : IsLoadedFile session package) :=
    hlies.old_of_isBelow hparent hpackage
  generalize execution (started session name module) = result at hload hext
  obtain ⟨result, mid⟩ := result
  cases result with
  | error fault =>
    rw [hload]
    exact .of_error (extends_of_failed hloaded hext hold)
  | ok _ =>
    obtain ⟨after, hbind, hsame⟩ := bindWithin_apply parent tail session.modules.length mid
    replace hload := hload.trans hbind
    have hgrows := hext.trans (extends_of_sameTable hsame)
    -- The module itself is among what was completed since the session.
    have hcompleted : CompletedBetween host session after name session.modules.length :=
      ⟨depth, parent, tail, session, after, .refl session, hloaded, hload, le_rfl, le_rfl⟩
    rw [hload]
    exact .of_ok (extends_of_completed hloaded hgrows hold hcompleted)
      (hgrows.kept (handle?_started_self session name module))

/-! ## Importing a name -/

/-- Importing the parts of a name loads the module of that name, by induction on the parts. -/
theorem loads_importParts {depth : Nat}
    (himporter : ∀ name, Steps (Extends host) (importWithin host depth name)) {parts : List String}
    (hparts : ∀ part ∈ parts, '.' ∉ part.toList) (session : Session) :
    Loads host (dotted parts) session
      (importParts host (importWithin host depth) parts session) := by
  induction parts generalizing session with
  | nil => exact .of_error ((isFrame_extends host).refl session)
  | cons tail parents ih =>
    obtain ⟨htail, hparents⟩ := List.forall_mem_cons.mp hparts
    cases hloaded : session.handle? (dotted (tail :: parents)) with
    | some handle =>
      rw [importParts_of_loaded (List.cons_ne_nil tail parents) hloaded]
      exact .of_ok ((isFrame_extends host).refl session) hloaded
    | none =>
      by_cases hne : parents = []
      · subst hne
        rw [dotted_singleton] at hloaded ⊢
        rw [importParts_singleton hloaded]
        exact loads_loadModule himporter hloaded (.top htail)
      rw [importParts_cons hne hloaded]
      -- The package comes first, and its execution may import the module itself.
      have hpackage := ih hparents session
      generalize importParts host (importWithin host depth) parents session = result at hpackage
      obtain ⟨result, mid⟩ := result
      cases result with
      | error fault => exact .of_error hpackage.grows
      | ok package =>
        dsimp only
        cases hfound : mid.handle? (dotted (tail :: parents)) with
        | some handle => exact .of_ok hpackage.grows hfound
        | none =>
          have hlies : LiesWithin mid (some package) (dotted (tail :: parents)) tail := by
            rw [dotted_cons tail hne]
            exact .package htail (hpackage.loaded package rfl)
          have hload := loads_loadModule himporter hfound hlies
          exact ⟨hpackage.grows.trans hload.grows, hload.loaded⟩

/-- An import only ever adds to the table what was executed without a fault. -/
theorem extends_importWithin (host : Host SourceFile) (depth : Nat) (name : String) :
    Steps (Extends host) (importWithin host depth name) := by
  -- On the depth: what a module imports is imported one level deeper.
  induction depth generalizing name with
  | zero => exact steps_throw (isFrame_extends host) _
  | succ depth ih =>
    intro session
    refine (loads_importParts ih (fun part hpart => ?_) session).grows
    rw [reversedParts, List.mem_reverse] at hpart
    obtain ⟨piece, hpiece, rfl⟩ := List.mem_map.mp hpart
    simpa using Text.not_mem_of_mem_splitAt hpiece

end WorkspaceLint.Plugin
