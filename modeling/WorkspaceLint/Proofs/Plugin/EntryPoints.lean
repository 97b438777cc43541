import WorkspaceLint.Proofs.Plugin.Classification
import WorkspaceLint.Proofs.Plugin.Rollback

/-!
# Entry points that cannot be loaded

An entry point is written as the dotted name of a module, and perhaps an attribute behind a colon.
Its whole text is taken for what the user refers to. So a module that was not found counts as the
plugin if it is a package that the module of the entry point lies in; but that module itself does so
only where no attribute is written behind it.

* `loadEntries_append`     — the first entry point that cannot be loaded ends the loading.
* `readsAs_entryText_iff`  — the names that the text of an entry point reads as.
* `lost_entry_kind`        — what is told of an entry point for which a module was not found.
-/

namespace WorkspaceLint.Plugin

open LoadFailure

/-! ## The text of an entry point -/

/-- The text of an entry point for a module, the parts of whose name are given from the last to the
first, or for an attribute of it. -/
def entryText (parts : List String) : Option String → String
  | none => dotted parts
  | some member => dotted parts ++ ":" ++ member

/-- Parts that make the name of a module. -/
structure IsModuleName (parts : List String) : Prop where
  ne_nil : parts ≠ []
  words : ∀ part ∈ parts, part ≠ "" ∧ '.' ∉ part.toList

namespace IsModuleName

variable {parts package : List String}

/-- The parts of a name are read back from its dotted form. -/
theorem reversedParts_dotted (h : IsModuleName parts) : reversedParts (dotted parts) = parts :=
  Plugin.reversedParts_dotted (fun part hpart => (h.words part hpart).2) h.ne_nil

/-- The package that a module lies in has a name too. -/
theorem of_suffix (h : IsModuleName parts) (hsuffix : package <:+ parts) (hne : package ≠ []) :
    IsModuleName package :=
  ⟨hne, fun part hpart => h.words part (hsuffix.subset hpart)⟩

/-- A dotted name is not empty. -/
theorem dotted_ne_empty (h : IsModuleName parts) : dotted parts ≠ "" := by
  intro hempty
  have hparts := h.reversedParts_dotted
  rw [hempty] at hparts
  have hpart : "" ∈ parts := by
    rw [← hparts]
    decide +kernel
  exact (h.words "" hpart).1 rfl

/-- A module name tells its parts. -/
theorem dotted_injective (h : IsModuleName parts) (h' : IsModuleName package)
    (heq : dotted parts = dotted package) : parts = package := by
  rw [← h.reversedParts_dotted, heq, h'.reversedParts_dotted]

end IsModuleName

variable {parts : List String} {member : Option String} {missing : String}

/-- What stands before a dot in the text of an entry point, without a colon, stands before a dot in
the name of the module. -/
theorem exists_dotted_eq {rest : String} (hcolon : ':' ∉ missing.toList)
    (h : entryText parts member = missing ++ "." ++ rest) :
    ∃ rest, dotted parts = missing ++ "." ++ rest := by
  cases member with
  | none => exact ⟨rest, h⟩
  | some member =>
    have hlists : (dotted parts).toList ++ ':' :: member.toList
        = missing.toList ++ '.' :: rest.toList := by
      have htext := congrArg String.toList h
      simpa [entryText, String.toList_append] using htext
    -- The colon of the entry stands behind the dot, since the missing name has none.
    rcases List.append_eq_append_iff.mp hlists with
      ⟨between, hmissing, hrest⟩ | ⟨between, hname, hrest⟩
    · cases between with
      | nil => cases hrest
      | cons c between =>
        obtain rfl : ':' = c := (List.cons.inj hrest).1
        exact absurd (hmissing ▸ List.mem_append_right _ List.mem_cons_self) hcolon
    · cases between with
      | nil => cases hrest
      | cons c between =>
        obtain rfl : '.' = c := (List.cons.inj hrest).1
        refine ⟨String.ofList between, ?_⟩
        rw [← String.toList_inj, hname]
        simp [String.toList_append]

/-- The text of an entry point reads as the packages that the module lies in, and as the module
itself if nothing is written behind it. -/
theorem readsAs_entryText_iff (hname : IsModuleName parts) (hcolon : ':' ∉ missing.toList) :
    ReadsAs (entryText parts member) missing
      ↔ ∃ package, package <:+ parts ∧ package ≠ [] ∧ missing = dotted package
        ∧ ¬ (package = parts ∧ member.isSome) := by
  constructor
  · rintro ⟨-, heq | ⟨rest, heq⟩⟩
    · cases member with
      | none => exact ⟨parts, List.suffix_refl _, hname.ne_nil, heq.symm, by simp⟩
      | some member =>
        refine absurd ?_ hcolon
        rw [← heq, entryText]
        simp [String.toList_append]
    · obtain ⟨rest, hdotted⟩ := exists_dotted_eq hcolon heq
      -- Behind the missing name stands at least one more part of the module.
      have hparts : parts = reversedParts rest ++ reversedParts missing := by
        rw [← hname.reversedParts_dotted, hdotted, reversedParts_append]
      refine ⟨reversedParts missing, ⟨_, hparts.symm⟩, reversedParts_ne_nil missing,
        (dotted_reversedParts missing).symm, fun hall => reversedParts_ne_nil rest ?_⟩
      rw [hall.1] at hparts
      exact List.self_eq_append_left.mp hparts
  · rintro ⟨package, hsuffix, hne, rfl, hproper⟩
    have hpackage := hname.of_suffix hsuffix hne
    refine ⟨hpackage.dotted_ne_empty, ?_⟩
    rcases isWithin_iff.mp (isWithin_of_suffix hsuffix hne) with heq | ⟨rest, heq⟩
    · obtain rfl := hname.dotted_injective hpackage heq
      cases member with
      | none => exact .inl rfl
      | some member => exact absurd ⟨rfl, rfl⟩ hproper
    · right
      cases member with
      | none => exact ⟨rest, heq⟩
      | some member =>
        refine ⟨rest ++ ":" ++ member, ?_⟩
        rw [entryText, heq]
        simp only [String.append_assoc]

/-! ## Loading entry points -/

variable {host : Host SourceFile} {session mid after : Session} {objects : List PluginObject}
  {fault : Fault} {before : List EntryPoint} {entry : EntryPoint}

/-- The first entry point that cannot be loaded ends the loading with its fault, as it is told for
its text. -/
theorem loadEntries_append (hbefore : loadEntries host before session = (.ok objects, mid))
    (hfails : loadTarget host entry.target mid = (.error fault, after)) (rest : List EntryPoint) :
    loadEntries host (before ++ entry :: rest) session
      = (.error (loadFault entry.reference fault), after) := by
  induction before generalizing session objects with
  | nil =>
    cases hbefore
    rw [List.nil_append, loadEntries, bind_apply, told, hfails]
  | cons first before ih =>
    rw [loadEntries, bind_apply] at hbefore
    rw [List.cons_append, loadEntries, bind_apply]
    -- What is before the entry is loaded all the same.
    generalize told first.reference (loadTarget host first.target) session = loaded at hbefore ⊢
    obtain ⟨_ | object, reached⟩ := loaded
    · cases hbefore
    · dsimp only at hbefore ⊢
      rw [bind_apply] at hbefore ⊢
      cases hrest : loadEntries host before reached with
      | mk result last =>
        rw [hrest] at hbefore
        cases result with
        | error fault => cases hbefore
        | ok others =>
          cases hbefore
          rw [ih hrest]

/-- **The kind of a failure to load an entry point for which a module was not found.** The entry
point is told to be missing if the module that was not found is a package that its module lies in,
or its module itself with no attribute written behind it. It is told not to fit if that is its
module with an attribute written behind it, or any other module. No name of a module holds a
colon. -/
theorem lost_entry_kind {installed : Installed} {rest : List EntryPoint}
    (hselect : installed.select checkerGroup = before ++ entry :: rest)
    (hbefore : loadEntries host before session = (.ok objects, mid))
    (hfails : loadTarget host entry.target mid = (.error fault, after))
    (hraisable : fault.IsRaisable) (hnotFound : fault.isA "ModuleNotFoundError" = true)
    (hmissing : fault.importName = some missing) (hcolon : ':' ∉ missing.toList)
    (hname : IsModuleName parts) (hreference : entry.reference = entryText parts member) :
    let result := loadEntries host (installed.select checkerGroup) session
    (∀ package, package <:+ parts → package ≠ [] → missing = dotted package →
      ¬ (package = parts ∧ member.isSome) →
      result = (.error (.failure ⟨.missing, entry.reference⟩), after))
    ∧ (missing = dotted parts → member.isSome →
      result = (.error (.failure ⟨.incompatible, entry.reference⟩), after))
    ∧ ((∀ package, package <:+ parts → package ≠ [] → missing ≠ dotted package) →
      result = (.error (.failure ⟨.incompatible, entry.reference⟩), after)) := by
  intro result
  have hresult : result = (.error (loadFault entry.reference fault), after) := by
    change loadEntries host (installed.select checkerGroup) session = _
    rw [hselect, loadEntries_append hbefore hfails rest]
  -- What decides is whether the reference of the entry reads as the missing name.
  have hother (hreads : ¬ ReadsAs entry.reference missing) :
      result = (.error (.failure ⟨.incompatible, entry.reference⟩), after) := by
    rw [hresult, loadFault_of_not_readsAs hraisable hnotFound]
    intro name hname
    rwa [← Option.some.inj (hmissing.symm.trans hname)]
  rw [hreference, readsAs_entryText_iff hname hcolon, ← hreference] at hother
  refine ⟨fun package hsuffix hne heq hproper => ?_, fun heq hmember => hother ?_,
    fun hnone => hother ?_⟩
  · have hreads : ReadsAs entry.reference missing := by
      rw [hreference, readsAs_entryText_iff hname hcolon]
      exact ⟨package, hsuffix, hne, heq, hproper⟩
    rw [hresult, loadFault_of_readsAs hraisable hnotFound hmissing hreads]
  · rintro ⟨package, hsuffix, hne, hpackage, hproper⟩
    have hparts : parts = package :=
      hname.dotted_injective (hname.of_suffix hsuffix hne) (heq.symm.trans hpackage)
    exact hproper ⟨hparts.symm, hmember⟩
  · rintro ⟨package, hsuffix, hne, heq, -⟩
    exact hnone package hsuffix hne heq

/-! ### An attribute of a module of a package -/

/-- The entry points of a single distribution, which lead to a fault. -/
def failingEntry (reference : String) (fault : Fault) : Installed :=
  ⟨checkerGroup, false, [⟨reference, .raise fault⟩]⟩

/-- The module that the entry point is about has a name. -/
theorem isModuleName_rules : IsModuleName ["rules", "acme"] := ⟨by decide, by decide⟩

/-- The text of the entry point. -/
theorem entryText_rules : "acme.rules:Naming" = entryText ["rules", "acme"] (some "Naming") := by
  decide +kernel

/-- A target that raises a fault ends with it. -/
theorem loadTarget_raise (fault : Fault) (session : Session) :
    loadTarget host (.raise fault) session = (.error fault, session) := rfl

/-- The package is not there, and neither is the entry point. -/
theorem lost_package_is_missing :
    (loadEntries bareHost
        ((failingEntry "acme.rules:Naming" (moduleNotFound "acme" "")).select checkerGroup)
        emptySession).1
      = .error (.failure ⟨.missing, "acme.rules:Naming"⟩) := by
  let entry : EntryPoint := ⟨"acme.rules:Naming", .raise (moduleNotFound "acme" "")⟩
  have hselect : (failingEntry "acme.rules:Naming" (moduleNotFound "acme" "")).select checkerGroup
      = [] ++ entry :: [] := rfl
  have hbefore : loadEntries bareHost [] emptySession = (.ok [], emptySession) := rfl
  have hfails : loadTarget bareHost entry.target emptySession
      = (.error (moduleNotFound "acme" ""), emptySession) := loadTarget_raise _ _
  have hkind := lost_entry_kind hselect hbefore hfails (isRaisable_moduleNotFound _ _)
    (isA_moduleNotFound _ _) (show _ = some "acme" from rfl) (by decide) isModuleName_rules
    entryText_rules
  exact congrArg Prod.fst (hkind.1 ["acme"] (by decide) (by decide) (by decide +kernel) (by decide))

/-- The module is not there, but the entry point is told not to fit, because an attribute of the
module is written behind its name. -/
theorem lost_module_is_incompatible :
    (moduleNotFound "acme.rules" "").isA "ModuleNotFoundError" = true
    ∧ (moduleNotFound "acme.rules" "").importName = some (dotted ["rules", "acme"])
    ∧ "acme.rules:Naming" = entryText ["rules", "acme"] (some "Naming")
    ∧ (loadEntries bareHost
        ((failingEntry "acme.rules:Naming" (moduleNotFound "acme.rules" "")).select checkerGroup)
        emptySession).1
      = .error (.failure ⟨.incompatible, "acme.rules:Naming"⟩) := by
  have hdotted : "acme.rules" = dotted ["rules", "acme"] := by decide +kernel
  have hnames : LoadFailure.namesArtifact (moduleNotFound "acme.rules" "").importName
      "acme.rules:Naming" = false := by decide +kernel
  have hbefore : loadEntries bareHost [] emptySession = (.ok [], emptySession) := rfl
  let entry : EntryPoint := ⟨"acme.rules:Naming", .raise (moduleNotFound "acme.rules" "")⟩
  have hload : loadEntries bareHost ([] ++ entry :: []) emptySession
      = (.error (loadFault "acme.rules:Naming" (moduleNotFound "acme.rules" "")), emptySession) :=
    loadEntries_append hbefore (loadTarget_raise _ _) []
  rw [loadFault_of_notFound (isRaisable_moduleNotFound _ _) (isA_moduleNotFound _ _), hnames]
    at hload
  exact ⟨isA_moduleNotFound _ _, congrArg some hdotted, entryText_rules, congrArg Prod.fst hload⟩

end WorkspaceLint.Plugin
