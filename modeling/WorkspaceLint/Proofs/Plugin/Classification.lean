import WorkspaceLint.Proofs.Fault.Lineage
import WorkspaceLint.Proofs.Plugin.Absence

/-!
# Modules that were not found

Whether a module that was not found counts as the plugin is told by the name of the module and the
text by which the user refers to the plugin, and by nothing else: the plugin counts as missing where
the text reads as the name of the module or of one below it, `ReadsAs`. That the module was not
found is not confused with another fault, because no fault belongs to the classes of both.

* `loadFault_of_notFound` — a module that was not found.
* `not_readsAs_of_slash`  — texts that read as no name of a module.
-/

namespace WorkspaceLint

namespace LoadFailure

variable {artifact name : String}

/-- A text reads as the name of a module or of one that lies below it. -/
def ReadsAs (artifact name : String) : Prop :=
  name ≠ "" ∧ (artifact = name ∨ ∃ rest, artifact = name ++ "." ++ rest)

/-- A text is within a name if it is the name, or goes on behind it with a dot. -/
theorem isWithin_iff :
    isWithin artifact name = true ↔ artifact = name ∨ ∃ rest, artifact = name ++ "." ++ rest := by
  rw [isWithin, Bool.or_eq_true, decide_eq_true_iff, Text.toList_isPrefixOf_iff]

/-- The name of a missing module names the artifact if and only if it has a name as which the
artifact reads. -/
theorem namesArtifact_iff {notFound : Option String} :
    namesArtifact notFound artifact = true
      ↔ ∃ name, notFound = some name ∧ ReadsAs artifact name := by
  cases notFound with
  | none => simp [namesArtifact]
  | some name => simp [namesArtifact, ReadsAs, isWithin_iff]

/-- What is taken up to the first separator lies in front of any of them. -/
theorem takeWhile_append_subset {α : Type} {p : α → Bool} {separator : α}
    (h : p separator = false) (text rest : List α) :
    (text ++ separator :: rest).takeWhile p ⊆ text := by
  rw [List.takeWhile_append]
  split
  · rw [List.takeWhile_cons_of_neg (by simp [h]), List.append_nil]
    exact List.Subset.refl _
  · exact (List.takeWhile_prefix p).subset

/-- A slash before the first dot of a text keeps it from reading as a name without a slash. -/
theorem not_readsAs_of_slash (hslash : '/' ∈ artifact.toList.takeWhile (· ≠ '.'))
    (hname : '/' ∉ name.toList) : ¬ ReadsAs artifact name := by
  rintro ⟨-, rfl | ⟨rest, rfl⟩⟩
  · exact hname ((List.takeWhile_prefix _).subset hslash)
  · have htext : (name ++ "." ++ rest).toList = name.toList ++ '.' :: rest.toList := by
      simp [String.toList_append]
    rw [htext] at hslash
    exact hname (takeWhile_append_subset rfl _ _ hslash)

/-! ## The class of the fault -/

variable {fault : Fault}

/-- No fault of a module that was not found is one of a file, or one of source text. -/
theorem kindOf_of_notFound (hline : Fault.IsLine fault.ancestors)
    (h : fault.isA "ModuleNotFoundError" = true) : kindOf fault artifact
      = some (if namesArtifact fault.importName artifact then .missing else .incompatible) := by
  have hmem : "ModuleNotFoundError" ∈ fault.ancestors := List.contains_iff_mem.mp h
  have himport : "ImportError" ∈ fault.ancestors :=
    hline.upward ("ModuleNotFoundError", "ImportError") (by decide +kernel) hmem
  -- A class keeps the data of one built-in class at most, here those of an import.
  have hnot {holder : String} (hholder : holder ∈ Fault.holders) (hne : holder ≠ "ImportError") :
      holder ∉ fault.ancestors := fun hother =>
    hne (hline.oneHolder _ hother _ himport hholder (by decide +kernel))
  have hsystem : "OSError" ∉ fault.ancestors := hnot (by decide +kernel) (by decide)
  have hisA {className : String} (hnone : className ∉ fault.ancestors) :
      fault.isA className = false := by
    rw [Fault.isA, Bool.eq_false_iff, ne_eq, List.contains_iff_mem]
    exact hnone
  have hfile {className : String} (hparent : (className, "OSError") ∈ Fault.parents) :
      fault.isA className = false := hisA fun hclass => hsystem (hline.upward _ hparent hclass)
  have hmissing : fault.isAnyOf missingClasses = false := by
    simp only [Fault.isAnyOf, missingClasses, List.any_cons, List.any_nil, Bool.or_false]
    rw [hfile (by decide +kernel), hfile (by decide +kernel), hfile (by decide +kernel)]
    rfl
  have hmalformed : fault.isAnyOf malformedClasses = false := by
    simp only [Fault.isAnyOf, malformedClasses, List.any_cons, List.any_nil, Bool.or_false]
    rw [hisA (hnot (by decide +kernel) (by decide)), hisA (hnot (by decide +kernel) (by decide))]
    rfl
  have himported : fault.isA "ImportError" = true := List.contains_iff_mem.mpr himport
  rw [kindOf, hmissing, hfile (by decide +kernel), hmalformed, h, himported]
  cases namesArtifact fault.importName artifact <;> rfl

/-- A module that is not found is an ordinary fault, as all fault with that class on their line
are. -/
theorem isOrdinary_of_notFound (hline : Fault.IsLine fault.ancestors)
    (h : fault.isA "ModuleNotFoundError" = true) : fault.isOrdinary = true := by
  have himport := hline.upward ("ModuleNotFoundError", "ImportError") (by decide +kernel)
    (List.contains_iff_mem.mp h)
  exact List.contains_iff_mem.mpr
    (hline.upward ("ImportError", "Exception") (by decide +kernel) himport)

end LoadFailure

namespace Plugin

open LoadFailure

variable {artifact : String} {fault : Fault}

/-- The fault of a module that is not found can be raised. -/
theorem isRaisable_moduleNotFound (name reason : String) :
    (moduleNotFound name reason).IsRaisable :=
  .standard _ _ _

/-- It is what its name says. -/
theorem isA_moduleNotFound (name reason : String) :
    (moduleNotFound name reason).isA "ModuleNotFoundError" = true := by
  have hline : "ModuleNotFoundError" ∈ Fault.lineage "ModuleNotFoundError" := by decide +kernel
  exact List.contains_iff_mem.mpr hline

/-- The failure of a module that was not found is told from its name and the text of the
artifact. -/
theorem loadFault_of_notFound (hraisable : fault.IsRaisable)
    (h : fault.isA "ModuleNotFoundError" = true) : loadFault artifact fault
      = .failure ⟨if namesArtifact fault.importName artifact then .missing else .incompatible,
          artifact⟩ := by
  rw [loadFault, isOrdinary_of_notFound hraisable.isLine h, classify,
    kindOf_of_notFound hraisable.isLine h]
  rfl

/-- A module that is not found is told as missing when the artifact reads as its name. -/
theorem loadFault_of_readsAs {name : String} (hraisable : fault.IsRaisable)
    (h : fault.isA "ModuleNotFoundError" = true) (hname : fault.importName = some name)
    (hreads : ReadsAs artifact name) :
    loadFault artifact fault = .failure ⟨.missing, artifact⟩ := by
  rw [loadFault_of_notFound hraisable h, if_pos (namesArtifact_iff.mpr ⟨name, hname, hreads⟩)]

/-- It is told as incompatible when the artifact reads as no name that the fault has. -/
theorem loadFault_of_not_readsAs (hraisable : fault.IsRaisable)
    (h : fault.isA "ModuleNotFoundError" = true)
    (hreads : ∀ name, fault.importName = some name → ¬ ReadsAs artifact name) :
    loadFault artifact fault = .failure ⟨.incompatible, artifact⟩ := by
  rw [loadFault_of_notFound hraisable h, if_neg]
  intro hnames
  obtain ⟨name, hname, hartifact⟩ := namesArtifact_iff.mp hnames
  exact hreads name hname hartifact

end Plugin

end WorkspaceLint
