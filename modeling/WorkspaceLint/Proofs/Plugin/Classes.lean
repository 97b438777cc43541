import WorkspaceLint.Plugin.Object

/-!
# Classes of checkers

A class records of what it inherits only what matters for making checkers of it: whether it is a
class of checkers at all, and which methods it leaves open. Here both are read off from how the
class came about, definition by definition.

* `IsMade.isChecker_iff` — a class of checkers comes down from the class of all checkers.
* `IsMade.mem_openMethods_iff` — a method stays open until a definition on the way defines it.
* `isConcreteChecker_define`, `IsMade.isConcreteChecker_iff` — which classes checkers can be made
  of.
-/

namespace WorkspaceLint.PluginClass

/-! ## How a class came about -/

/-- A class that was there before any plugin, or was defined, with a number of its own, with such a
class for its base. -/
inductive IsMade : PluginClass → Prop
  | checker : IsMade .checker
  | given (owner name : String) : IsMade (.given owner name)
  | define {base : PluginClass} (hbase : IsMade base) {number : Nat} (hnumber : number ≠ givenNumber)
      (owner : Value) (definition : ClassDefinition) : IsMade (.define number owner base definition)

/-- A class refines the class of all checkers, by itself or by its base. -/
inductive RefinesChecker : PluginClass → Prop
  | checker : RefinesChecker .checker
  | define {base : PluginClass} (hbase : RefinesChecker base) (number : Nat) (owner : Value)
      (definition : ClassDefinition) : RefinesChecker (.define number owner base definition)

/-- A method of a class of checkers is open: it is in the class of all checkers, it is where a
definition declares it to be so, and it stays open in a definition that does not define it. -/
inductive LeavesOpen : PluginClass → String → Prop
  | checker : LeavesOpen .checker checkMethod
  | declared {base : PluginClass} (hbase : RefinesChecker base) (number : Nat) (owner : Value)
      {definition : ClassDefinition} {method : String}
      (hdeclared : method ∈ definition.abstractMethods)
      (hdefined : method ∉ definedMethods definition) :
      LeavesOpen (.define number owner base definition) method
  | inherited {base : PluginClass} {method : String} (hbase : LeavesOpen base method) (number : Nat)
      (owner : Value) {definition : ClassDefinition}
      (hdefined : method ∉ definedMethods definition) :
      LeavesOpen (.define number owner base definition) method

/-- A class that checkers can be made of: it comes down from the class of all checkers, is not that
class itself, and leaves nothing open. -/
structure IsConcrete (type : PluginClass) : Prop where
  refines : type.RefinesChecker
  proper : type ≠ .checker
  closed : ∀ method, ¬ type.LeavesOpen method

/-! ## What a class records of it -/

variable {type : PluginClass}

/-- A class that refines the checker is marked as a checker. -/
theorem RefinesChecker.isChecker (h : type.RefinesChecker) : type.isChecker = true := by
  induction h with
  | checker => rfl
  | define _ _ _ _ ih => exact ih

/-- Of a class that can be made, the mark says no more than that. -/
theorem IsMade.isChecker_iff (h : type.IsMade) : type.isChecker = true ↔ type.RefinesChecker := by
  refine ⟨fun hchecker => ?_, RefinesChecker.isChecker⟩
  induction h with
  | checker => exact .checker
  | given owner name => exact absurd hchecker Bool.false_ne_true
  | define _ _ owner definition ih => exact .define (ih hchecker) _ owner definition

/-- A method is open in a new class if it was open in its base or is declared abstract, and is not
defined. -/
theorem mem_openMethodsOf_iff {base : PluginClass} {definition : ClassDefinition}
    {method : String} : method ∈ openMethodsOf base definition
      ↔ base.isChecker = true ∧ (method ∈ base.openMethods ∨ method ∈ definition.abstractMethods)
        ∧ method ∉ definedMethods definition := by
  unfold openMethodsOf
  cases base.isChecker <;> simp

/-- A class leaves nothing open that it defines, if it declares nothing to be open itself. -/
theorem openMethodsOf_eq_nil {base : PluginClass} {definition : ClassDefinition}
    (hdefined : ∀ method ∈ base.openMethods, method ∈ definedMethods definition)
    (habstract : definition.abstractMethods = []) : openMethodsOf base definition = [] := by
  refine List.eq_nil_iff_forall_not_mem.mpr fun method hmem => ?_
  obtain ⟨-, hopen | hdeclared, hnot⟩ := mem_openMethodsOf_iff.mp hmem
  · exact hnot (hdefined method hopen)
  · rw [habstract] at hdeclared
    exact List.not_mem_nil hdeclared

/-- A class with a check leaves nothing open unless its definition says so. -/
theorem openMethodsOf_checker_eq_nil {definition : ClassDefinition}
    (hscript : definition.script.isSome = true) (habstract : definition.abstractMethods = []) :
    openMethodsOf .checker definition = [] := by
  refine openMethodsOf_eq_nil (fun method hopen => ?_) habstract
  obtain rfl := List.mem_singleton.mp hopen
  simp [definedMethods, hscript]

/-- A checker with a script and without abstract methods is concrete. -/
theorem isConcreteChecker_define {definition : ClassDefinition}
    (hscript : definition.script.isSome = true) (habstract : definition.abstractMethods = [])
    {number : Nat} (hnumber : number ≠ givenNumber) (owner : Value) :
    (define number owner .checker definition).isConcreteChecker = true := by
  change (true && number != givenNumber && (openMethodsOf .checker definition).isEmpty) = true
  rw [openMethodsOf_checker_eq_nil hscript habstract, bne_iff_ne.mpr hnumber]
  rfl

/-- Only a class that refines the checker leaves a method open. -/
theorem LeavesOpen.refinesChecker {method : String} (h : type.LeavesOpen method) :
    type.RefinesChecker := by
  induction h with
  | checker => exact .checker
  | declared hbase _ _ _ _ => exact .define hbase _ _ _
  | inherited _ _ _ _ ih => exact .define ih _ _ _

/-- A method that is left open is among the open ones. -/
theorem LeavesOpen.mem_openMethods {method : String} (h : type.LeavesOpen method) :
    method ∈ type.openMethods := by
  induction h with
  | checker => exact List.mem_singleton.mpr rfl
  | declared hbase _ _ hdeclared hdefined =>
    exact mem_openMethodsOf_iff.mpr ⟨hbase.isChecker, .inr hdeclared, hdefined⟩
  | inherited hbase _ _ hdefined ih =>
    exact mem_openMethodsOf_iff.mpr ⟨hbase.refinesChecker.isChecker, .inl ih, hdefined⟩

/-- The open methods of a class that can be made are those that it leaves open. -/
theorem IsMade.mem_openMethods_iff (h : type.IsMade) {method : String} :
    method ∈ type.openMethods ↔ type.LeavesOpen method := by
  refine ⟨fun hopen => ?_, LeavesOpen.mem_openMethods⟩
  induction h with
  | checker =>
    obtain rfl := List.mem_singleton.mp hopen
    exact .checker
  | given owner name => exact absurd hopen List.not_mem_nil
  | define hbase _ owner definition ih =>
    obtain ⟨hchecker, hmethod | hdeclared, hdefined⟩ := mem_openMethodsOf_iff.mp hopen
    · exact .inherited (ih hmethod) _ owner hdefined
    · exact .declared (hbase.isChecker_iff.mp hchecker) _ owner hdeclared hdefined

/-- Of the classes that refine the class of all checkers, only that class itself has the number of
those that are there before any plugin. -/
theorem IsMade.number_eq_givenNumber_iff (h : type.IsMade) (hrefines : type.RefinesChecker) :
    type.number = givenNumber ↔ type = .checker := by
  refine ⟨fun hnumber => ?_, fun heq => heq ▸ rfl⟩
  cases h with
  | checker => rfl
  | given owner name => exact absurd hrefines.isChecker Bool.false_ne_true
  | define _ hdistinct _ _ => exact absurd hnumber hdistinct

/-- A concrete checker is none of the classes that were there before any plugin. -/
theorem number_ne_givenNumber (h : type.isConcreteChecker = true) : type.number ≠ givenNumber := by
  rw [isConcreteChecker, Bool.and_eq_true, Bool.and_eq_true, bne_iff_ne] at h
  exact h.1.2

/-- Checkers can be made of exactly the concrete classes. -/
theorem IsMade.isConcreteChecker_iff (h : type.IsMade) :
    type.isConcreteChecker = true ↔ type.IsConcrete := by
  rw [isConcreteChecker, Bool.and_eq_true, Bool.and_eq_true, bne_iff_ne, List.isEmpty_iff,
    h.isChecker_iff]
  constructor
  · rintro ⟨⟨hrefines, hnumber⟩, hclosed⟩
    refine ⟨hrefines, fun heq => hnumber (heq ▸ rfl), fun method hopen => ?_⟩
    exact List.not_mem_nil (hclosed ▸ hopen.mem_openMethods)
  · intro hconcrete
    refine ⟨⟨hconcrete.refines, ?_⟩, List.eq_nil_iff_forall_not_mem.mpr fun method hmem => ?_⟩
    · exact fun hnumber =>
        hconcrete.proper ((h.number_eq_givenNumber_iff hconcrete.refines).mp hnumber)
    · exact hconcrete.closed method (h.mem_openMethods_iff.mp hmem)

end WorkspaceLint.PluginClass
