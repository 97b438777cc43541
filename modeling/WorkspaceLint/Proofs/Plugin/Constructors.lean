import WorkspaceLint.Proofs.Plugin.Classes
import WorkspaceLint.Proofs.Plugin.Making

/-!
# Constructors of checkers

Before a checker is made of a class by a call without arguments, the signature of the class is asked
which arguments it needs. The constructor is that of the nearest definition with one. The signature
is one that is defined, for the class or for its constructor, and else it shows the parameters of
the constructor; it may also be hidden. A class whose signature shows no more than the parameters of
its constructor is turned down only if the call would be; one that shows others is turned down
though the call would make something of it.

* `IsMade.init_eq_some_iff`, `IsMade.shows_iff` — a constructor and a signature are read off from
  how the class came about.
* `callObject_eq_ok_iff` — the constructors that a call without arguments gets by with.
* `makeOf_of_isConcrete` — making a checker of a class follows the signature and then the call.
-/

namespace WorkspaceLint

instance (parameter : Parameter) : Decidable parameter.IsOptional :=
  inferInstanceAs (Decidable (_ ∨ _ ∨ _))

/-- The names of the parameters that a call has to give arguments for, in their order. -/
def Parameter.requiredNames (parameters : List Parameter) : List String :=
  (parameters.filter fun parameter => ¬ parameter.IsOptional).map Parameter.name

/-- The names of the parameters that a signature shows and a call has to give arguments for. -/
def Signature.requiredNames : Signature → List String
  | .hidden => []
  | .shown parameters => Parameter.requiredNames parameters

/-- The names of the parameters that a constructor has to be given arguments for. -/
def Constructor.requiredNames (init : Constructor) : List String :=
  Parameter.requiredNames init.parameters

/-- What a constructor shows: the signature that is defined for it, or its parameters. -/
def Constructor.shown (init : Constructor) : Signature :=
  init.signature.getD (.shown init.parameters)

namespace PluginClass

/-! ## Constructors and signatures of a class -/

/-- The constructor of a class, with the name of the class that defines it: its own, or else that of
its base. A constructor that is defined like any other method stands in the way of that of the base
and is none itself. -/
inductive HasConstructor : PluginClass → String → Constructor → Prop
  | own (base : PluginClass) (number : Nat) (owner : Value) {definition : ClassDefinition}
      {init : Constructor} (hinit : definition.init = some init) :
      HasConstructor (.define number owner base definition) definition.name init
  | inherited {base : PluginClass} {definer : String} {init : Constructor}
      (hbase : HasConstructor base definer init) (number : Nat) (owner : Value)
      {definition : ClassDefinition} (hinit : definition.init = none)
      (hmethod : constructorMethod ∉ definition.methods) :
      HasConstructor (.define number owner base definition) definer init

/-- The signature that is defined for a class: its own, or else that of its base. -/
inductive HasSignature : PluginClass → Signature → Prop
  | own (base : PluginClass) (number : Nat) (owner : Value) {definition : ClassDefinition}
      {signature : Signature} (hsignature : definition.signature = some signature) :
      HasSignature (.define number owner base definition) signature
  | inherited {base : PluginClass} {signature : Signature} (hbase : HasSignature base signature)
      (number : Nat) (owner : Value) {definition : ClassDefinition}
      (hsignature : definition.signature = none) :
      HasSignature (.define number owner base definition) signature

/-- What the signature of a class shows. -/
inductive Shows (type : PluginClass) : Signature → Prop
  | defined {signature : Signature} (h : type.HasSignature signature) : Shows type signature
  | constructor {definer : String} {init : Constructor}
      (hnone : ∀ signature, ¬ type.HasSignature signature)
      (hinit : type.HasConstructor definer init) : Shows type init.shown
  | plain (hnone : ∀ signature, ¬ type.HasSignature signature)
      (hinit : ∀ definer init, ¬ type.HasConstructor definer init) : Shows type (.shown [])

/-- The signature of a class shows the parameters of its constructor: none is defined, for the class
or for its constructor. -/
structure ShowsParameters (type : PluginClass) : Prop where
  undefined : ∀ signature, ¬ type.HasSignature signature
  own : ∀ definer init, type.HasConstructor definer init → init.signature = none

variable {type : PluginClass} {definer : String} {init : Constructor} {signature : Signature}

/-- A new class has the constructor that it defines, or else the one that its base has. -/
theorem initOf_eq_some_iff {base : PluginClass} {definition : ClassDefinition} :
    initOf base definition = some (definer, init)
      ↔ definition.init = some init ∧ definition.name = definer
        ∨ definition.init = none ∧ constructorMethod ∉ definition.methods
          ∧ base.init = some (definer, init) := by
  unfold initOf
  cases definition.init with
  | some own => simp [and_comm]
  | none =>
    by_cases hmethod : constructorMethod ∈ definition.methods
    · simp [hmethod]
    · simp [hmethod]

/-- The constructor that a class has by its definition is the one that is looked up. -/
theorem HasConstructor.init_eq (h : type.HasConstructor definer init) :
    type.init = some (definer, init) := by
  induction h with
  | own base number owner hinit => exact initOf_eq_some_iff.mpr (.inl ⟨hinit, rfl⟩)
  | inherited _ _ _ hinit hmethod ih =>
    exact initOf_eq_some_iff.mpr (.inr ⟨hinit, hmethod, ih⟩)

/-- In a class that can be made, no other constructor is looked up. -/
theorem IsMade.init_eq_some_iff (h : type.IsMade) :
    type.init = some (definer, init) ↔ type.HasConstructor definer init := by
  refine ⟨fun hinit => ?_, HasConstructor.init_eq⟩
  induction h with
  | checker => cases hinit
  | given owner name => cases hinit
  | define _ _ owner definition ih =>
    obtain ⟨hown, rfl⟩ | ⟨hnone, hmethod, hbase⟩ := initOf_eq_some_iff.mp hinit
    · exact .own _ _ owner hown
    · exact .inherited (ih hbase) _ owner hnone hmethod

/-- The signature that a class has by its definition is the one that is looked up. -/
theorem HasSignature.signature_eq (h : type.HasSignature signature) :
    type.signature = some signature := by
  induction h with
  | own base number owner hsignature =>
    rw [define, hsignature]
    rfl
  | inherited _ _ _ hsignature ih =>
    rw [define, hsignature, ih]
    rfl

/-- The signature that is defined for a class is that of the nearest definition with one. -/
theorem IsMade.signature_eq_some_iff (h : type.IsMade) :
    type.signature = some signature ↔ type.HasSignature signature := by
  refine ⟨fun hsignature => ?_, HasSignature.signature_eq⟩
  induction h with
  | checker => cases hsignature
  | given owner name => cases hsignature
  | define _ _ owner definition ih =>
    cases hown : definition.signature with
    | some own =>
      rw [PluginClass.define, hown] at hsignature
      cases hsignature
      exact .own _ _ owner hown
    | none =>
      rw [PluginClass.define, hown] at hsignature
      exact .inherited (ih hsignature) _ owner hown

/-- A class shows one signature. -/
theorem IsMade.shows_iff (h : type.IsMade) :
    type.Shows signature ↔ type.shownSignature = signature := by
  have hnone : type.signature = none ↔ ∀ signature, ¬ type.HasSignature signature := by
    simp only [Option.eq_none_iff_forall_ne_some, ne_eq, h.signature_eq_some_iff]
  unfold shownSignature
  constructor
  · -- A defined signature comes first, then that of the constructor, then an empty one.
    rintro (hsignature | ⟨hundefined, hinit⟩ | ⟨hundefined, hinit⟩)
    · rw [hsignature.signature_eq]
    · rw [hnone.mpr hundefined, hinit.init_eq]
      rfl
    · have hinit : type.init = none := Option.eq_none_iff_forall_ne_some.mpr fun constructor hsome =>
        hinit _ _ (h.init_eq_some_iff.mp hsome)
      rw [hnone.mpr hundefined, hinit]
  · rintro rfl
    cases hsignature : type.signature with
    | some signature => exact .defined (h.signature_eq_some_iff.mp hsignature)
    | none =>
      cases hinit : type.init with
      | some constructor =>
        exact .constructor (hnone.mp hsignature) (h.init_eq_some_iff.mp hinit)
      | none =>
        refine .plain (hnone.mp hsignature) fun definer init hconstructor => ?_
        rw [hconstructor.init_eq] at hinit
        cases hinit

/-! ## What a call needs -/

/-- The kinds of parameters that take one argument each are those that are not variadic. -/
theorem openParameters_eq_requiredNames (parameters : List Parameter) :
    openParameters [.positional, .positionalOnly, .named] parameters
      = Parameter.requiredNames parameters := by
  unfold openParameters Parameter.requiredNames
  refine congrArg _ (List.filter_congr fun parameter _ => ?_)
  rw [Bool.eq_iff_iff, decide_eq_true_iff, Parameter.IsOptional]
  cases parameter.kind <;> simp

/-- A constructor asks for nothing if and only if all of its parameters are optional. -/
theorem requiredNames_eq_nil_iff :
    init.requiredNames = [] ↔ ∀ parameter ∈ init.parameters, parameter.IsOptional := by
  simp [Constructor.requiredNames, Parameter.requiredNames, List.filter_eq_nil_iff]

/-- What a class asks for are the parameters that its signature shows to need an argument. -/
theorem IsMade.requiredParameters_eq (h : type.IsMade) (hshows : type.Shows signature) :
    type.requiredParameters = signature.requiredNames := by
  rw [requiredParameters, h.shows_iff.mp hshows]
  cases signature with
  | hidden => rfl
  | shown parameters => exact openParameters_eq_requiredNames parameters

/-- A class that shows the parameters of its constructor asks for no more than the call needs. -/
theorem ShowsParameters.requiredParameters_eq_nil (hshows : type.ShowsParameters)
    (h : type.IsMade) (hcallable : type.IsCallable) : type.requiredParameters = [] := by
  obtain ⟨signature, hsignature⟩ : ∃ signature, type.Shows signature := ⟨_, h.shows_iff.mpr rfl⟩
  rw [h.requiredParameters_eq hsignature]
  cases hsignature with
  | defined hsignature => exact absurd hsignature (hshows.undefined _)
  | constructor _ hinit =>
    rw [Constructor.shown, hshows.own _ _ hinit]
    exact requiredNames_eq_nil_iff.mpr (hcallable.optional _ _ hinit.init_eq)
  | plain => rfl

/-- A constructor lets a class without open methods be made if it needs no argument and raises
nothing. -/
theorem IsMade.isCallable_and_quiet_iff (h : type.IsMade) (hclosed : type.openMethods = []) :
    type.IsCallable ∧ type.raised? = none ↔ ∀ definer init, type.HasConstructor definer init →
      init.requiredNames = [] ∧ init.fault = none := by
  constructor
  · rintro ⟨hcallable, hquiet⟩ definer init hinit
    refine ⟨requiredNames_eq_nil_iff.mpr ?_, ?_⟩
    · exact hcallable.optional definer init hinit.init_eq
    · rwa [raised?, hinit.init_eq] at hquiet
  · intro hinits
    refine ⟨⟨hclosed, fun definer init hinit => ?_⟩, ?_⟩
    · exact requiredNames_eq_nil_iff.mp (hinits definer init (h.init_eq_some_iff.mp hinit)).1
    · rw [raised?]
      cases hinit : type.init with
      | none => rfl
      | some constructor => exact (hinits _ _ (h.init_eq_some_iff.mp hinit)).2

end PluginClass

/-! ## Making checkers -/

namespace Registry

open Plugin

variable {type : PluginClass}

/-- What making a checker of a class ends with: a fault where its signature asks for arguments, else
what a call of the class without arguments ends with. -/
structure MakingFollowsCall (type : PluginClass) (session : Session) : Prop where
  succeeds : (∃ object after, callObject (.classObject type) session = (.ok object, after))
    ↔ ∀ definer init, type.HasConstructor definer init →
      init.requiredNames = [] ∧ init.fault = none
  shown : ∃ signature, type.Shows signature
  asked : ∀ signature, type.Shows signature → signature.requiredNames ≠ [] →
    makeOf (.classObject type) session
      = (.error (.configuration type.qualifiedName
          ("constructor requires arguments: " ++ ", ".intercalate signature.requiredNames)), session)
  made : ∀ signature, type.Shows signature → signature.requiredNames = [] →
    ∀ object after, makeOf (.classObject type) session = (.ok object, after)
      ↔ object = .exemplar type ∧ callObject (.classObject type) session = (.ok object, after)
  reported : ∀ signature, type.Shows signature → signature.requiredNames = [] →
    ∀ fault after, callObject (.classObject type) session = (.error fault, after) →
      fault.isOrdinary = true → makeOf (.classObject type) session
        = (.error (.configuration type.qualifiedName fault.summary), after)
  passed : ∀ signature, type.Shows signature → signature.requiredNames = [] →
    ∀ fault after, callObject (.classObject type) session = (.error fault, after) →
      fault.isOrdinary = false →
        makeOf (.classObject type) session = (.error (.escaped fault), after)
  foretold : type.ShowsParameters →
    ((∃ object after, makeOf (.classObject type) session = (.ok object, after))
      ↔ ∃ object after, callObject (.classObject type) session = (.ok object, after))
    ∧ ∀ fault after, callObject (.classObject type) session = (.error fault, after) →
      fault.isOrdinary = true → ∃ reason, makeOf (.classObject type) session
        = (.error (.configuration type.qualifiedName reason), after)

/-- A call makes something of a class exactly if it reaches a constructor that raises nothing, and
then an object of that class. -/
theorem callObject_eq_ok_iff (hnumber : type.number ≠ PluginClass.givenNumber)
    {session after : Session} {object : PluginObject} :
    callObject (.classObject type) session = (.ok object, after)
      ↔ (type.IsCallable ∧ type.raised? = none) ∧ object = .exemplar type
        ∧ after = session.constructing [type] := by
  have hmade : madeOf type = .exemplar type := by
    rw [madeOf, PluginClass.isCommon, beq_eq_false_iff_ne.mpr hnumber]
    rfl
  rw [callObject_classObject, hmade]
  by_cases hcallable : type.IsCallable
  · rw [makeInstance_of_isCallable hcallable]
    cases hraises : type.raised? with
    | none =>
      constructor
      · intro heq
        cases heq
        exact ⟨⟨hcallable, rfl⟩, rfl, rfl⟩
      · rintro ⟨-, rfl, rfl⟩
        rfl
    | some fault => exact iff_of_false nofun fun h => nomatch h.1.2
  · obtain ⟨fault, hrefusal⟩ := PluginClass.exists_refusal hcallable
    rw [makeInstance_of_refusal hrefusal]
    exact iff_of_false nofun fun h => hcallable h.1.1

/-- Where the signature asks for nothing, what is made of a class is what a call makes of it. -/
theorem makeOf_eq_ok_iff (hnumber : type.number ≠ PluginClass.givenNumber)
    (hunasked : type.requiredParameters = []) {session after : Session} {object : PluginObject} :
    makeOf (.classObject type) session = (.ok object, after)
      ↔ object = .exemplar type ∧ callObject (.classObject type) session = (.ok object, after) := by
  have hobject (h : callObject (.classObject type) session = (.ok object, after)) :
      object = .exemplar type := ((callObject_eq_ok_iff hnumber).mp h).2.1
  rw [makeOf_of_requiredParameters_eq_nil hunasked]
  generalize callObject (.classObject type) session = called at hobject ⊢
  obtain ⟨fault | made, reached⟩ := called
  · refine iff_of_false ?_ (fun h => nomatch h.2)
    dsimp only
    split <;> exact fun h => nomatch h
  · constructor
    · intro heq
      cases heq
      exact ⟨hobject rfl, rfl⟩
    · rintro ⟨-, heq⟩
      cases heq
      rfl

/-- A call that does not reach the constructor leaves the session alone. -/
theorem callObject_of_not_isCallable (h : ¬ type.IsCallable) (session : Session) :
    ∃ fault, callObject (.classObject type) session = (.error fault, session) := by
  obtain ⟨fault, hrefusal⟩ := PluginClass.exists_refusal h
  refine ⟨fault, ?_⟩
  rw [callObject_classObject, makeInstance_of_refusal hrefusal]

/-- A class that shows the parameters of its constructor is turned down only if the call is refused,
and a failure of the call is told to be one of the class, whether or not it was foretold. -/
theorem makeOf_of_showsParameters (hmade : type.IsMade)
    (hnumber : type.number ≠ PluginClass.givenNumber) (hshows : type.ShowsParameters)
    (session : Session) :
    ((∃ object after, makeOf (.classObject type) session = (.ok object, after))
      ↔ ∃ object after, callObject (.classObject type) session = (.ok object, after))
    ∧ ∀ fault after, callObject (.classObject type) session = (.error fault, after) →
      fault.isOrdinary = true → ∃ reason, makeOf (.classObject type) session
        = (.error (.configuration type.qualifiedName reason), after) := by
  by_cases hunasked : type.requiredParameters = []
  · refine ⟨?_, fun fault after hcall hordinary => ⟨fault.summary, ?_⟩⟩
    · refine exists₂_congr fun object after => ?_
      rw [makeOf_eq_ok_iff hnumber hunasked, and_iff_right_of_imp]
      exact fun hcall => ((callObject_eq_ok_iff hnumber).mp hcall).2.1
    · rw [makeOf_of_requiredParameters_eq_nil hunasked, hcall]
      exact if_pos hordinary
  · -- What is asked for is what the call lacks, so the call is refused as well.
    obtain ⟨refused, hrefused⟩ := callObject_of_not_isCallable
      (fun hcallable => hunasked (hshows.requiredParameters_eq_nil hmade hcallable)) session
    rw [hrefused, makeOf_of_requiredParameters hunasked]
    refine ⟨iff_of_false (fun ⟨_, _, h⟩ => nomatch h) (fun ⟨_, _, h⟩ => nomatch h), ?_⟩
    intro fault after hcall _
    cases hcall
    exact ⟨_, rfl⟩

/-- A constructor with parameters of several kinds, two of which need an argument. -/
def boundedInit : Constructor :=
  ⟨[⟨"depth", .positional, false⟩, ⟨"rest", .variadic, false⟩, ⟨"mode", .named, true⟩,
    ⟨"limit", .named, false⟩], none, none⟩

/-- The definition of a class of checkers with the given constructor, if any. -/
def definitionWith (name : String) (init : Option Constructor) : ClassDefinition :=
  ⟨name, none, some .nothing, [], [], none, none, init, none⟩

/-- A class of checkers with that constructor. -/
def boundedClass : PluginClass :=
  .define (PluginClass.givenNumber + 1) (.text "acme") .checker
    (definitionWith "Bounded" (some boundedInit))

/-- A class of checkers that refines it. -/
def strictClass : PluginClass :=
  .define (PluginClass.givenNumber + 2) (.text "acme") boundedClass (definitionWith "Strict" none)

/-- The class with the bounded constructor can be made. -/
theorem isMade_strictClass : strictClass.IsMade :=
  .define (.define .checker (Nat.succ_ne_zero _) _ _) (Nat.succ_ne_zero _) _ _

/-- It is a concrete checker. -/
theorem isConcrete_strictClass : strictClass.IsConcrete := by
  have hbounded : boundedClass.openMethods = [] := PluginClass.openMethodsOf_checker_eq_nil rfl rfl
  have hclosed : PluginClass.openMethodsOf boundedClass (definitionWith "Strict" none) = [] :=
    PluginClass.openMethodsOf_eq_nil (by simp [hbounded]) rfl
  refine isMade_strictClass.isConcreteChecker_iff.mp ?_
  change (true && strictClass.number != PluginClass.givenNumber
    && (PluginClass.openMethodsOf boundedClass _).isEmpty) = true
  rw [hclosed]
  rfl

/-- It shows the parameters of its constructor. -/
theorem shows_strictClass : strictClass.Shows boundedInit.shown :=
  isMade_strictClass.shows_iff.mpr rfl

/-- A constructor that takes any arguments and shows the signature of another function, as one does
that wraps it. -/
def wrappingInit : Constructor :=
  ⟨[⟨"rest", .variadic, false⟩, ⟨"options", .variadicNamed, false⟩], none,
    some (.shown [⟨"x", .positional, false⟩])⟩

/-- A class of checkers with that constructor. -/
def wrappedClass : PluginClass :=
  .define (PluginClass.givenNumber + 1) (.text "acme") .checker
    (definitionWith "Wrapped" (some wrappingInit))

end Registry

end WorkspaceLint
