import WorkspaceLint.Proofs.Plugin.Providing

/-!
# Making checkers of classes

A checker is made of a class by a call without arguments, which is tried where the signature of the
class asks for none. The call reaches the constructor if the class leaves nothing open and its
constructor can do without arguments, `IsCallable`, and the class is one that can be instantiated if
the constructor raises nothing besides, `IsInstantiable`. What a class does otherwise, `Fails`, does
not depend on the session.

* `makeChecker_of_isInstantiable`, `exists_fails` — one class.
* `makeCheckers_of_isInstantiable`, `makeCheckers_append` — classes one after the other, up to the
  first that cannot be instantiated.
-/

namespace WorkspaceLint

/-- A call without arguments can do without the parameter. -/
def Parameter.IsOptional (parameter : Parameter) : Prop :=
  parameter.hasDefault = true ∨ parameter.kind = .variadic ∨ parameter.kind = .variadicNamed

namespace PluginClass

/-! ## Calls without arguments -/

/-- A call without arguments reaches the constructor of a class, if it has one. -/
structure IsCallable (type : PluginClass) : Prop where
  closed : type.openMethods = []
  optional : ∀ definer init, type.init = some (definer, init) →
    ∀ parameter ∈ init.parameters, parameter.IsOptional

/-- The fault that the constructor of a class raises, if it does. -/
def raised? (type : PluginClass) : Option Fault := type.init.bind fun init => init.2.fault

/-- The signature of a class asks for nothing, and a call without arguments makes something of it.
-/
structure IsInstantiable (type : PluginClass) : Prop where
  unasked : type.requiredParameters = []
  callable : type.IsCallable
  quiet : type.raised? = none

/-- Why a class is not called whose signature asks for arguments. -/
def askedReason (type : PluginClass) : String :=
  "constructor requires arguments: " ++ ", ".intercalate type.requiredParameters

/-- What there is to report of a class that cannot be instantiated, with the classes whose
constructors have run. A request to stop is not reported as a problem of the class. -/
inductive Fails (type : PluginClass) : List PluginClass → PluginFault → Prop
  | asked (h : type.requiredParameters ≠ []) :
    Fails type [] (.configuration type.qualifiedName type.askedReason)
  | refused (hunasked : type.requiredParameters = []) (h : ¬ type.IsCallable) (reason : String) :
    Fails type [] (.configuration type.qualifiedName reason)
  | raised {fault : Fault} (hunasked : type.requiredParameters = []) (h : type.IsCallable)
      (hraises : type.raised? = some fault) (hordinary : fault.isOrdinary = true) :
    Fails type [type] (.configuration type.qualifiedName fault.summary)
  | escaped {fault : Fault} (hunasked : type.requiredParameters = []) (h : type.IsCallable)
      (hraises : type.raised? = some fault) (hstops : fault.isOrdinary = false) :
    Fails type [type] (.escaped fault)

variable {type : PluginClass}

/-- No parameter is left open exactly if each has a default or is of another kind. -/
theorem openParameters_eq_nil_iff {kinds : List ParameterKind} {parameters : List Parameter} :
    openParameters kinds parameters = []
      ↔ ∀ parameter ∈ parameters, parameter.hasDefault = true ∨ parameter.kind ∉ kinds := by
  simp [openParameters, List.filter_eq_nil_iff, imp_iff_not_or]

/-- All parameters are optional if those of each kind of argument are. -/
theorem forall_isOptional_iff {parameters : List Parameter} :
    (∀ parameter ∈ parameters, parameter.IsOptional)
      ↔ openParameters [.positional, .positionalOnly] parameters = []
        ∧ openParameters [.named] parameters = [] := by
  rw [openParameters_eq_nil_iff, openParameters_eq_nil_iff, ← forall₂_and]
  refine forall₂_congr fun parameter _ => ?_
  unfold Parameter.IsOptional
  cases parameter.kind <;> simp

/-- A call is refused unless it reaches the constructor. -/
theorem refusal?_eq_none_iff : type.refusal? = none ↔ type.IsCallable := by
  unfold refusal?
  constructor
  · intro h
    split at h
    · cases h
    next hclosed =>
      refine ⟨by simpa using hclosed, fun definer init hinit => forall_isOptional_iff.mpr ?_⟩
      rw [hinit] at h
      dsimp only at h
      split at h
      next hpositional hnamed => exact ⟨hpositional, hnamed⟩
      · cases h
      · cases h
  · intro h
    rw [if_neg (by simp [h.closed])]
    cases hinit : type.init with
    | none => rfl
    | some constructor =>
      -- No parameter of either kind is left without an argument.
      obtain ⟨definer, init⟩ := constructor
      obtain ⟨hpositional, hnamed⟩ := forall_isOptional_iff.mp (h.optional definer init hinit)
      dsimp only
      rw [hpositional, hnamed]

/-- A call that does not reach the constructor is refused with a fault. -/
theorem exists_refusal (h : ¬ type.IsCallable) : ∃ fault, type.refusal? = some fault :=
  Option.ne_none_iff_exists'.mp (mt refusal?_eq_none_iff.mp h)

/-- A refusal is no request to stop. -/
theorem isOrdinary_of_refusal? {fault : Fault} (h : type.refusal? = some fault) :
    fault.isOrdinary = true := by
  unfold refusal? at h
  split at h
  · cases h
    rfl
  · split at h
    · cases h
    · split at h <;> cases h <;> rfl

end PluginClass

/-- A session after the constructors of classes have run, as far as they have one. -/
def Session.constructing (session : Session) (types : List PluginClass) : Session :=
  { session with
    created := session.created ++ (types.filter fun type => type.init.isSome).map PluginClass.name }

/-- Constructing nothing leaves the session as it is. -/
theorem Session.constructing_nil (session : Session) : session.constructing [] = session := by
  simp [Session.constructing]

/-- Constructing some classes and then others is constructing them all. -/
theorem Session.constructing_append (session : Session) (types others : List PluginClass) :
    session.constructing (types ++ others) = (session.constructing types).constructing others := by
  simp [Session.constructing]

/-! ## One class -/

namespace Plugin

variable {type : PluginClass}

/-- A call that reaches the constructor runs it and ends with its fault, if it raises one. -/
theorem makeInstance_of_isCallable (h : type.IsCallable) (session : Session) :
    makeInstance type session = match type.raised? with
      | none => (.ok (), session.constructing [type])
      | some fault => (.error fault, session.constructing [type]) := by
  rw [makeInstance, PluginClass.refusal?_eq_none_iff.mpr h]
  cases hinit : type.init with
  | none =>
    have hsession : session.constructing [type] = session := by
      simp [Session.constructing, hinit]
    rw [PluginClass.raised?, hinit, hsession]
    rfl
  | some constructor =>
    have hsession : session.constructing [type]
        = { session with created := session.created ++ [type.name] } := by
      simp [Session.constructing, hinit]
    rw [PluginClass.raised?, hinit, hsession, Option.bind_some]
    dsimp only
    rw [bind_apply]
    cases constructor.2.fault <;> rfl

/-- A call that is refused leaves the session as it is. -/
theorem makeInstance_of_refusal {fault : Fault} (h : type.refusal? = some fault)
    (session : Session) : makeInstance type session = (.error fault, session) := by
  rw [makeInstance, h]
  rfl

/-- Calling a class comes to an object that it made, if the constructor raises nothing. -/
theorem callObject_classObject (type : PluginClass) (session : Session) :
    callObject (.classObject type) session = match makeInstance type session with
      | (.ok _, session) => (.ok (madeOf type), session)
      | (.error fault, session) => (.error fault, session) := by
  rw [callObject, bind_apply]
  obtain ⟨result, after⟩ := makeInstance type session
  cases result <;> rfl

end Plugin

namespace Registry

open Plugin

variable {type : PluginClass}

/-- Making a checker of a class: the class itself if a call of it comes to a value, else its
fault. -/
theorem makeChecker_apply (type : PluginClass) (session : Session) :
    makeChecker type session = match makeOf (.classObject type) session with
      | (.ok _, session) => (.ok type, session)
      | (.error fault, session) => (.error fault, session) := by
  change ((makeOf (.classObject type) >>= fun _ => pure ()) >>= fun _ => pure type : Providing _)
    session = _
  rw [bind_apply, bind_apply]
  generalize makeOf (.classObject type) session = result
  obtain ⟨result, after⟩ := result
  cases result <;> rfl

/-- What a call ends with, as far as it is made at all. -/
theorem makeOf_of_requiredParameters_eq_nil (h : type.requiredParameters = []) (session : Session) :
    makeOf (.classObject type) session = match callObject (.classObject type) session with
      | (.ok made, session) => (.ok made, session)
      | (.error fault, session) =>
        if fault.isOrdinary then (.error (.configuration type.qualifiedName fault.summary), session)
        else (.error (.escaped fault), session) := by
  rw [makeOf, PluginObject.requiredParameters, h]
  rfl

/-- A class is not called when its signature asks for arguments. -/
theorem makeOf_of_requiredParameters (h : type.requiredParameters ≠ []) (session : Session) :
    makeOf (.classObject type) session
      = (.error (.configuration type.qualifiedName type.askedReason), session) := by
  obtain ⟨name, names, hrequired⟩ := List.exists_cons_of_ne_nil h
  unfold makeOf PluginObject.requiredParameters PluginClass.askedReason
  dsimp only
  rw [hrequired]
  rfl

/-- A class that can be instantiated is made a checker of, and its constructor runs. -/
theorem makeChecker_of_isInstantiable (h : type.IsInstantiable) (session : Session) :
    makeChecker type session = (.ok type, session.constructing [type]) := by
  rw [makeChecker_apply, makeOf_of_requiredParameters_eq_nil h.unasked, callObject_classObject,
    makeInstance_of_isCallable h.callable, h.quiet]

/-- A class that cannot be instantiated fails in one way, whatever the session. -/
theorem exists_fails (h : ¬ type.IsInstantiable) : ∃ ran fault, type.Fails ran fault
    ∧ ∀ session : Session, makeChecker type session = (.error fault, session.constructing ran) := by
  by_cases hunasked : type.requiredParameters = []
  case neg =>
    refine ⟨[], _, .asked hunasked, fun session => ?_⟩
    rw [makeChecker_apply, makeOf_of_requiredParameters hunasked, Session.constructing_nil]
  -- Nothing is asked for, so a call is made: it is refused or ends with a fault.
  by_cases hcallable : type.IsCallable
  · obtain ⟨fault, hraises⟩ : ∃ fault, type.raised? = some fault :=
      Option.ne_none_iff_exists'.mp fun hquiet => h ⟨hunasked, hcallable, hquiet⟩
    have hmake (session : Session) : makeOf (.classObject type) session
        = if fault.isOrdinary then
            (.error (.configuration type.qualifiedName fault.summary), session.constructing [type])
          else (.error (.escaped fault), session.constructing [type]) := by
      rw [makeOf_of_requiredParameters_eq_nil hunasked, callObject_classObject,
        makeInstance_of_isCallable hcallable, hraises]
    cases hordinary : fault.isOrdinary with
    | true =>
      refine ⟨_, _, .raised hunasked hcallable hraises hordinary, fun session => ?_⟩
      rw [makeChecker_apply, hmake, hordinary, if_pos rfl]
    | false =>
      refine ⟨_, _, .escaped hunasked hcallable hraises hordinary, fun session => ?_⟩
      rw [makeChecker_apply, hmake, hordinary, if_neg Bool.false_ne_true]
  · obtain ⟨fault, hrefusal⟩ := PluginClass.exists_refusal hcallable
    refine ⟨[], _, .refused hunasked hcallable fault.summary, fun session => ?_⟩
    rw [makeChecker_apply, makeOf_of_requiredParameters_eq_nil hunasked, callObject_classObject,
      makeInstance_of_refusal hrefusal, Session.constructing_nil]
    dsimp only
    rw [if_pos (PluginClass.isOrdinary_of_refusal? hrefusal)]

/-! ## Several classes -/

/-- Checkers are made of all classes if each can be instantiated, by induction on them. -/
theorem makeCheckers_of_isInstantiable {types : List PluginClass}
    (h : ∀ type ∈ types, type.IsInstantiable) (session : Session) :
    makeCheckers types session = (.ok types, session.constructing types) := by
  induction types generalizing session with
  | nil => rw [Session.constructing_nil]; rfl
  | cons type types ih =>
    obtain ⟨htype, htypes⟩ := List.forall_mem_cons.mp h
    rw [makeCheckers, bind_apply, makeChecker_of_isInstantiable htype]
    dsimp only
    rw [bind_apply, ih htypes, ← Session.constructing_append]
    rfl

/-- Checkers are made up to the first class that cannot be instantiated, and none after it. -/
theorem makeCheckers_append {before : List PluginClass}
    (hbefore : ∀ type ∈ before, type.IsInstantiable) {fault : PluginFault} {ran : List PluginClass}
    (hfails : ∀ session : Session,
      makeChecker type session = (.error fault, session.constructing ran))
    (after : List PluginClass) (session : Session) :
    makeCheckers (before ++ type :: after) session
      = (.error fault, session.constructing (before ++ ran)) := by
  induction before generalizing session with
  | nil =>
    rw [List.nil_append, List.nil_append, makeCheckers, bind_apply, hfails]
  | cons first before ih =>
    obtain ⟨hfirst, hbefore⟩ := List.forall_mem_cons.mp hbefore
    rw [List.cons_append, makeCheckers, bind_apply, makeChecker_of_isInstantiable hfirst]
    dsimp only
    rw [bind_apply, ih hbefore, ← Session.constructing_append]
    rfl

end Registry

end WorkspaceLint
