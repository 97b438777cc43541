import Mathlib.Data.List.Nodup
import WorkspaceLint.Proofs.Plugin.Bookkeeping

/-!
# Which class a number stands for

Each class that a plugin defines gets a number of its own, and its name can then be bound, rebound,
imported and unbound wherever plugins go. Whatever they do, a number stands for one class: the
classes of all modules agree with the list of the classes that were defined, in which the number of
a class is its place.

## Shape of the invariant

A `Ledger` is such a list, with the modules that were made to be executed. It only grows, `Grows`. A
session agrees with it if all that its modules bind is `Holds`, if no module that is executed binds
a name twice, and if the others bind no class that was defined, `Records`.

* `Ledger.Records.bind`, `Ledger.Records.define` and the like — the ways in which a session changes.
* `ledgers` — that ledgers are books which can be kept while modules are executed.
-/

namespace WorkspaceLint

/-! ## Bindings -/

namespace PluginModule

variable {bindings : List (String × PluginObject)}

/-- A name that is bound already keeps its place, and any other comes last. -/
theorem keys_setBinding (name : String) (object : PluginObject) :
    (setBinding name object bindings).map Prod.fst
      = if name ∈ bindings.map Prod.fst then bindings.map Prod.fst
        else bindings.map Prod.fst ++ [name] := by
  induction bindings with
  | nil => rfl
  | cons binding bindings ih =>
    rw [setBinding]
    by_cases hname : binding.1 = name
    · simp [hname]
    · rw [if_neg hname, List.map_cons, ih, List.map_cons]
      by_cases hmem : name ∈ bindings.map Prod.fst
      · rw [if_pos hmem, if_pos (List.mem_cons_of_mem _ hmem)]
      · rw [if_neg hmem, if_neg (by simp [Ne.symm hname, hmem]), List.cons_append]

/-- Binding a name keeps the names apart. -/
theorem keys_setBinding_nodup (h : (bindings.map Prod.fst).Nodup) (name : String)
    (object : PluginObject) : ((setBinding name object bindings).map Prod.fst).Nodup := by
  rw [keys_setBinding]
  split
  · exact h
  next hname => exact h.append (List.nodup_singleton name) (by simpa using hname)

/-- What is bound afterwards was bound before, or is bound just now. -/
theorem mem_setBinding {name : String} {object : PluginObject} {binding : String × PluginObject}
    (h : binding ∈ setBinding name object bindings) :
    binding = (name, object) ∨ binding ∈ bindings := by
  induction bindings with
  | nil => exact .inl (List.mem_singleton.mp h)
  | cons first bindings ih =>
    rw [setBinding] at h
    split at h
    · exact (List.mem_cons.mp h).imp_right (List.mem_cons_of_mem _)
    · rcases List.mem_cons.mp h with rfl | h
      · exact .inr List.mem_cons_self
      · exact (ih h).imp_right (List.mem_cons_of_mem _)

end PluginModule

namespace Session

/-- A change of one module leaves each module as it is or, in its place, changes it. -/
theorem module_change_or (session : Session) (handle : Nat) (f : PluginModule → PluginModule)
    (other : Nat) :
    (session.change handle f).module other = session.module other
      ∨ other = handle ∧ (session.change handle f).module other = f (session.module other) := by
  by_cases hother : other = handle
  · subst hother
    by_cases hlt : other < session.modules.length
    · exact .inr ⟨rfl, module_change f hlt⟩
    · left
      have hnone : session.modules[other]? = none := List.getElem?_eq_none (Nat.le_of_not_lt hlt)
      simp [change, Session.module, hnone]
  · left
    simp [change, Session.module, Ne.symm hother]

/-- A module that is added has the number of those before it for its handle. -/
theorem module_add_or (session : Session) (module : PluginModule) (other : Nat) :
    (session.add module).module other = session.module other
      ∨ other = session.modules.length ∧ (session.add module).module other = module := by
  rcases Nat.lt_trichotomy other session.modules.length with hlt | rfl | hgt
  · left
    simp [add, Session.module, List.getElem?_append_left hlt]
  · right
    simp [add, Session.module]
  · left
    simp only [add, Session.module]
    rw [List.getElem?_eq_none (by rw [List.length_append]; exact hgt),
      List.getElem?_eq_none (Nat.le_of_lt hgt)]

end Session

namespace Plugin

/-! ## The ledger -/

/-- The classes that were defined so far, each at the place of its number, and the modules that were
made to be executed. -/
structure Ledger where
  defined : List PluginClass
  executed : List Nat

namespace Ledger

/-- A ledger with more in it. -/
structure Grows (ledger later : Ledger) : Prop where
  defined : ledger.defined <+: later.defined
  executed : ∀ handle ∈ ledger.executed, handle ∈ later.executed

/-- If an object is a class that a plugin defined, it is the one that stands under its number. -/
def Holds (ledger : Ledger) (object : PluginObject) : Prop :=
  ∀ type, object = .classObject type → type.IsMade
    ∧ (type.number = PluginClass.givenNumber ∨ ledger.defined[type.number]? = some type)

/-- What a session binds agrees with a ledger. -/
structure Records (ledger : Ledger) (session : Session) : Prop where
  count : ledger.defined.length = session.nextClass
  positive : PluginClass.givenNumber < session.nextClass
  holds : ∀ handle, ∀ binding ∈ (session.module handle).bindings, ledger.Holds binding.2
  inside : ∀ handle ∈ ledger.executed, handle < session.modules.length
  distinct : ∀ handle ∈ ledger.executed, ((session.module handle).bindings.map Prod.fst).Nodup
  given : ∀ handle ∉ ledger.executed, ∀ binding ∈ (session.module handle).bindings,
    IsGiven binding.2

variable {ledger later : Ledger} {session : Session} {object : PluginObject}

/-- A ledger has all that is in it. -/
theorem Grows.refl (ledger : Ledger) : ledger.Grows ledger := ⟨List.prefix_refl _, fun _ h => h⟩

/-- What is in a ledger stays in all that grow from it. -/
theorem Grows.trans {last : Ledger} (h : ledger.Grows later) (h' : later.Grows last) :
    ledger.Grows last :=
  ⟨h.defined.trans h'.defined, fun handle hmem => h'.executed handle (h.executed handle hmem)⟩

/-- What a ledger holds is held by each that grows from it. -/
theorem Holds.grow (h : ledger.Holds object) (hgrows : ledger.Grows later) :
    later.Holds object := by
  intro type heq
  obtain ⟨hmade, hnumber | hplace⟩ := h type heq
  · exact ⟨hmade, .inl hnumber⟩
  · obtain ⟨rest, hrest⟩ := hgrows.defined
    obtain ⟨hlt, -⟩ := List.getElem?_eq_some_iff.mp hplace
    exact ⟨hmade, .inr (by rw [← hrest, List.getElem?_append_left hlt, hplace])⟩

end Ledger

/-- What was there before any plugin is held by every ledger. -/
theorem IsGiven.holds {object : PluginObject} (h : IsGiven object) (ledger : Ledger) :
    ledger.Holds object :=
  fun type heq => (h type heq).imp_right .inl

/-! ### Sessions that agree with it -/

namespace Ledger

variable {ledger : Ledger} {session : Session} {object : PluginObject}

/-- What is not the modules or the number of the next class does not matter. -/
theorem Records.congr (h : ledger.Records session) {other : Session}
    (hmodules : other.modules = session.modules) (hnext : other.nextClass = session.nextClass) :
    ledger.Records other := by
  have hmodule (handle : Nat) : other.module handle = session.module handle := by
    rw [Session.module, Session.module, hmodules]
  refine ⟨hnext ▸ h.count, hnext ▸ h.positive, ?_, hmodules ▸ h.inside, ?_, ?_⟩
  · exact fun handle => hmodule handle ▸ h.holds handle
  · exact fun handle => hmodule handle ▸ h.distinct handle
  · exact fun handle => hmodule handle ▸ h.given handle

/-- A module that is executed can bind whatever agrees with the ledger, and any other module what is
no class that a plugin defined. -/
theorem Records.bind (h : ledger.Records session) {handle : Nat} (hobject : ledger.Holds object)
    (hplace : handle ∈ ledger.executed ∨ IsGiven object) (name : String) :
    ledger.Records (session.change handle fun module => module.bind name object) := by
  have hmodule := session.module_change_or handle fun module => module.bind name object
  -- Each condition holds of the other modules as before, and of this one with the object.
  refine ⟨h.count, h.positive, ?_, ?_, ?_, ?_⟩
  · intro other binding hmem
    rcases hmodule other with heq | ⟨-, heq⟩
    · exact h.holds other binding (heq ▸ hmem)
    · rw [heq] at hmem
      rcases PluginModule.mem_setBinding hmem with rfl | hmem
      · exact hobject
      · exact h.holds other binding hmem
  · intro other hmem
    rw [Session.length_change]
    exact h.inside other hmem
  · intro other hmem
    rcases hmodule other with heq | ⟨-, heq⟩
    · exact heq ▸ h.distinct other hmem
    · rw [heq]
      exact PluginModule.keys_setBinding_nodup (h.distinct other hmem) name object
  · intro other hother binding hmem
    rcases hmodule other with heq | ⟨rfl, heq⟩
    · exact h.given other hother binding (heq ▸ hmem)
    · rw [heq] at hmem
      rcases PluginModule.mem_setBinding hmem with rfl | hmem
      · exact hplace.resolve_left hother
      · exact h.given other hother binding hmem

/-- Deleting a name from a module keeps the session in agreement. -/
theorem Records.unbind (h : ledger.Records session) (handle : Nat) (name : String) :
    ledger.Records (session.change handle fun module => module.unbind name) := by
  have hmodule := session.module_change_or handle fun module => module.unbind name
  have hsublist (other : Nat) :
      ((session.change handle fun module => module.unbind name).module other).bindings.Sublist
        (session.module other).bindings := by
    rcases hmodule other with heq | ⟨-, heq⟩
    · rw [heq]
    · rw [heq]
      exact List.filter_sublist
  refine ⟨h.count, h.positive, ?_, ?_, ?_, ?_⟩
  · exact fun other binding hmem => h.holds other binding ((hsublist other).subset hmem)
  · intro other hmem
    rw [Session.length_change]
    exact h.inside other hmem
  · exact fun other hmem => (h.distinct other hmem).sublist ((hsublist other).map _)
  · exact fun other hother binding hmem =>
      h.given other hother binding ((hsublist other).subset hmem)

/-- A new class stands at the end of the ledger, and its number is its place. -/
theorem Records.define (h : ledger.Records session) {type : PluginClass} (hmade : type.IsMade)
    (hnumber : type.number = session.nextClass) :
    ledger.Grows ⟨ledger.defined ++ [type], ledger.executed⟩
    ∧ (⟨ledger.defined ++ [type], ledger.executed⟩ : Ledger).Holds (.classObject type)
    ∧ (⟨ledger.defined ++ [type], ledger.executed⟩ : Ledger).Records
        { session with nextClass := session.nextClass + 1 } := by
  have hgrows : ledger.Grows ⟨ledger.defined ++ [type], ledger.executed⟩ :=
    ⟨List.prefix_append _ _, fun _ h => h⟩
  refine ⟨hgrows, ?_, ?_, Nat.lt_succ_of_lt h.positive, ?_, h.inside, h.distinct, h.given⟩
  · rintro _ ⟨⟩
    refine ⟨hmade, .inr ?_⟩
    rw [hnumber, ← h.count]
    exact List.getElem?_concat_length
  · rw [List.length_append, h.count]
    rfl
  · exact fun handle binding hmem => (h.holds handle binding hmem).grow hgrows

/-- A module with nothing in it but what was there before any plugin can be added. -/
theorem Records.add (h : ledger.Records session) {module : PluginModule}
    (hgiven : ∀ binding ∈ module.bindings, IsGiven binding.2) :
    ledger.Records (session.add module) := by
  have hmodule := session.module_add_or module
  have hnew {other : Nat} (hmem : other ∈ ledger.executed) :
      (session.add module).module other = session.module other :=
    (hmodule other).resolve_right fun heq => Nat.ne_of_lt (h.inside other hmem) heq.1
  refine ⟨h.count, h.positive, ?_, ?_, ?_, ?_⟩
  · intro other binding hmem
    rcases hmodule other with heq | ⟨-, heq⟩
    · exact h.holds other binding (heq ▸ hmem)
    · exact (hgiven binding (heq ▸ hmem)).holds ledger
  · intro other hmem
    exact Nat.lt_of_lt_of_le (h.inside other hmem) (by simp [Session.add])
  · exact fun other hmem => hnew hmem ▸ h.distinct other hmem
  · intro other hother binding hmem
    rcases hmodule other with heq | ⟨-, heq⟩
    · exact h.given other hother binding (heq ▸ hmem)
    · exact hgiven binding (heq ▸ hmem)

/-- A module that is to be executed is added with its handle. It has to bind each name once. -/
theorem Records.addExecuted (h : ledger.Records session) {module : PluginModule}
    (hgiven : ∀ binding ∈ module.bindings, IsGiven binding.2)
    (hdistinct : (module.bindings.map Prod.fst).Nodup) :
    ledger.Grows ⟨ledger.defined, session.modules.length :: ledger.executed⟩
    ∧ (⟨ledger.defined, session.modules.length :: ledger.executed⟩ : Ledger).Records
        (session.add module) := by
  have hadded := h.add hgiven
  refine ⟨⟨List.prefix_refl _, fun _ => List.mem_cons_of_mem _⟩, hadded.count, hadded.positive,
    hadded.holds, ?_, ?_, ?_⟩
  · intro other hmem
    rcases List.mem_cons.mp hmem with rfl | hmem
    · simp [Session.add]
    · exact hadded.inside other hmem
  · intro other hmem
    rcases List.mem_cons.mp hmem with rfl | hmem
    · have hself : (session.add module).module session.modules.length = module := by
        simp [Session.add, Session.module]
      rwa [hself]
    · exact hadded.distinct other hmem
  · exact fun other hother => hadded.given other fun hmem => hother (List.mem_cons_of_mem _ hmem)

end Ledger

/-- Ledgers are books that can be kept while modules are executed. -/
@[reducible]
def ledgers : Bookkeeping Ledger where
  Grows := Ledger.Grows
  Records := Ledger.Records
  Holds := Ledger.Holds
  Executes ledger handle := handle ∈ ledger.executed
  refl := .refl
  trans := .trans
  holds_grow hgrows hholds := hholds.grow hgrows
  executes_grow hgrows hhandle := hgrows.executed _ hhandle
  holds_given ledger _ hobject := hobject.holds ledger
  holds_bound hrecords := hrecords.holds
  created hrecords _ := hrecords.congr rfl rfl
  bind hrecords hhandle hobject := hrecords.bind hobject (.inl hhandle)
  unbind hrecords := hrecords.unbind
  define hrecords hbase owner definition :=
    ⟨_, hrecords.define
      (.define (hbase _ rfl).1 (Nat.ne_of_gt hrecords.positive) owner definition) rfl⟩

end Plugin

end WorkspaceLint
