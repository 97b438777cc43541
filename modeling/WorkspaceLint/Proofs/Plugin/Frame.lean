import WorkspaceLint.Proofs.Plugin.Bookkeeping

/-!
# What executing a module leaves alone

Of the table of loaded modules, executing a statement changes nothing by itself: only the imports in
it do. So whatever holds between the sessions before and after an import holds between those before
and after a whole execution, provided that it is a preorder and does not look at more than the table
and the directories of the packages in it, `IsFrame`.

* `steps_runFile` — from the imports of a module to its execution.
-/

namespace WorkspaceLint.Plugin

variable {α : Type} {R : Session → Session → Prop}

/-! ## Relations between sessions -/

/-- Two sessions with the same table of loaded modules, the second of which has the modules of the
first in the same directories and perhaps more. -/
structure SameTable (before after : Session) : Prop where
  registered : after.registered = before.registered
  length : before.modules.length ≤ after.modules.length
  search : ∀ handle < before.modules.length,
    (after.module handle).search = (before.module handle).search

/-- A preorder of sessions that holds between sessions with the same table. -/
structure IsFrame (R : Session → Session → Prop) : Prop where
  trans : ∀ {before mid after : Session}, R before mid → R mid after → R before after
  sameTable : ∀ {before after : Session}, SameTable before after → R before after

/-- Every session has its own table. -/
theorem SameTable.refl (session : Session) : SameTable session session :=
  ⟨rfl, Nat.le_refl _, fun _ _ => rfl⟩

/-- A frame is reflexive, since the table of a session is its own. -/
theorem IsFrame.refl (hR : IsFrame R) (session : Session) : R session session :=
  hR.sameTable (.refl session)

/-- A change that leaves the directories of a module leaves the table. -/
theorem sameTable_change (session : Session) (handle : Nat) {f : PluginModule → PluginModule}
    (hf : ∀ module, (f module).search = module.search) :
    SameTable session (session.change handle f) := by
  refine ⟨rfl, Nat.le_of_eq (Session.length_change session handle f).symm, fun other hlt => ?_⟩
  by_cases hother : other = handle
  · rw [hother, Session.module_change f (hother ▸ hlt), hf]
  · simp [Session.change, Session.module, Ne.symm hother]

/-- A piece of work leads from every session to one that is related to it, also when it fails. -/
def Steps (R : Session → Session → Prop) (work : Loading α) : Prop :=
  ∀ session, R session (work session).2

/-- A value leads to the same session. -/
theorem steps_pure (hR : IsFrame R) (value : α) : Steps R (pure value : Loading α) :=
  fun session => hR.refl session

/-- A fault leads to the same session. -/
theorem steps_throw (hR : IsFrame R) (fault : Fault) : Steps R (throw fault : Loading α) :=
  fun session => hR.refl session

/-! ## From imports to executions -/

/-- Books with a single page, which says that a session is related to the one at the start. -/
def IsFrame.books (hR : IsFrame R) (start : Session) : Bookkeeping Unit where
  Grows _ _ := True
  Records _ session := R start session
  Holds _ _ := True
  Executes _ _ := True
  refl _ := trivial
  trans _ _ := trivial
  holds_grow _ _ := trivial
  executes_grow _ _ := trivial
  holds_given _ _ _ := trivial
  holds_bound _ _ _ _ := trivial
  created h _ := hR.trans h (hR.sameTable ⟨rfl, Nat.le_refl _, fun _ _ => rfl⟩)
  bind h _ _ _ := hR.trans h (hR.sameTable (sameTable_change _ _ fun _ => rfl))
  unbind h _ _ := hR.trans h (hR.sameTable (sameTable_change _ _ fun _ => rfl))
  define h _ _ _ :=
    ⟨(), trivial, trivial, hR.trans h (hR.sameTable ⟨rfl, Nat.le_refl _, fun _ _ => rfl⟩)⟩

/-- What holds between the sessions before and after an import holds between those before and after
the execution of a file. -/
theorem steps_runFile (hR : IsFrame R) {importer : Importer}
    (himporter : ∀ name, Steps R (importer name)) (host : Host SourceFile) (handle : Nat)
    (path : Path) : Steps R (runFile host importer handle path) := by
  intro start
  have hyields (page : Unit) (name : String) :
      Yields (hR.books start) page (importer name) Anything :=
    fun session hsession =>
      ⟨(), trivial, hR.trans hsession (himporter name session), fun _ _ => trivial⟩
  have hfile : Yields (hR.books start) () (runFile host importer handle path) Anything :=
    yields_runFile hyields host trivial path
  obtain ⟨_, -, hrecords, -⟩ := hfile start (hR.refl start)
  exact hrecords

end WorkspaceLint.Plugin
