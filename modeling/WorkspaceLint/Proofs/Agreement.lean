import Mathlib.Data.List.Perm.Basic
import WorkspaceLint.Proofs.Outcome

/-!
# Outcomes that agree

Two pieces of work may come to the same without being the same work: the items may be taken in
another order, and then a traversal that fails may fail at another item. `Agree` leaves the faults
of such work open and relates its values; `agree_mapM_of_perm` and `agree_flatten_of_perm` say it of
traversals.

`SameUpTo` is for results that are the same but for faults of one kind, and `Reported.SameUpTo` for
work that reports the same diagnostics besides. It is kept by whatever is made of such work,
`Reported.SameUpTo.andThen`, `Reported.SameUpTo.forEach`.
-/

namespace WorkspaceLint

/-- Both results are faults, or both are values and these are related. -/
inductive Agree {ε δ α β : Type} (R : α → β → Prop) : Except ε α → Except δ β → Prop
  | ok {value : α} {other : β} (h : R value other) : Agree R (.ok value) (.ok other)
  | error (fault : ε) (other : δ) : Agree R (.error fault) (.error other)

section

variable {ε α β γ δ : Type} {R : α → β → Prop}

/-- Equal results agree, their values by equality. -/
theorem Agree.of_eq {result other : Except ε α} (h : result = other) : Agree Eq result other := by
  subst h
  cases result with
  | error fault => exact .error fault fault
  | ok value => exact .ok rfl

/-- Values that are related are those that the two results have. -/
theorem Agree.attach {result : Except ε α} {other : Except δ β} (h : Agree R result other) :
    Agree (fun value last => result = .ok value ∧ other = .ok last ∧ R value last) result other := by
  cases h with
  | ok h => exact .ok ⟨rfl, rfl, h⟩
  | error fault other => exact .error fault other

/-- Values that agree by one relation agree by each weaker one. -/
theorem Agree.imp {S : α → β → Prop} (hvalues : ∀ value other, R value other → S value other)
    {result : Except ε α} {other : Except ε β} (h : Agree R result other) :
    Agree S result other := by
  cases h with
  | ok h => exact .ok (hvalues _ _ h)
  | error fault other => exact .error fault other

/-- Results that agree still do when each value is mapped, if the relation is carried to what the
values become. -/
theorem Agree.map {S : γ → δ → Prop} {f : α → γ} {g : β → δ}
    (hvalues : ∀ value other, R value other → S (f value) (g other)) {result : Except ε α}
    {other : Except ε β} (h : Agree R result other) : Agree S (result.map f) (other.map g) := by
  cases h with
  | ok h => exact .ok (hvalues _ _ h)
  | error fault other => exact .error fault other

/-- Agreement is kept by a bind whose continuations agree on related values. -/
theorem Agree.bind {S : γ → δ → Prop} {next : α → Except ε γ} {next' : β → Except ε δ}
    {result : Except ε α} {other : Except ε β} (h : Agree R result other)
    (hnext : ∀ value other, R value other → Agree S (next value) (next' other)) :
    Agree S (result >>= next) (other >>= next') := by
  cases h with
  | ok h => exact hnext _ _ h
  | error fault other => exact .error fault other

/-- Agreement composes through the result in the middle. -/
theorem Agree.trans {S : β → γ → Prop} {result : Except ε α} {other : Except ε β}
    {third : Except ε γ} (h : Agree R result other) (h' : Agree S other third) :
    Agree (fun value last => ∃ middle, R value middle ∧ S middle last) result third := by
  cases h with
  | ok h =>
    cases h' with
    | ok h' => exact .ok ⟨_, h, h'⟩
  | error fault =>
    cases h' with
    | error _ other => exact .error fault other

/-- Traversals of the same items agree if their steps do. -/
theorem Agree.mapM {f : γ → Except ε α} {g : γ → Except ε β} {items : List γ}
    (h : ∀ item ∈ items, Agree R (f item) (g item)) :
    Agree (List.Forall₂ R) (items.mapM f) (items.mapM g) := by
  induction items with
  | nil => exact .ok .nil
  | cons item items ih =>
    obtain ⟨hitem, hitems⟩ := List.forall_mem_cons.mp h
    rw [List.mapM_cons, List.mapM_cons]
    exact hitem.bind fun value other hvalue =>
      (ih hitems).bind fun values others hvalues => .ok (.cons hvalue hvalues)

/-- A traversal of the same items in another order fails as well, or has the same values in another
order. -/
theorem agree_mapM_of_perm {f : γ → Except ε α} {items others : List γ} (h : items.Perm others) :
    Agree List.Perm (items.mapM f) (others.mapM f) := by
  induction h with
  | nil => exact .ok .nil
  | cons item _ ih =>
    rw [List.mapM_cons, List.mapM_cons]
    refine (Agree.of_eq rfl).bind fun value _ hvalue => ih.bind fun values others hvalues => ?_
    exact hvalue ▸ .ok (hvalues.cons value)
  | swap item other items =>
    simp only [List.mapM_cons]
    -- The one that comes first may fail before the other is looked at.
    generalize f item = first, f other = second, items.mapM f = rest
    cases first with
    | error fault => cases second <;> exact .error _ _
    | ok value =>
      cases second with
      | error fault => exact .error _ _
      | ok last =>
        cases rest with
        | error fault => exact .error _ _
        | ok values => exact .ok (.swap _ _ values)
  | trans _ _ ih ih' => exact (ih.trans ih').imp fun _ _ ⟨_, h, h'⟩ => h.trans h'

/-- Traversals whose steps find the same in some order find the same in some order. -/
theorem agree_flatten_of_perm {f g : γ → Except ε (List α)} {items others : List γ}
    (hitems : items.Perm others) (hsteps : ∀ item ∈ items, Agree List.Perm (f item) (g item)) :
    Agree (fun found last => found.flatten.Perm last.flatten) (items.mapM f) (others.mapM g) :=
  ((Agree.mapM hsteps).trans (agree_mapM_of_perm hitems)).imp
    fun _ _ ⟨_, hvalues, hperm⟩ => (List.Perm.flatten_congr hvalues).trans hperm.flatten

end

/-! ## The same up to a kind of fault -/

/-- Two results are the same, or both are faults of one kind. -/
def SameUpTo {ε α : Type} (Kind : ε → Prop) (result other : Except ε α) : Prop :=
  result = other
    ∨ (∃ fault, result = .error fault ∧ Kind fault) ∧ ∃ fault, other = .error fault ∧ Kind fault

namespace SameUpTo

variable {ε δ α β : Type} {Kind : ε → Prop} {result other : Except ε α}

/-- Two failures of the kind are the same up to the kind, whichever faults they are. -/
theorem error {fault last : ε} (h : Kind fault) (h' : Kind last) :
    SameUpTo Kind (.error fault : Except ε α) (.error last) :=
  .inr ⟨⟨fault, rfl, h⟩, last, rfl, h'⟩

/-- Results that agree are the same where related values are and all faults are of the kind. -/
theorem of_agree (h : Agree Eq result other)
    (hresult : ∀ fault, result = .error fault → Kind fault)
    (hother : ∀ fault, other = .error fault → Kind fault) : SameUpTo Kind result other := by
  cases h with
  | ok h => exact .inl (congrArg Except.ok h)
  | error fault last => exact .error (hresult fault rfl) (hother last rfl)

/-- Mapping the values keeps results the same up to the kind. -/
theorem map (h : SameUpTo Kind result other) (f : α → β) :
    SameUpTo Kind (result.map f) (other.map f) := by
  rcases h with rfl | ⟨⟨fault, rfl, hfault⟩, last, rfl, hlast⟩
  · exact .inl rfl
  · exact .error hfault hlast

/-- Mapping the faults keeps results the same, up to the kind that the faults are mapped to. -/
theorem mapError {Kind' : δ → Prop} {f : ε → δ} (hf : ∀ fault, Kind fault → Kind' (f fault))
    (h : SameUpTo Kind result other) : SameUpTo Kind' (result.mapError f) (other.mapError f) := by
  rcases h with rfl | ⟨⟨fault, rfl, hfault⟩, last, rfl, hlast⟩
  · exact .inl rfl
  · exact .error (hf fault hfault) (hf last hlast)

end SameUpTo

namespace Reported

variable {ε δ α β : Type} {Kind : ε → Prop}

/-- Two pieces of work report the same and come to the same, unless both fail with a fault of one
kind. -/
structure SameUpTo (Kind : ε → Prop) (work other : Reported ε α) : Prop where
  diagnostics : work.diagnostics = other.diagnostics
  outcome : WorkspaceLint.SameUpTo Kind work.outcome other.outcome

namespace SameUpTo

variable {work other : Reported ε α}

/-- Equal pieces of work are the same up to every kind. -/
theorem of_eq (h : work = other) : SameUpTo Kind work other :=
  ⟨congrArg Reported.diagnostics h, .inl (congrArg Reported.outcome h)⟩

/-- Mapping the values keeps pieces of work the same up to the kind. -/
theorem map (h : SameUpTo Kind work other) (f : α → β) :
    SameUpTo Kind (work.map f) (other.map f) :=
  ⟨h.diagnostics, h.outcome.map f⟩

/-- Mapping the faults keeps pieces of work the same, up to the kind that the faults are mapped
to. -/
theorem mapFault {Kind' : δ → Prop} {f : ε → δ} (hf : ∀ fault, Kind fault → Kind' (f fault))
    (h : SameUpTo Kind work other) : SameUpTo Kind' (work.mapFault f) (other.mapFault f) :=
  ⟨h.diagnostics, h.outcome.mapError hf⟩

/-- What follows two pieces of work has to be the same only for a value that the first one came
to. -/
theorem andThen {next next' : α → Reported ε β} (h : SameUpTo Kind work other)
    (hnext : ∀ value, work.outcome = .ok value → SameUpTo Kind (next value) (next' value)) :
    SameUpTo Kind (work.andThen next) (other.andThen next') := by
  unfold Reported.andThen
  rcases h.outcome with heq | ⟨⟨fault, hfault, hkind⟩, last, hlast, hkind'⟩
  · rw [← heq]
    cases hwork : work.outcome with
    | error fault => exact ⟨h.diagnostics, .inl rfl⟩
    | ok value =>
      have hvalue := hnext value hwork
      exact ⟨congrArg₂ _ h.diagnostics hvalue.diagnostics, hvalue.outcome⟩
  · rw [hfault, hlast]
    exact ⟨h.diagnostics, .error hkind hkind'⟩

/-- Work item by item is the same up to the kind when each of its steps is. -/
theorem forEach {γ : Type} {step step' : γ → Reported ε α} {items : List γ}
    (hstep : ∀ item ∈ items, SameUpTo Kind (step item) (step' item)) :
    SameUpTo Kind (Reported.forEach step items) (Reported.forEach step' items) := by
  induction items with
  | nil => exact of_eq rfl
  | cons item items ih =>
    obtain ⟨hitem, hitems⟩ := List.forall_mem_cons.mp hstep
    exact hitem.andThen fun value _ => (ih hitems).map (value :: ·)

end SameUpTo

end Reported

end WorkspaceLint
