import Mathlib.Data.List.Forall2
import WorkspaceLint.Workspace.Diagnostic

/-!
# Outcomes of work that may fail

When work on a list of items has a result, it consists of the results of the steps, item by item.
Here this is said of the two ways in which items are worked on: `mapM_eq_ok_iff` for work that
reports nothing, and `Reported.forEach_outcome_eq_ok_iff` for work that reports diagnostics.

Such work fails exactly if one of its steps does, `mapM_fails_iff` and `Reported.forEach_fails_iff`,
and with the fault of a step, `exists_of_mapM_error`. What it reports is what its steps report, one
after another, `Reported.forEach_eq_of_forall₂`.
-/

namespace WorkspaceLint

/-- A mapped result has a value if and only if it is mapped from one. -/
theorem map_eq_ok_iff {ε α β : Type} {f : α → β} {result : Except ε α} {value : β} :
    result.map f = .ok value ↔ ∃ origin, result = .ok origin ∧ f origin = value := by
  cases result <;> simp [Except.map]

/-- What is left of a result is its value. -/
theorem toOption_eq_some_iff {ε α : Type} {result : Except ε α} {value : α} :
    result.toOption = some value ↔ result = .ok value := by
  cases result <;> simp [Except.toOption]

/-- Mapping the faults leaves the values as they are. -/
theorem mapError_eq_ok_iff {ε δ α : Type} {f : ε → δ} {result : Except ε α} {value : α} :
    result.mapError f = .ok value ↔ result = .ok value := by
  cases result <;> simp [Except.mapError]

/-- Mapping the values leaves the faults as they are. -/
theorem map_eq_error_iff {ε α β : Type} {f : α → β} {result : Except ε α} {fault : ε} :
    result.map f = .error fault ↔ result = .error fault := by
  cases result <;> simp [Except.map]

/-- A result with mapped faults fails if and only if its fault is mapped from one. -/
theorem mapError_eq_error_iff {ε δ α : Type} {f : ε → δ} {result : Except ε α} {fault : δ} :
    result.mapError f = .error fault ↔ ∃ origin, result = .error origin ∧ f origin = fault := by
  cases result <;> simp [Except.mapError]

/-- A bind has a value if and only if both of its parts have one. -/
theorem bind_eq_ok_iff {ε α β : Type} {result : Except ε α} {next : α → Except ε β} {value : β} :
    result >>= next = .ok value ↔ ∃ origin, result = .ok origin ∧ next origin = .ok value := by
  cases result <;> simp [bind, Except.bind]

/-- A bind fails if and only if its first part does, or the second after the first. -/
theorem bind_eq_error_iff {ε α β : Type} {result : Except ε α} {next : α → Except ε β} {fault : ε} :
    result >>= next = .error fault
      ↔ result = .error fault ∨ ∃ origin, result = .ok origin ∧ next origin = .error fault := by
  cases result <;> simp [bind, Except.bind]

/-- A traversal has a result exactly if every step has one, item by item. -/
theorem mapM_eq_ok_iff {ε α β : Type} {f : α → Except ε β} {items : List α} {values : List β} :
    items.mapM f = .ok values ↔ List.Forall₂ (fun item value => f item = .ok value) items values := by
  induction items generalizing values with
  | nil =>
    rw [List.mapM_nil, List.forall₂_nil_left_iff]
    exact ⟨fun h => (Except.ok.inj h).symm, fun h => congrArg Except.ok h.symm⟩
  | cons item items ih =>
    rw [List.mapM_cons, List.forall₂_cons_left_iff, bind_eq_ok_iff]
    constructor
    · rintro ⟨value, hitem, h⟩
      obtain ⟨rest, hrest, heq⟩ := bind_eq_ok_iff.mp h
      exact ⟨value, rest, hitem, ih.mp hrest, (Except.ok.inj heq).symm⟩
    · rintro ⟨value, rest, hitem, hrest, rfl⟩
      exact ⟨value, hitem, bind_eq_ok_iff.mpr ⟨rest, ih.mpr hrest, rfl⟩⟩

/-- In lists that are related item by item, every item of the second is related to one of the first.
-/
theorem exists_of_mem_forall₂ {α β : Type} {R : α → β → Prop} {items : List α} {values : List β}
    (h : List.Forall₂ R items values) {value : β} (hvalue : value ∈ values) :
    ∃ item ∈ items, R item value := by
  induction h with
  | nil => cases hvalue
  | cons hstep _ ih =>
    rcases List.mem_cons.mp hvalue with rfl | hvalue
    · exact ⟨_, List.mem_cons_self, hstep⟩
    · obtain ⟨item, hmem, hitem⟩ := ih hvalue
      exact ⟨item, List.mem_cons_of_mem _ hmem, hitem⟩

/-- The values that steps have are those that one of the items leads to. -/
theorem mem_iff_of_forall₂_ok {ε α β : Type} {f : α → Except ε β} {items : List α} {values : List β}
    (h : List.Forall₂ (fun item value => f item = .ok value) items values) {value : β} :
    value ∈ values ↔ ∃ item ∈ items, f item = .ok value := by
  constructor
  · exact exists_of_mem_forall₂ h
  · rintro ⟨item, hitem, hvalue⟩
    obtain ⟨other, hmem, hother⟩ := exists_of_mem_forall₂ h.flip hitem
    rwa [← Except.ok.inj (hother.symm.trans hvalue)]

/-- Where each two related items lead to a third one, related lists lead to a list of these. -/
theorem exists_pairs_of_forall₂ {α β γ : Type} {R : α → β → Prop} {S : α → β → γ → Prop}
    {items : List α} {values : List β} (h : List.Forall₂ R items values)
    (hstep : ∀ item value, R item value → ∃ other, S item value other) :
    ∃ pairs : List (β × γ), pairs.map Prod.fst = values
      ∧ List.Forall₂ (fun item pair => S item pair.1 pair.2) items pairs := by
  induction h with
  | nil => exact ⟨[], rfl, .nil⟩
  | @cons item value _ _ hrelated _ ih =>
    obtain ⟨other, hother⟩ := hstep item value hrelated
    obtain ⟨pairs, rfl, hpairs⟩ := ih
    exact ⟨(value, other) :: pairs, rfl, .cons hother hpairs⟩

/-- A traversal that fails does so with the fault of one of its steps. -/
theorem exists_of_mapM_error {ε α β : Type} {f : α → Except ε β} {items : List α} {fault : ε}
    (h : items.mapM f = .error fault) : ∃ item ∈ items, f item = .error fault := by
  induction items with
  | nil => cases h
  | cons item items ih =>
    rw [List.mapM_cons] at h
    rcases bind_eq_error_iff.mp h with hitem | ⟨value, -, h⟩
    · exact ⟨item, List.mem_cons_self, hitem⟩
    · rcases bind_eq_error_iff.mp h with hrest | ⟨rest, -, h⟩
      · obtain ⟨other, hmem, hother⟩ := ih hrest
        exact ⟨other, List.mem_cons_of_mem _ hmem, hother⟩
      · cases h

/-- A traversal fails exactly if one of its steps does. -/
theorem mapM_fails_iff {ε α β : Type} {f : α → Except ε β} {items : List α} :
    (∃ fault, items.mapM f = .error fault) ↔ ∃ item ∈ items, ∃ fault, f item = .error fault := by
  constructor
  · rintro ⟨fault, h⟩
    obtain ⟨item, hmem, hitem⟩ := exists_of_mapM_error h
    exact ⟨item, hmem, fault, hitem⟩
  · rintro ⟨item, hmem, fault, hitem⟩
    cases hall : items.mapM f with
    | error fault => exact ⟨fault, rfl⟩
    | ok values =>
      -- If there were a result, the step would have one as well.
      obtain ⟨value, -, hvalue⟩ := exists_of_mem_forall₂ (mapM_eq_ok_iff.mp hall).flip hmem
      rw [hitem] at hvalue
      cases hvalue

namespace Reported

variable {ε δ α β : Type}

/-- Two pieces of work succeed if and only if the first does and then the second. -/
theorem andThen_outcome_eq_ok_iff {work : Reported ε α} {next : α → Reported ε β} {value : β} :
    (work.andThen next).outcome = .ok value
      ↔ ∃ origin, work.outcome = .ok origin ∧ (next origin).outcome = .ok value := by
  unfold andThen
  cases work.outcome <;> simp

/-- Mapped work succeeds if and only if its value is mapped from one. -/
theorem map_outcome_eq_ok_iff {f : α → β} {work : Reported ε α} {value : β} :
    (work.map f).outcome = .ok value ↔ ∃ origin, work.outcome = .ok origin ∧ f origin = value :=
  map_eq_ok_iff

/-- Mapping the faults of work leaves the values as they are. -/
theorem mapFault_outcome_eq_ok_iff {f : ε → δ} {work : Reported ε α} {value : α} :
    (work.mapFault f).outcome = .ok value ↔ work.outcome = .ok value :=
  mapError_eq_ok_iff

/-- What comes of work on items is the traversal of what comes of the steps. -/
theorem forEach_outcome (step : α → Reported ε β) (items : List α) :
    (forEach step items).outcome = items.mapM fun item => (step item).outcome := by
  induction items with
  | nil => rfl
  | cons item items ih =>
    rw [List.mapM_cons, ← ih, forEach, andThen]
    cases (step item).outcome with
    | error fault => rfl
    | ok value => cases hrest : (forEach step items).outcome <;>
        simp [map, hrest, Except.map, bind, Except.bind, pure, Except.pure]

/-- Work on items one after another has a result exactly if every step has one, item by item. -/
theorem forEach_outcome_eq_ok_iff {step : α → Reported ε β} {items : List α} {values : List β} :
    (forEach step items).outcome = .ok values
      ↔ List.Forall₂ (fun item value => (step item).outcome = .ok value) items values := by
  rw [forEach_outcome]
  exact mapM_eq_ok_iff

/-! ### Work that fails -/

/-- Two pieces of work fail if and only if the first does, or the second after the first. -/
theorem andThen_outcome_eq_error_iff {work : Reported ε α} {next : α → Reported ε β} {fault : ε} :
    (work.andThen next).outcome = .error fault
      ↔ work.outcome = .error fault
        ∨ ∃ origin, work.outcome = .ok origin ∧ (next origin).outcome = .error fault := by
  unfold andThen
  cases work.outcome <;> simp

/-- Mapping the values of work leaves the faults as they are. -/
theorem map_outcome_eq_error_iff {f : α → β} {work : Reported ε α} {fault : ε} :
    (work.map f).outcome = .error fault ↔ work.outcome = .error fault :=
  map_eq_error_iff

/-- Work with mapped faults fails if and only if its fault is mapped from one. -/
theorem mapFault_outcome_eq_error_iff {f : ε → δ} {work : Reported ε α} {fault : δ} :
    (work.mapFault f).outcome = .error fault
      ↔ ∃ origin, work.outcome = .error origin ∧ f origin = fault :=
  mapError_eq_error_iff

/-- Work on items that fails does so with the fault of one of its steps. -/
theorem exists_of_forEach_error {step : α → Reported ε β} {items : List α} {fault : ε}
    (h : (forEach step items).outcome = .error fault) :
    ∃ item ∈ items, (step item).outcome = .error fault :=
  exists_of_mapM_error ((forEach_outcome step items).symm.trans h)

/-- Work on items fails exactly if one of its steps does. -/
theorem forEach_fails_iff {step : α → Reported ε β} {items : List α} :
    (∃ fault, (forEach step items).outcome = .error fault)
      ↔ ∃ item ∈ items, ∃ fault, (step item).outcome = .error fault := by
  rw [forEach_outcome]
  exact mapM_fails_iff

/-! ### What is reported -/

/-- Where every step has a result, the diagnostics of the steps follow one another. -/
theorem forEach_diagnostics_of_ok {step : α → Reported ε β} {items : List α} {values : List β}
    (h : (forEach step items).outcome = .ok values) :
    (forEach step items).diagnostics = items.flatMap fun item => (step item).diagnostics := by
  induction items generalizing values with
  | nil => rfl
  | cons item items ih =>
    obtain ⟨value, hitem, hrest⟩ := andThen_outcome_eq_ok_iff.mp h
    obtain ⟨rest, hrest, -⟩ := map_outcome_eq_ok_iff.mp hrest
    rw [forEach, andThen, hitem, List.flatMap_cons, ← ih hrest]
    rfl

/-- Steps that are accounted for by records, one for each item, make up work that is accounted for
by the list of the records. -/
theorem forEach_eq_of_forall₂ {ρ : Type} {step : α → Reported ε β}
    {diagnosticsOf : ρ → List Diagnostic} {valueOf : ρ → β} {items : List α} {records : List ρ}
    (h : List.Forall₂ (fun item record => step item = ⟨diagnosticsOf record, .ok (valueOf record)⟩)
      items records) :
    forEach step items = ⟨records.flatMap diagnosticsOf, .ok (records.map valueOf)⟩ := by
  induction h with
  | nil => rfl
  | cons hitem _ ih =>
    rw [forEach, hitem, andThen, ih]
    rfl

end Reported

end WorkspaceLint
