import Mathlib.Data.List.Nodup
import WorkspaceLint.Path.Basic

/-!
# Lists of paths in order and without repetition

Paths are compared by their components in the dictionary order, which is total and transitive. So
sorting puts every path before or beside all that follow it, `Path.pairwise_sorted`. Erasing
repetitions leaves none, `nodup_eraseDups`, and keeps the order in which the items are first met,
`firstOccurrences_eraseDups`.
-/

namespace WorkspaceLint

/-- A list from which duplicates were erased has none. -/
theorem nodup_eraseDups {α : Type} [BEq α] [LawfulBEq α] (items : List α) :
    items.eraseDups.Nodup := by
  induction hlength : items.length using Nat.strongRecOn generalizing items with
  | ind length ih =>
    cases items with
    | nil => exact List.nodup_nil
    | cons item items =>
      rw [List.eraseDups_cons, List.nodup_cons]
      refine ⟨fun hmem => by simpa using List.mem_eraseDups.mp hmem, ih _ ?_ _ rfl⟩
      rw [← hlength]
      exact Nat.lt_succ_of_le (List.length_filter_le _ _)

/-- What is left of a list keeps the order in which two items are first met. -/
theorem idxOf_filter_lt_iff {α : Type} [BEq α] [LawfulBEq α] {keeps : α → Bool} {items : List α}
    {item other : α} (hitem : keeps item = true) (hother : keeps other = true) :
    (items.filter keeps).idxOf item < (items.filter keeps).idxOf other
      ↔ items.idxOf item < items.idxOf other := by
  induction items with
  | nil => simp
  | cons first items ih =>
    by_cases hfirst : keeps first = true
    · simp only [List.filter_cons_of_pos hfirst, List.idxOf_cons]
      cases first == item <;> cases first == other <;> simp [ih]
    · have hne : (first == item) = false := beq_false_of_ne (by rintro rfl; exact hfirst hitem)
      have hne' : (first == other) = false := beq_false_of_ne (by rintro rfl; exact hfirst hother)
      simp [List.filter_cons_of_neg hfirst, List.idxOf_cons, hne, hne', ih]

/-- Each item of a list once, in the order in which the items are first met. -/
structure FirstOccurrences {α : Type} [BEq α] (items distinct : List α) : Prop where
  mem : ∀ item, item ∈ distinct ↔ item ∈ items
  ordered : distinct.Pairwise fun item other => items.idxOf item < items.idxOf other

/-- First occurrences repeat nothing. -/
theorem FirstOccurrences.nodup {α : Type} [BEq α] {items distinct : List α}
    (h : FirstOccurrences items distinct) : distinct.Nodup :=
  h.ordered.imp fun hlt heq => absurd (heq ▸ hlt) (Nat.lt_irrefl _)

/-- What a filter keeps of the first occurrences are those of what it keeps. -/
theorem FirstOccurrences.filter {α : Type} [BEq α] [LawfulBEq α] {items distinct : List α}
    (h : FirstOccurrences items distinct) (keeps : α → Bool) :
    FirstOccurrences (items.filter keeps) (distinct.filter keeps) := by
  refine ⟨fun item => by simp [h.mem], ?_⟩
  refine (h.ordered.filter keeps).imp_of_mem fun hitem hother hlt => ?_
  exact (idxOf_filter_lt_iff (List.mem_filter.mp hitem).2 (List.mem_filter.mp hother).2).mpr hlt

/-- An item comes first, and behind it the others are met in the order in which they are without
it. -/
theorem FirstOccurrences.cons {α : Type} [BEq α] [LawfulBEq α] {first : α} {items distinct : List α}
    (h : FirstOccurrences (items.filter fun other => !other == first) distinct) :
    FirstOccurrences (first :: items) (first :: distinct) := by
  have hne {item : α} (hitem : item ∈ distinct) :
      (first == item) = false ∧ (!item == first) = true := by
    have hkept := (List.mem_filter.mp ((h.mem item).mp hitem)).2
    rw [Bool.not_eq_true'] at hkept
    exact ⟨(BEq.comm).trans hkept, by rw [hkept, Bool.not_false]⟩
  refine ⟨fun item => ?_, List.pairwise_cons.mpr ⟨fun item hitem => ?_, ?_⟩⟩
  · rw [List.mem_cons, List.mem_cons, h.mem, List.mem_filter]
    by_cases heq : item = first
    · simp [heq]
    · simp [heq]
  · simp [List.idxOf_cons, (hne hitem).1]
  · refine h.ordered.imp_of_mem fun {item other} hitem hother hlt => ?_
    have hbehind : items.idxOf item < items.idxOf other :=
      (@idxOf_filter_lt_iff _ _ _ (fun kept => !kept == first) _ _ _ (hne hitem).2
        (hne hother).2).mp hlt
    simp [List.idxOf_cons, (hne hitem).1, (hne hother).1, hbehind]

/-- Erasing repetitions leaves the first occurrences. -/
theorem firstOccurrences_eraseDups {α : Type} [BEq α] [LawfulBEq α] (items : List α) :
    FirstOccurrences items items.eraseDups := by
  induction hlength : items.length using Nat.strongRecOn generalizing items with
  | ind length ih =>
    cases items with
    | nil => exact ⟨fun item => List.mem_eraseDups, .nil⟩
    | cons first items =>
      rw [List.eraseDups_cons]
      refine .cons (ih _ ?_ _ rfl)
      rw [← hlength]
      exact Nat.lt_succ_of_le (List.length_filter_le _ _)

namespace Path

/-- The order of lists of names is transitive. -/
theorem namesPrecede_trans {first second third : List String} (h : namesPrecede first second = true)
    (h' : namesPrecede second third = true) : namesPrecede first third = true := by
  induction first generalizing second third with
  | nil => rfl
  | cons a first ih =>
    cases second with
    | nil => cases h
    | cons b second =>
      cases third with
      | nil => cases h'
      | cons c third =>
        rw [namesPrecede] at h h' ⊢
        -- The order is that of the first names that differ, in each of the two pairs.
        by_cases hab : a = b
        · subst hab
          rw [if_pos rfl] at h
          by_cases hac : a = c
          · rw [if_pos hac] at h' ⊢
            exact ih h h'
          · rwa [if_neg hac] at h' ⊢
        · have hlt : a < b := by simpa [hab] using h
          by_cases hbc : b = c
          · subst hbc
            rwa [if_neg hab] at h ⊢
          · have hlt' : b < c := by simpa [hbc] using h'
            have hac : a ≠ c := by
              rintro rfl
              exact String.lt_asymm hlt hlt'
            rw [if_neg hac]
            exact decide_eq_true (String.lt_trans hlt hlt')

/-- Any two lists of names stand in the order one way or the other. -/
theorem namesPrecede_total (first second : List String) :
    namesPrecede first second = true ∨ namesPrecede second first = true := by
  induction first generalizing second with
  | nil => exact .inl rfl
  | cons a first ih =>
    cases second with
    | nil => exact .inr rfl
    | cons b second =>
      rw [namesPrecede, namesPrecede]
      by_cases hab : a = b
      · rw [if_pos hab, if_pos hab.symm]
        exact ih second
      · rw [if_neg hab, if_neg (Ne.symm hab), decide_eq_true_iff, decide_eq_true_iff]
        by_cases hlt : a < b
        · exact .inl hlt
        · refine .inr (Decidable.byContradiction fun hgt => hab ?_)
          exact String.le_antisymm (String.not_lt.mp hgt) (String.not_lt.mp hlt)

/-- The order of paths is transitive. -/
theorem precedes_trans {first second third : Path} (h : first.precedes second = true)
    (h' : second.precedes third = true) : first.precedes third = true :=
  namesPrecede_trans h h'

/-- Any two paths stand in the order one way or the other. -/
theorem precedes_total (first second : Path) :
    (first.precedes second || second.precedes first) = true :=
  Bool.or_eq_true_iff.mpr (namesPrecede_total first.components second.components)

/-- Sorted paths are in order. -/
theorem pairwise_sorted (paths : List Path) :
    (sorted paths).Pairwise fun first second => first.precedes second = true :=
  @List.pairwise_mergeSort Path precedes (fun _ _ _ => precedes_trans) precedes_total paths

/-- Sorting loses and adds no path. -/
theorem sorted_perm (paths : List Path) : (sorted paths).Perm paths :=
  List.mergeSort_perm paths precedes

/-- Nothing is sorted if and only if there is nothing. -/
theorem sorted_eq_nil_iff {paths : List Path} : sorted paths = [] ↔ paths = [] := by
  rw [← List.length_eq_zero_iff, (sorted_perm paths).length_eq, List.length_eq_zero_iff]

/-- A path is among the sorted ones if and only if it was there. -/
theorem mem_sorted {paths : List Path} {path : Path} : path ∈ sorted paths ↔ path ∈ paths :=
  (sorted_perm paths).mem_iff

end Path

end WorkspaceLint
