import WorkspaceLint.Proofs.Outcome
import WorkspaceLint.Workspace.Basic

/-!
# Findings that units build

A unit builds a finding in two steps: a place in its source is mapped to a location, and a finding
is made at the location. Where places are not mapped elsewhere, the finding lies in the unit,
`SourceUnit.path_of_finding`.
-/

namespace WorkspaceLint

/-- A validated function is applied exactly when both it and its argument are valid. -/
theorem Validated.apply_eq_ok_iff {α β : Type} {f : Validated (α → β)} {a : Validated α} {b : β} :
    f.apply a = .ok b ↔ ∃ g x, f = .ok g ∧ a = .ok x ∧ g x = b := by
  cases f <;> cases a <;> simp [Validated.apply]

/-- A location at a position of a path has that path. -/
theorem SourceLocation.path_of_ofPosition {path : String} {line column : Value}
    {location : SourceLocation} (h : ofPosition path line column = .ok location) :
    location.path = path := by
  obtain ⟨_, _, hline, -, rfl⟩ := Validated.apply_eq_ok_iff.mp h
  obtain ⟨_, _, hstart, -, rfl⟩ := Validated.apply_eq_ok_iff.mp hline
  obtain ⟨_, _, hmake, hpath, rfl⟩ := Validated.apply_eq_ok_iff.mp hstart
  cases hmake
  cases hpath
  rfl

/-- A finding at a location has the path of the location. -/
theorem Finding.path_of_ofLocation {location : SourceLocation} {code message : Value}
    {finding : Finding} (h : ofLocation location code message = .ok finding) :
    finding.path = location.path := by
  obtain ⟨_, _, hcode, -, rfl⟩ := Validated.apply_eq_ok_iff.mp h
  obtain ⟨_, _, hcolumn, -, rfl⟩ := Validated.apply_eq_ok_iff.mp hcode
  obtain ⟨_, _, hline, -, rfl⟩ := Validated.apply_eq_ok_iff.mp hcolumn
  obtain ⟨_, _, hstart, -, rfl⟩ := Validated.apply_eq_ok_iff.mp hline
  obtain ⟨_, _, hmake, hpath, rfl⟩ := Validated.apply_eq_ok_iff.mp hstart
  cases hmake
  cases hpath
  rfl

namespace SourceUnit

variable {unit : SourceUnit} {spot : Spot} {code message : Value}

/-- A unit whose positions are not mapped locates places in itself. -/
theorem path_of_locate (hmapper : unit.mapper = .identity) {location : SourceLocation}
    (h : unit.locate spot = .ok location) : location.path = unit.path := by
  rw [locate, hmapper] at h
  split at h
  · cases h
  · exact SourceLocation.path_of_ofPosition (mapError_eq_ok_iff.mp h)

/-- A unit whose positions are not mapped builds findings in itself. -/
theorem path_of_finding (hmapper : unit.mapper = .identity) {finding : Finding}
    (h : unit.finding spot code message = .ok finding) : finding.path = unit.path := by
  obtain ⟨location, hlocation, hfinding⟩ := bind_eq_ok_iff.mp h
  rw [Finding.path_of_ofLocation (mapError_eq_ok_iff.mp hfinding), path_of_locate hmapper hlocation]

end SourceUnit

end WorkspaceLint
