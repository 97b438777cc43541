import WorkspaceLint.Proofs.Workspace.Walk

/-!
# What exclusions match

An exclusion is matched with the text of a path. Which text that is depends on where the path lies:
below the base it is the text of the names that lead down to it, and elsewhere that of the whole
path, `MatchedAs`. A path is excluded exactly if one of the exclusions matches it in this sense,
`isExcluded_iff`.
-/

namespace WorkspaceLint

namespace Path

/-- A beginning is dropped if and only if the names begin with it. -/
theorem dropBeginning?_eq_some_iff {beginning names rest : List String} :
    dropBeginning? beginning names = some rest ↔ names = beginning ++ rest := by
  induction beginning generalizing names with
  | nil => simp [dropBeginning?]
  | cons first beginning ih =>
    cases names with
    | nil => simp [dropBeginning?]
    | cons name names =>
      rw [dropBeginning?]
      by_cases hname : first = name
      · simp [hname, ih]
      · simp [hname, Ne.symm hname]

section

variable {path base : Path}

/-- Paths with the same anchor are compared part by part. -/
theorem relativeTo?_of_anchor_eq (h : path.anchor = base.anchor) :
    path.relativeTo? base = (dropBeginning? base.parts path.parts).map (⟨.relative, ·⟩) := by
  obtain ⟨anchor, parts⟩ := path
  obtain ⟨_, baseParts⟩ := base
  obtain rfl : anchor = _ := h
  cases anchor with
  | relative => simp [relativeTo?, components, isAbsolute]
  | root => simp [relativeTo?, components, dropBeginning?]
  | doubleRoot => simp [relativeTo?, components, dropBeginning?]

/-- The components of an anchored path are its anchor and its parts. -/
theorem components_of_anchor_ne (h : path.anchor ≠ .relative) :
    path.components = path.anchor.text :: path.parts := by
  obtain ⟨anchor, parts⟩ := path
  cases anchor with
  | relative => exact absurd rfl h
  | root => rfl
  | doubleRoot => rfl

/-- Anchors are told apart by their texts. -/
theorem anchor_text_injective : Function.Injective Anchor.text := by
  intro anchor other h
  cases anchor <;> cases other <;> first | rfl | exact absurd h (by decide)

/-- The text of an anchor that is not empty holds a slash, so it is no part of a proper path. -/
theorem IsProper.anchor_text_not_mem (hpath : path.IsProper) {anchor : Anchor}
    (hanchor : anchor ≠ .relative) : anchor.text ∉ path.parts := by
  intro hmem
  have hslash := (hpath _ hmem).2.2
  cases anchor with
  | relative => exact hanchor rfl
  | root => exact hslash (by decide)
  | doubleRoot => exact hslash (by decide)

/-- Nothing is dropped when the first names differ. -/
theorem dropBeginning?_of_ne {beginning names : List String} {first name : String}
    (h : first ≠ name) : dropBeginning? (first :: beginning) (name :: names) = none := by
  rw [dropBeginning?, if_neg h]

/-- Of two proper paths with different anchors neither lies below the other. -/
theorem relativeTo?_of_anchor_ne (hpath : path.IsProper) (hbase : base.IsProper)
    (h : path.anchor ≠ base.anchor) : path.relativeTo? base = none := by
  by_cases hrelative : base.anchor = .relative
  · have hanchor : path.anchor ≠ .relative := fun heq => h (heq.trans hrelative.symm)
    have hbaseComponents : base.components = base.parts := by rw [components, hrelative]
    rw [relativeTo?, components_of_anchor_ne hanchor, hbaseComponents, isAbsolute,
      decide_eq_true hanchor, Bool.and_true]
    cases hparts : base.parts with
    | nil => rfl
    | cons first parts =>
      -- The first component of the path is its anchor, which is no name.
      have hne : first ≠ path.anchor.text := fun heq =>
        hbase.anchor_text_not_mem hanchor (by rw [hparts, ← heq]; exact List.mem_cons_self)
      rw [dropBeginning?_of_ne hne]
      rfl
  · have hnone : dropBeginning? (base.anchor.text :: base.parts) path.components = none := by
      by_cases hanchor : path.anchor = .relative
      · rw [components, hanchor]
        cases hparts : path.parts with
        | nil => rfl
        | cons name parts =>
          exact dropBeginning?_of_ne fun heq =>
            hpath.anchor_text_not_mem hrelative (by rw [hparts, heq]; exact List.mem_cons_self)
      · rw [components_of_anchor_ne hanchor]
        exact dropBeginning?_of_ne fun heq => h (anchor_text_injective heq).symm
    rw [relativeTo?, components_of_anchor_ne hrelative, hnone]
    rfl

/-- A proper path lies below a base exactly if names lead down to it from there. -/
theorem relativeTo?_eq_some_iff {found : Path} (hpath : path.IsProper) (hbase : base.IsProper) :
    path.relativeTo? base = some found
      ↔ ∃ names, path = base.descend names ∧ found = ⟨.relative, names⟩ := by
  by_cases hanchor : path.anchor = base.anchor
  · have hdescend (names : List String) :
        path = base.descend names ↔ path.parts = base.parts ++ names := by
      rw [descend, ← hanchor]
      exact ⟨congrArg Path.parts, fun h => by rw [← h]⟩
    rw [relativeTo?_of_anchor_eq hanchor, Option.map_eq_some_iff]
    exact exists_congr fun names =>
      and_congr (dropBeginning?_eq_some_iff.trans (hdescend names).symm) eq_comm
  · rw [relativeTo?_of_anchor_ne hpath hbase hanchor]
    constructor
    · intro h
      cases h
    · rintro ⟨names, rfl, -⟩
      exact absurd rfl hanchor

end

end Path

/-- The path with the text of which exclusions are matched: the names that lead from the base down
to a path below it, and the whole path elsewhere. -/
inductive MatchedAs (base path : Path) : Path → Prop
  | below {names : List String} (h : path = base.descend names) :
      MatchedAs base path ⟨.relative, names⟩
  | elsewhere (h : ∀ names, path ≠ base.descend names) : MatchedAs base path path

/-- An exclusion matches a path, relative to a base. -/
def Excludes (base : Path) (pattern : String) (path : Path) : Prop :=
  ∃ matched, MatchedAs base path matched ∧ matchesPattern pattern matched.text = true

section

variable {base path : Path}

/-- A path is matched as what it is relative to the base, if it is proper. -/
theorem matchedAs_iff (hpath : path.IsProper) (hbase : base.IsProper) {matched : Path} :
    MatchedAs base path matched ↔ matched = path.relativeOrWhole base := by
  have hsome (found : Path) : path.relativeTo? base = some found
      ↔ ∃ names, path = base.descend names ∧ found = ⟨.relative, names⟩ :=
    Path.relativeTo?_eq_some_iff hpath hbase
  unfold Path.relativeOrWhole
  cases hrelative : path.relativeTo? base with
  | some found =>
    obtain ⟨names, rfl, rfl⟩ := (hsome found).mp hrelative
    constructor
    · rintro (⟨h⟩ | ⟨h⟩)
      · rw [base.descend_injective h]
        rfl
      · exact absurd rfl (h names)
    · rintro rfl
      exact .below rfl
  | none =>
    -- A path with no relative form lies nowhere below the base.
    have hne (names : List String) : path ≠ base.descend names := fun h =>
      Option.some_ne_none _ (((hsome _).mpr ⟨names, h, rfl⟩).symm.trans hrelative)
    constructor
    · rintro (⟨h⟩ | ⟨h⟩)
      · exact absurd h (hne _)
      · rfl
    · rintro rfl
      exact .elsewhere hne

/-- A path is excluded exactly if one of the exclusions matches it. -/
theorem isExcluded_iff (hpath : path.IsProper) (hbase : base.IsProper) {exclusions : List String} :
    isExcluded exclusions base path = true ↔ ∃ pattern ∈ exclusions, Excludes base pattern path := by
  simp only [isExcluded, List.any_eq_true, Excludes, matchedAs_iff hpath hbase, exists_eq_left]

/-- A path is kept if and only if no exclusion matches it. -/
theorem isExcluded_eq_false_iff (hpath : path.IsProper) (hbase : base.IsProper)
    {exclusions : List String} :
    isExcluded exclusions base path = false
      ↔ ∀ pattern ∈ exclusions, ¬ Excludes base pattern path := by
  rw [← Bool.not_eq_true, isExcluded_iff hpath hbase]
  push Not
  rfl

end

end WorkspaceLint
