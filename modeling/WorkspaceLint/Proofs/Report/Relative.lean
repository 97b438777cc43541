import WorkspaceLint.Proofs.Workspace.Walk
import WorkspaceLint.Report.Basic

/-!
# How a path is displayed

A report strips a directory from a path by comparing texts. On resolved paths the comparison means
what it should: the directory is stripped exactly if names lead from it down to the path, and what
is left are these names. The root of the file system is the exception; its text already ends with a
slash, so nothing is stripped from the paths below it.

* `Path.text_descend`           — the text of a path below a directory.
* `Path.exists_descend_of_text` — a text that begins with a directory is that of a path below it.
* `relativize_cases`            — what is displayed is the names below the directory or the whole
  path.
* `relativize_injective`        — resolved paths that are displayed alike are the same.
-/

namespace WorkspaceLint

/-! ## Texts of paths below a directory -/

/-- A text has at least one piece. -/
theorem Text.splitAt_ne_nil (separator : Char) (text : List Char) : splitAt separator text ≠ [] := by
  cases text with
  | nil => simp [splitAt]
  | cons c text =>
    rw [splitAt]
    split
    · exact List.cons_ne_nil _ _
    · split <;> exact List.cons_ne_nil _ _

/-- Texts with the separator between them are split each on its own. -/
theorem Text.splitAt_append_separator (separator : Char) (text rest : List Char) :
    splitAt separator (text ++ separator :: rest)
      = splitAt separator text ++ splitAt separator rest := by
  induction text with
  | nil => simp [splitAt]
  | cons c text ih =>
    obtain ⟨piece, pieces, hpieces⟩ := List.exists_cons_of_ne_nil (splitAt_ne_nil separator text)
    rw [hpieces] at ih
    rw [List.cons_append, splitAt, splitAt, ih, hpieces]
    split <;> rfl

namespace Path

/-- Texts with a slash between them have the parts of both. -/
theorem partsOf_append_slash (text rest : List Char) :
    partsOf (text ++ '/' :: rest) = partsOf text ++ partsOf rest := by
  simp only [partsOf, Text.splitAt_append_separator, List.filter_append, List.map_append]

/-- The first of several names stands in front of a slash. -/
theorem joinNames_cons {name : String} {names : List String} (h : names ≠ []) :
    joinNames (name :: names) = name ++ "/" ++ joinNames names := by
  obtain ⟨second, names, rfl⟩ := List.exists_cons_of_ne_nil h
  rfl

/-- Names and further names are joined by a slash. -/
theorem joinNames_append {names others : List String} (hnames : names ≠ []) (hothers : others ≠ []) :
    joinNames (names ++ others) = joinNames names ++ "/" ++ joinNames others := by
  induction names with
  | nil => exact absurd rfl hnames
  | cons name names ih =>
    by_cases hempty : names = []
    · rw [hempty]
      exact joinNames_cons hothers
    · rw [List.cons_append, joinNames_cons (by simp [hempty]), ih hempty, joinNames_cons hempty]
      simp only [String.append_assoc]

/-- Names are told apart by what they are joined to. -/
theorem joinNames_injective {names others : List String} (hnames : ∀ name ∈ names, IsName name)
    (hothers : ∀ name ∈ others, IsName name) (h : joinNames names = joinNames others) :
    names = others := by
  rw [← partsOf_joinNames hnames, h, partsOf_joinNames hothers]

variable {path root other : Path} {names : List String}

/-- The text of a resolved path is a slash and its names, joined. -/
theorem IsResolved.text_eq (hpath : path.IsResolved) : path.text = "/" ++ joinNames path.parts := by
  rw [text, hpath.anchor]
  rfl

/-- A resolved path does not begin with two slashes. -/
theorem IsResolved.text_ne_doubleSlash (hpath : path.IsResolved) (rest : List Char) :
    path.text.toList ≠ '/' :: '/' :: rest := by
  intro h
  rw [hpath.text_eq, String.toList_append] at h
  have hnames : (joinNames path.parts).toList = '/' :: rest := (List.cons.inj h).2
  exact head_joinNames_ne_slash hpath.isProper (by rw [hnames]; rfl)

/-- The text of a path below a directory other than the root of the file system. -/
theorem text_descend (hroot : root.IsResolved) (hparts : root.parts ≠ [])
    (hnames : ∀ name ∈ names, IsEntryName name) (hne : names ≠ []) :
    (root.descend names).text = root.text ++ "/" ++ joinNames names := by
  rw [(hroot.descend hnames).text_eq, hroot.text_eq, descend, joinNames_append hparts hne]
  simp only [String.append_assoc]

/-- A resolved path whose text begins with that of a directory and a slash lies below the directory,
which is not the root of the file system. -/
theorem exists_descend_of_text (hpath : path.IsResolved) (hroot : root.IsResolved)
    {rest : List Char} (h : path.text.toList = root.text.toList ++ '/' :: rest) :
    root.parts ≠ [] ∧ ∃ names ≠ [], (∀ name ∈ names, IsEntryName name)
      ∧ path = root.descend names := by
  have hparts : path.parts = root.parts ++ partsOf rest := by
    have hread := congrArg partsOf h
    rw [partsOf_append_slash] at hread
    rwa [← ofText_text hpath.isProper, ← ofText_text hroot.isProper]
  have hdescend : path = root.descend (partsOf rest) := by
    rw [descend, ← hparts, hroot.anchor, ← hpath.anchor]
  refine ⟨fun hempty => ?_, partsOf rest, fun hempty => ?_, fun name hname => ?_, hdescend⟩
  · -- The text of the root of the file system is a slash, so there would be two of them.
    rw [hroot.text_eq, hempty] at h
    exact hpath.text_ne_doubleSlash rest h
  · rw [hdescend, hempty, descend, List.append_nil] at h
    simpa using congrArg List.length h
  · exact hpath.parts name (hparts ▸ List.mem_append_right _ hname)

end Path

/-! ## What is displayed -/

namespace Report

open WorkspaceLint.Path

variable {path root other : Path} {names : List String}

/-- A path below a directory other than the root of the file system is displayed by the names that
lead down to it. -/
theorem relativize_descend (hroot : root.IsResolved) (hparts : root.parts ≠ [])
    (hnames : ∀ name ∈ names, IsEntryName name) (hne : names ≠ []) :
    relativize (root.descend names).text root.text = joinNames names := by
  have htext : (root.descend names).text.toList
      = (root.text.toList ++ ['/']) ++ (joinNames names).toList := by
    rw [text_descend hroot hparts hnames hne, String.toList_append, String.toList_append]
    rfl
  have hroot_ne : root.text ≠ "" := by
    rw [hroot.text_eq]
    intro h
    simpa using congrArg String.toList h
  simp [relativize, htext, hroot_ne]

/-- What is displayed of a resolved path: the names that lead down to it from a directory other than
the root of the file system, or else the whole path. -/
theorem relativize_cases (hpath : path.IsResolved) (hroot : root.IsResolved) :
    (∃ names ≠ [], (∀ name ∈ names, IsEntryName name) ∧ path = root.descend names
      ∧ relativize path.text root.text = joinNames names)
    ∨ relativize path.text root.text = path.text := by
  by_cases hbelow : (root.text.toList ++ ['/']).isPrefixOf path.text.toList = true
  · obtain ⟨rest, hrest⟩ := List.isPrefixOf_iff_prefix.mp hbelow
    have htext : path.text.toList = root.text.toList ++ '/' :: rest := by simpa using hrest.symm
    obtain ⟨hparts, names, hne, hnames, rfl⟩ := exists_descend_of_text hpath hroot htext
    exact .inl ⟨names, hne, hnames, rfl, relativize_descend hroot hparts hnames hne⟩
  · right
    simp [relativize, hbelow]

/-- Names that lead down from a directory are not displayed like a whole path. -/
theorem joinNames_ne_text (hnames : ∀ name ∈ names, IsEntryName name) (hother : other.IsResolved) :
    joinNames names ≠ other.text := by
  intro h
  have hhead := head_joinNames_ne_slash fun name hname => (hnames name hname).1
  rw [h, hother.text_eq] at hhead
  exact hhead (by simp)

/-- Resolved paths that are displayed alike are the same. -/
theorem relativize_injective (hpath : path.IsResolved) (hother : other.IsResolved)
    (hroot : root.IsResolved) (h : relativize path.text root.text = relativize other.text root.text) :
    path = other := by
  -- Two paths below the directory are told apart by their names, two others by their texts; the
  -- names that lead to a path below never begin with a slash, and a whole path does.
  rcases relativize_cases hpath hroot with ⟨names, -, hnames, rfl, hshown⟩ | hshown <;>
    rcases relativize_cases hother hroot with ⟨others, -, hothers, rfl, hshown'⟩ | hshown' <;>
    rw [hshown, hshown'] at h
  · rw [joinNames_injective (fun name hname => (hnames name hname).1)
      (fun name hname => (hothers name hname).1) h]
  · exact absurd h (joinNames_ne_text hnames hother)
  · exact absurd h.symm (joinNames_ne_text hothers hpath)
  · exact eq_of_text_eq hpath.isProper hother.isProper h

end Report

end WorkspaceLint
