import Mathlib.Data.List.Basic
import WorkspaceLint.Path.Basic

/-!
# Paths and their texts

A path whose parts are names is read back from its text, so two such paths with the same text are
the same path. Whatever is read from a text has names for its parts.

* `Text.splitAt_append`, `Text.not_mem_of_mem_splitAt` — pieces between separators.
* `Path.ofText_isProper` — what is read from a text.
* `Path.ofText_text`     — what is read from the text of a path.
-/

namespace WorkspaceLint

namespace Text

/-! ## Pieces between separators -/

/-- A text without the separator is its only piece. -/
theorem splitAt_of_not_mem {separator : Char} {text : List Char} (h : separator ∉ text) :
    splitAt separator text = [text] := by
  induction text with
  | nil => rfl
  | cons c rest ih =>
    simp only [List.mem_cons, not_or] at h
    rw [splitAt, if_neg (Ne.symm h.1), ih h.2]

/-- The first piece ends at the first separator. -/
theorem splitAt_append {separator : Char} {piece : List Char} (h : separator ∉ piece)
    (rest : List Char) :
    splitAt separator (piece ++ separator :: rest) = piece :: splitAt separator rest := by
  induction piece with
  | nil => simp [splitAt]
  | cons c piece ih =>
    simp only [List.mem_cons, not_or] at h
    rw [List.cons_append, splitAt, if_neg (Ne.symm h.1), ih h.2]

/-- No piece holds the separator. -/
theorem not_mem_of_mem_splitAt {separator : Char} {text piece : List Char}
    (h : piece ∈ splitAt separator text) : separator ∉ piece := by
  induction text generalizing piece with
  | nil =>
    obtain rfl : piece = [] := by simpa [splitAt] using h
    exact List.not_mem_nil
  | cons c rest ih =>
    rw [splitAt] at h
    by_cases hc : c = separator
    · rw [if_pos hc] at h
      rcases List.mem_cons.mp h with rfl | h
      · exact List.not_mem_nil
      · exact ih h
    · rw [if_neg hc] at h
      -- The character goes to the front of the first piece of what follows.
      cases hsplit : splitAt separator rest with
      | nil =>
        obtain rfl : piece = [c] := by simpa [hsplit] using h
        simpa using Ne.symm hc
      | cons first pieces =>
        rw [hsplit] at h ih
        rcases List.mem_cons.mp h with rfl | h
        · simpa only [List.mem_cons, not_or] using ⟨Ne.symm hc, ih List.mem_cons_self⟩
        · exact ih (List.mem_cons_of_mem _ h)

end Text

namespace Path

/-! ## Names and proper paths -/

/-- The parent of a child is the path itself. -/
@[simp]
theorem parent_child (path : Path) (name : String) : (path.child name).parent = path := by
  simp [parent, child]

/-- A child is named by the name that was added. -/
@[simp]
theorem name_child (path : Path) (name : String) : (path.child name).name = name := by
  simp [Path.name, child]

/-- A path with a name is the child of its parent by that name. -/
theorem child_parent {path : Path} (h : path.name ≠ "") : path.parent.child path.name = path := by
  obtain ⟨anchor, parts⟩ := path
  cases hlast : parts.getLast? with
  | none => exact absurd (by rw [Path.name, hlast]; rfl) h
  | some name =>
    rw [parent, child, Path.name, hlast, Option.getD_some, List.dropLast_append_getLast? name hlast]

/-- A text that can be a part of a path: it is neither empty nor a single dot, and it holds no
slash. -/
def IsName (name : String) : Prop := name ≠ "" ∧ name ≠ "." ∧ '/' ∉ name.toList

instance (name : String) : Decidable (IsName name) := inferInstanceAs (Decidable (_ ∧ _ ∧ _))

/-- A path whose parts are names. -/
def IsProper (path : Path) : Prop := ∀ name ∈ path.parts, IsName name

/-- A proper path with a name behind it is proper. -/
theorem IsProper.child {path : Path} (hpath : path.IsProper) {name : String} (hname : IsName name) :
    (path.child name).IsProper :=
  List.forall_mem_append.mpr ⟨hpath, List.forall_mem_singleton.mpr hname⟩

/-- The parent of a proper path is proper. -/
theorem IsProper.parent {path : Path} (hpath : path.IsProper) : path.parent.IsProper :=
  fun part hpart => hpath part (List.dropLast_subset _ hpart)

/-- Two proper paths are joined to a proper one. -/
theorem IsProper.join {path other : Path} (hpath : path.IsProper) (hother : other.IsProper) :
    (path.join other).IsProper := by
  rw [Path.join]
  split
  · exact hother
  · exact List.forall_mem_append.mpr ⟨hpath, hother⟩

/-- What is read between slashes are names. -/
theorem partsOf_isName {text : List Char} {name : String} (h : name ∈ partsOf text) :
    IsName name := by
  obtain ⟨piece, hpiece, rfl⟩ := List.mem_map.mp h
  obtain ⟨hmem, hkept⟩ := List.mem_filter.mp hpiece
  simp only [ne_eq, decide_not, Bool.and_eq_true, Bool.not_eq_eq_eq_not, Bool.not_true,
    decide_eq_false_iff_not] at hkept
  refine ⟨fun h => hkept.1 ?_, fun h => hkept.2 ?_, ?_⟩
  · simpa using congrArg String.toList h
  · simpa using congrArg String.toList h
  · rw [String.toList_ofList]
    exact Text.not_mem_of_mem_splitAt hmem

/-- What is read from a text has names for its parts. -/
theorem ofText_isProper (text : String) : (ofText text).IsProper :=
  fun _ h => partsOf_isName h

/-! ## Reading back -/

/-- A slash in front separates nothing. -/
theorem partsOf_slash (text : List Char) : partsOf ('/' :: text) = partsOf text := by
  simp [partsOf, Text.splitAt]

/-- A name up to the first slash is the first part. -/
theorem partsOf_name {name : String} (h : IsName name) (rest : List Char) :
    partsOf (name.toList ++ '/' :: rest) = name :: partsOf rest := by
  obtain ⟨hempty, hdot, hslash⟩ := h
  have hdot' : name.toList ≠ ['.'] := fun h => hdot (String.toList_inj.mp h)
  rw [partsOf, Text.splitAt_append hslash]
  simp [partsOf, hempty, hdot']

/-- Names that are joined by slashes are read back. -/
theorem partsOf_joinNames {names : List String} (h : ∀ name ∈ names, IsName name) :
    partsOf (joinNames names).toList = names := by
  induction names with
  | nil => rfl
  | cons name names ih =>
    have hname := h name List.mem_cons_self
    cases names with
    | nil =>
      obtain ⟨hempty, hdot, hslash⟩ := hname
      have hdot' : name.toList ≠ ['.'] := fun h => hdot (String.toList_inj.mp h)
      simp [joinNames, partsOf, Text.splitAt_of_not_mem hslash, hempty, hdot']
    | cons other names =>
      have hrest := ih fun name hmem => h name (List.mem_cons_of_mem _ hmem)
      have htext : (joinNames (name :: other :: names)).toList
          = name.toList ++ '/' :: (joinNames (other :: names)).toList := by
        simp [joinNames]
      rw [htext, partsOf_name hname, hrest]

/-- The text of a list of names does not begin with a slash. -/
theorem head_joinNames_ne_slash {names : List String} (h : ∀ name ∈ names, IsName name) :
    (joinNames names).toList.head? ≠ some '/' := by
  cases names with
  | nil => simp [joinNames]
  | cons name names =>
    obtain ⟨hempty, -, hslash⟩ := h name List.mem_cons_self
    obtain ⟨c, characters, hname⟩ : ∃ c characters, name.toList = c :: characters :=
      List.exists_cons_of_ne_nil (by simpa using hempty)
    have hc : c ≠ '/' := by
      rintro rfl
      exact hslash (by rw [hname]; exact List.mem_cons_self)
    have hhead : (joinNames (name :: names)).toList.head? = some c := by
      cases names <;> simp [joinNames, hname]
    rw [hhead]
    exact fun h => hc (Option.some.inj h)

/-- The anchor that a text begins with is read back, unless another slash follows. -/
theorem anchorOf_anchor_text (anchor : Anchor) {rest : List Char} (h : rest.head? ≠ some '/') :
    anchorOf (anchor.text.toList ++ rest) = anchor := by
  cases rest with
  | nil => cases anchor <;> rfl
  | cons c rest =>
    have hc : c ≠ '/' := fun hc => h (by rw [hc]; rfl)
    cases anchor <;> simp [Anchor.text, anchorOf, hc]

/-- A proper path is read back from its text. -/
theorem ofText_text {path : Path} (hpath : path.IsProper) : ofText path.text = path := by
  obtain ⟨anchor, parts⟩ := path
  by_cases hdot : anchor = .relative ∧ parts = []
  · obtain ⟨rfl, rfl⟩ := hdot
    rfl
  · -- Only the path without anchor and parts is written as a dot.
    have htext : (Path.text ⟨anchor, parts⟩).toList
        = anchor.text.toList ++ (joinNames parts).toList := by
      rw [Path.text, if_neg (by simpa using hdot), String.toList_append]
    have hparts : partsOf (anchor.text.toList ++ (joinNames parts).toList) = parts := by
      have hjoined := partsOf_joinNames hpath
      cases anchor <;> simpa [Anchor.text, partsOf_slash] using hjoined
    rw [ofText, htext, hparts, anchorOf_anchor_text anchor (head_joinNames_ne_slash hpath)]

/-- Proper paths with the same text are the same path. -/
theorem eq_of_text_eq {path other : Path} (hpath : path.IsProper) (hother : other.IsProper)
    (h : path.text = other.text) : path = other := by
  rw [← ofText_text hpath, h, ofText_text hother]

end Path

end WorkspaceLint
