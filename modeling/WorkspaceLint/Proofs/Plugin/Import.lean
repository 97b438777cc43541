import WorkspaceLint.Proofs.Plugin.Providing
import WorkspaceLint.Proofs.Report.Relative

/-!
# Importing a dotted name

A dotted name is imported part by part: the package that it lies in first, then the module itself,
which is looked for unless it is loaded by then. The lemmas here take one such step at a time, so
that nothing else needs to open the recursion.

* `dotted_reversedParts`                      — a name is made of its parts.
* `importParts_singleton`, `importParts_cons` — one step of an import.
* `placeOf_top`, `placeOf_within`             — a module that is not found.
-/

namespace WorkspaceLint

/-! ## Dotted names -/

/-- A text is put together again from its pieces. -/
theorem Text.intercalate_splitAt (separator : Char) (text : List Char) :
    [separator].intercalate (splitAt separator text) = text := by
  induction text with
  | nil => rfl
  | cons c text ih =>
    obtain ⟨piece, pieces, hpieces⟩ := List.exists_cons_of_ne_nil (splitAt_ne_nil separator text)
    rw [hpieces] at ih
    rw [splitAt, hpieces]
    split
    next heq => rw [List.intercalate_cons_cons, ih, heq]; rfl
    next =>
      conv_rhs => rw [← ih]
      cases pieces with
      | nil => rfl
      | cons next pieces => rfl

/-- The characters of a text begin another text if and only if the text does. -/
theorem Text.toList_isPrefixOf_iff {text whole : String} :
    text.toList.isPrefixOf whole.toList = true ↔ ∃ rest, whole = text ++ rest := by
  rw [List.isPrefixOf_iff_prefix]
  constructor
  · rintro ⟨rest, hrest⟩
    exact ⟨String.ofList rest, by rw [← String.toList_inj, String.toList_append,
      String.toList_ofList, hrest]⟩
  · rintro ⟨rest, rfl⟩
    exact ⟨rest.toList, by rw [String.toList_append]⟩

/-- Pieces without the separator are read back. -/
theorem Text.splitAt_intercalate {separator : Char} {pieces : List (List Char)}
    (h : ∀ piece ∈ pieces, separator ∉ piece) (hne : pieces ≠ []) :
    splitAt separator ([separator].intercalate pieces) = pieces := by
  induction pieces with
  | nil => exact absurd rfl hne
  | cons piece pieces ih =>
    obtain ⟨hpiece, hpieces⟩ := List.forall_mem_cons.mp h
    cases pieces with
    | nil => rw [List.intercalate_singleton, splitAt_of_not_mem hpiece]
    | cons next pieces =>
      rw [List.intercalate_cons_cons, List.append_assoc, List.singleton_append,
        splitAt_append hpiece, ih hpieces (List.cons_ne_nil _ _)]

namespace Plugin

/-- The name that parts given from the last to the first make. -/
def dotted (parts : List String) : String := ".".intercalate parts.reverse

/-- A single part is its own dotted name. -/
theorem dotted_singleton (name : String) : dotted [name] = name := String.intercalate_singleton

/-- The last part of a name stands behind the others and a dot. -/
theorem dotted_cons (tail : String) {parents : List String} (hne : parents ≠ []) :
    dotted (tail :: parents) = dotted parents ++ "." ++ tail := by
  rw [dotted, List.reverse_cons, String.intercalate_append_of_ne_nil (by simpa using hne) (by simp),
    String.intercalate_singleton, dotted]

/-- A dotted name is put together again from its parts. -/
theorem dotted_reversedParts (name : String) : dotted (reversedParts name) = name := by
  rw [dotted, reversedParts, List.reverse_reverse, ← String.toList_inj, String.toList_intercalate,
    List.map_map]
  have hparts : List.map (String.toList ∘ String.ofList) (Text.splitAt '.' name.toList)
      = Text.splitAt '.' name.toList := by
    simp [Function.comp_def]
  rw [hparts]
  exact Text.intercalate_splitAt '.' name.toList

/-- The parts of a name without dots in them are read back from it. -/
theorem reversedParts_dotted {parts : List String} (h : ∀ part ∈ parts, '.' ∉ part.toList)
    (hne : parts ≠ []) : reversedParts (dotted parts) = parts := by
  have hpieces : ∀ piece ∈ parts.reverse.map String.toList, '.' ∉ piece := by simpa using h
  rw [reversedParts, dotted, String.toList_intercalate]
  change ((Text.splitAt '.' (['.'].intercalate (parts.reverse.map String.toList))).map
    String.ofList).reverse = parts
  rw [Text.splitAt_intercalate hpieces (by simpa using hne), List.map_map]
  simp [Function.comp_def]

/-- The parts of a name behind a dot come first, since the last part does. -/
theorem reversedParts_append (name rest : String) :
    reversedParts (name ++ "." ++ rest) = reversedParts rest ++ reversedParts name := by
  have htext : (name ++ "." ++ rest).toList = name.toList ++ '.' :: rest.toList := by
    simp [String.toList_append]
  rw [reversedParts, htext, Text.splitAt_append_separator, List.map_append, List.reverse_append]
  rfl

/-- Every name has a part, even the empty one. -/
theorem reversedParts_ne_nil (name : String) : reversedParts name ≠ [] := by
  simp [reversedParts, Text.splitAt_ne_nil]

/-! ## Steps of an import -/

/-- The importer for the modules that a plugin imports. -/
def nestedImporter (host : Host SourceFile) : Importer := importWithin host (importDepth host - 1)

/-- Importing a name is importing its parts. -/
theorem importName_eq (host : Host SourceFile) (name : String) :
    importName host name = importParts host (nestedImporter host) (reversedParts name) := by
  have hdepth : importDepth host = (importDepth host - 1) + 1 := by
    have : 0 < importDepth host := by
      rw [importDepth]
      exact Nat.mul_pos (Nat.succ_pos _) (Nat.succ_pos _)
    omega
  rw [importName, hdepth]
  rfl

section

variable {host : Host SourceFile} {importer : Importer} {session : Session}

/-- A module that is nowhere is not loaded, and the session stays as it is. -/
theorem loadModule_of_nowhere {parent : Option Nat} {name tail reason : String}
    (h : placeOf host parent name tail session = (.error (moduleNotFound name reason), session)) :
    loadModule host importer parent name tail session
      = (.error (moduleNotFound name reason), session) := by
  rw [loadModule, bind_apply, h]

/-- A module that no finder knows has no place at the top. -/
theorem placeOf_top {name tail : String} (h : topPlace host name = none) :
    placeOf host none name tail session = (.error (moduleNotFound name ""), session) := by
  rw [placeOf, h]
  rfl

/-- A module that is in none of the directories of a package has no place within it. -/
theorem placeOf_within {handle : Nat} {name tail : String}
    (h : ∀ directories, (session.module handle).search = some directories →
      placeWithin host directories name tail = none) :
    ∃ reason, placeOf host (some handle) name tail session
      = (.error (moduleNotFound name reason), session) := by
  have hmodule : moduleOf handle session = (.ok (session.module handle), session) := rfl
  rw [placeOf, bind_apply, hmodule]
  dsimp only
  cases hsearch : (session.module handle).search with
  | none => exact ⟨_, rfl⟩
  | some directories =>
    dsimp only
    rw [h directories hsearch]
    exact ⟨_, rfl⟩

/-- A name with one part that is not loaded is loaded from the top. -/
theorem importParts_singleton {name : String} (h : session.handle? name = none) :
    importParts host importer [name] session = loadModule host importer none name name session := by
  have hloaded : loaded? name session = (.ok none, session) := by
    rw [← h]
    rfl
  have hname : ".".intercalate [name].reverse = name := String.intercalate_singleton
  rw [importParts, hname, bind_apply, hloaded]
  rfl

/-- A part of a name is looked for once those before it have been imported. -/
theorem importParts_cons {tail : String} {parents : List String} (hne : parents ≠ [])
    (h : session.handle? (dotted (tail :: parents)) = none) :
    importParts host importer (tail :: parents) session
      = match importParts host importer parents session with
        | (.error fault, after) => (.error fault, after)
        | (.ok handle, after) => match after.handle? (dotted (tail :: parents)) with
          | some found => (.ok found, after)
          | none =>
            loadModule host importer (some handle) (dotted (tail :: parents)) tail after := by
  have hloaded (session : Session) : loaded? (dotted (tail :: parents)) session
      = (.ok (session.handle? (dotted (tail :: parents))), session) := rfl
  rw [importParts, ← dotted, bind_apply, hloaded, h]
  dsimp only
  rw [if_neg (by simpa using hne), bind_apply]
  obtain ⟨result, after⟩ := importParts host importer parents session
  cases result with
  | error fault => rfl
  | ok handle =>
    dsimp only
    rw [bind_apply, hloaded]
    dsimp only
    cases after.handle? (dotted (tail :: parents)) <;> rfl

/-- A name that is loaded is not loaded again. -/
theorem importParts_of_loaded {importer : Importer} {parts : List String} (hne : parts ≠ [])
    {handle : Nat} (h : session.handle? (dotted parts) = some handle) :
    importParts host importer parts session = (.ok handle, session) := by
  cases parts with
  | nil => exact absurd rfl hne
  | cons tail parents =>
    have hloaded : loaded? (dotted (tail :: parents)) session = (.ok (some handle), session) := by
      rw [← h]
      rfl
    rw [importParts, ← dotted, bind_apply, hloaded]
    rfl

end

end Plugin

end WorkspaceLint
