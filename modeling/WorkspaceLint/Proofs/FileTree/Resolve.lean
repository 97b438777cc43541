import WorkspaceLint.Proofs.FileTree.WellFormed
import WorkspaceLint.Proofs.Outcome

/-!
# What a resolved path looks like

A resolved path starts at the root, and its parts are entry names: no part of it is left that only
the file system could interpret. That its parts hold no slash is carried through the replacement of
links, `realFrom_slashFree`; the dots are taken out at the end, `mem_collapse`.

In a tree without links nothing is left to do for such a path, `real_of_linkless`.
-/

namespace WorkspaceLint

/-- A path from the root whose parts are entry names. -/
structure Path.IsResolved (path : Path) : Prop where
  anchor : path.anchor = .root
  parts : ∀ name ∈ path.parts, IsEntryName name

/-- A resolved path is proper. -/
theorem Path.IsResolved.isProper {path : Path} (h : path.IsResolved) : path.IsProper :=
  fun name hname => (h.parts name hname).1

/-- A resolved path with an entry name behind it is resolved. -/
theorem Path.IsResolved.child {path : Path} (h : path.IsResolved) {name : String}
    (hname : IsEntryName name) : (path.child name).IsResolved :=
  ⟨h.anchor, List.forall_mem_append.mpr ⟨h.parts, List.forall_mem_singleton.mpr hname⟩⟩

/-- The parent of a resolved path is resolved. -/
theorem Path.IsResolved.parent {path : Path} (h : path.IsResolved) : path.parent.IsResolved :=
  ⟨h.anchor, fun name hname => h.parts name (List.dropLast_subset _ hname)⟩

namespace FileTree

variable {F : Type} {tree : FileTree F}

/-- None of some texts holds a slash. -/
def SlashFree (names : List String) : Prop := ∀ name ∈ names, '/' ∉ name.toList

/-- Names without slashes, put together. -/
theorem SlashFree.append {names others : List String} (h : SlashFree names)
    (hothers : SlashFree others) : SlashFree (names ++ others) :=
  List.forall_mem_append.mpr ⟨h, hothers⟩

/-- Names without slashes, the last one left out. -/
theorem SlashFree.dropLast {names : List String} (h : SlashFree names) : SlashFree names.dropLast :=
  fun name hname => h name (List.dropLast_subset _ hname)

/-- What links stand for holds no slash in its names. -/
def LinkTable.SlashFree (links : LinkTable) : Prop :=
  ∀ location known, (location, some known) ∈ links → FileTree.SlashFree known

/-- Neither the names found nor what the links met stand for holds a slash. -/
structure Progress.SlashFree (progress : Progress) : Prop where
  names : FileTree.SlashFree progress.names
  links : progress.links.SlashFree

/-- Noting that a link is being replaced adds no names to the table. -/
theorem LinkTable.SlashFree.cons_none {links : LinkTable} (h : links.SlashFree)
    (location : Location) : LinkTable.SlashFree ((location, none) :: links) := by
  intro other known hmem
  rcases List.mem_cons.mp hmem with heq | hmem
  · cases heq
  · exact h other known hmem

/-- Noting what a link stands for keeps the table free of slashes if that is. -/
theorem LinkTable.SlashFree.cons_some {links : LinkTable} (h : links.SlashFree)
    (location : Location) {known : Location} (hknown : FileTree.SlashFree known) :
    LinkTable.SlashFree ((location, some known) :: links) := by
  intro other found hmem
  rcases List.mem_cons.mp hmem with heq | hmem
  · cases heq
    exact hknown
  · exact h other found hmem

/-- What the table says that a link stands for is free of slashes. -/
theorem LinkTable.SlashFree.find {links : LinkTable} (h : links.SlashFree) {location known : Location}
    (hfind : links.find location = some (some known)) : FileTree.SlashFree known := by
  obtain ⟨⟨other, found⟩, hentry, rfl⟩ := Option.map_eq_some_iff.mp hfind
  exact h other known (List.mem_of_find?_eq_some hentry)

/-- Appending pieces to names brings in no slash. -/
theorem slashFree_appendPieces {names pieces : List String} (hnames : SlashFree names)
    (hpieces : SlashFree pieces) : SlashFree (appendPieces names pieces) := by
  unfold appendPieces
  split
  next rest =>
    split
    · exact hnames
    · exact fun name hname => hpieces name (List.mem_cons_of_mem _ hname)
  next => exact hnames.append hpieces

/-- The pieces of a link's target are what stands between its slashes. -/
theorem slashFree_targetPieces (target : String) : SlashFree (targetPieces target) := by
  intro name hname
  obtain ⟨piece, hpiece, rfl⟩ := List.mem_map.mp hname
  rw [String.toList_ofList]
  exact Text.not_mem_of_mem_splitAt hpiece

/-- Replacing links brings in no slash, if the treatment of a single link does not. -/
theorem realFrom_slashFree {replace : LinkTable → Location → String → Progress}
    (hreplace : ∀ links location target, LinkTable.SlashFree links → FileTree.SlashFree location →
      (replace links location target).SlashFree)
    {links : LinkTable} {location : Location} {pieces : List String} (hlinks : links.SlashFree)
    (hlocation : FileTree.SlashFree location) (hpieces : FileTree.SlashFree pieces) :
    (tree.realFrom replace links location pieces).SlashFree := by
  induction pieces generalizing links location with
  | nil => exact ⟨hlocation, hlinks⟩
  | cons piece pieces ih =>
    obtain ⟨hpiece, hrest⟩ := List.forall_mem_cons.mp hpieces
    have hnext : SlashFree (location ++ [piece]) :=
      hlocation.append (List.forall_mem_singleton.mpr hpiece)
    rw [realFrom]
    split
    · exact ih hlinks hlocation hrest
    split
    · exact ih hlinks hlocation.dropLast hrest
    dsimp only
    split
    next target hentry =>
      split
      -- A link that was replaced before.
      next known hfind => exact ih hlinks (hlinks.find hfind) hrest
      -- A link that is being replaced: the path stays as it is from here on.
      next => exact ⟨slashFree_appendPieces hnext hrest, hlinks⟩
      -- A link that was not met before.
      next =>
        have hprogress := hreplace _ _ target (hlinks.cons_none (location ++ [piece])) hlocation
        split
        · exact ih (hprogress.links.cons_some _ hprogress.names) hprogress.names hrest
        · exact ⟨slashFree_appendPieces hprogress.names hrest, hprogress.links⟩
    next => exact ih hlinks hnext hrest

/-- Replacing a link brings in no slash, by induction on how deep links may be nested. -/
theorem realWithin_slashFree (nested : Nat) (links : LinkTable) (location : Location)
    (target : String) (hlinks : links.SlashFree) (hlocation : SlashFree location) :
    (tree.realWithin nested links location target).SlashFree := by
  induction nested generalizing links location target with
  | zero => exact ⟨hlocation, hlinks⟩
  | succ nested ih =>
    refine realFrom_slashFree ih hlinks ?_ (slashFree_targetPieces target)
    split
    · exact fun name hname => absurd hname List.not_mem_nil
    · exact hlocation

/-- Carrying out dots leaves names of the given ones that are not dots. -/
theorem mem_collapse (pieces : List String) : ∀ name ∈ collapse pieces,
    name ∈ pieces ∧ name ≠ "" ∧ name ≠ "." ∧ name ≠ ".." := by
  refine List.foldlRecOn (motive := fun names => ∀ name ∈ names,
    name ∈ pieces ∧ name ≠ "" ∧ name ≠ "." ∧ name ≠ "..") pieces _
    (fun name hname => absurd hname List.not_mem_nil) fun names ih piece hpiece name hname => ?_
  split at hname
  · exact ih name hname
  split at hname
  · exact ih name (List.dropLast_subset _ hname)
  · rcases List.mem_append.mp hname with hname | hname
    · exact ih name hname
    · obtain rfl := List.mem_singleton.mp hname
      simp_all

/-- Where a path really leads is a resolved path. -/
theorem real_isResolved {working : Location} (hworking : SlashFree working) {path : Path}
    (hpath : path.IsProper) : (tree.real working path).IsResolved := by
  refine ⟨rfl, fun name hname => ?_⟩
  obtain ⟨hmem, hempty, hdot, hdots⟩ := mem_collapse _ name hname
  have hprogress : (tree.realFrom (tree.realWithin (tree.linkCount + 1)) []
      (if path.isAbsolute then [] else working) path.parts).SlashFree := by
    refine realFrom_slashFree (realWithin_slashFree _)
      (fun _ _ hlink => absurd hlink List.not_mem_nil) ?_ fun name hname => (hpath name hname).2.2
    split
    · exact fun name hname => absurd hname List.not_mem_nil
    · exact hworking
  exact ⟨⟨hempty, hdot, hprogress.names name hmem⟩, hdots⟩

/-! ## Trees without links -/

/-- In a tree without links no entry is one. -/
theorem entryAt_ne_link (hlinks : tree.linkCount = 0) (location : Location) (target : String) :
    tree.entryAt location ≠ some (.link target) := by
  intro h
  unfold entryAt at h
  split at h
  · cases h
  · obtain ⟨entry, hfound, hentry⟩ := Option.map_eq_some_iff.mp h
    have hnone := List.filter_eq_nil_iff.mp (List.length_eq_zero_iff.mp hlinks) entry
      (List.mem_of_find?_eq_some hfound)
    simp [hentry] at hnone

/-- Without links, names are added as they are. -/
theorem realFrom_of_linkless (hlinks : tree.linkCount = 0)
    {replace : LinkTable → Location → String → Progress} {links : LinkTable} {location : Location}
    {pieces : List String} (hpieces : ∀ piece ∈ pieces, IsEntryName piece) :
    tree.realFrom replace links location pieces = ⟨location ++ pieces, true, links⟩ := by
  induction pieces generalizing location with
  | nil => rw [realFrom, List.append_nil]
  | cons piece pieces ih =>
    obtain ⟨⟨⟨hempty, hdot, -⟩, hdots⟩, hrest⟩ := List.forall_mem_cons.mp hpieces
    have hnext := @ih (location ++ [piece]) hrest
    rw [List.append_assoc] at hnext
    rw [realFrom, if_neg (by simp [hempty, hdot]), if_neg hdots]
    dsimp only
    split
    next target htarget => exact absurd htarget (entryAt_ne_link hlinks _ target)
    next => exact hnext

/-- Names without dots are left as they are when dots are carried out. -/
theorem collapse_of_isEntryName {pieces : List String} (h : ∀ piece ∈ pieces, IsEntryName piece) :
    collapse pieces = pieces := by
  have hfold (names : List String) : pieces.foldl (fun names piece =>
      if piece = "" || piece = "." then names
      else if piece = ".." then names.dropLast
      else names ++ [piece]) names = names ++ pieces := by
    induction pieces generalizing names with
    | nil => rw [List.foldl_nil, List.append_nil]
    | cons piece pieces ih =>
      obtain ⟨⟨⟨hempty, hdot, -⟩, hdots⟩, hrest⟩ := List.forall_mem_cons.mp h
      rw [List.foldl_cons, if_neg (by simp [hempty, hdot]), if_neg hdots, ih hrest,
        List.append_assoc]
      rfl
  exact hfold []

/-- Without links a resolved path leads where it says. -/
theorem real_of_linkless (hlinks : tree.linkCount = 0) {working : Location} {path : Path}
    (hpath : path.IsResolved) : tree.real working path = path := by
  have habsolute : path.isAbsolute = true := by rw [Path.isAbsolute, hpath.anchor]; rfl
  rw [real, if_pos habsolute, realFrom_of_linkless hlinks hpath.parts, List.nil_append,
    collapse_of_isEntryName hpath.parts, ← hpath.anchor]

end FileTree

namespace Host

variable {F : Type} {host : Host F}

/-- The resolved form of a path is where it really leads. -/
theorem real_of_resolve {path found : Path} (h : host.resolve path = .ok found) :
    host.tree.real host.working path = found := by
  unfold resolve at h
  split at h
  · cases h
  have hfound := mapError_eq_ok_iff.mp h
  unfold FileTree.resolve at hfound
  split at hfound
  · cases hfound
  dsimp only at hfound
  split at hfound
  · cases hfound
  · exact Except.ok.inj hfound

/-- A resolved path is one from the root without anything left to interpret. -/
theorem isResolved_of_resolve (hhost : host.WellFormed) {path found : Path}
    (hpath : path.IsProper) (h : host.resolve path = .ok found) : found.IsResolved := by
  rw [← real_of_resolve h]
  exact FileTree.real_isResolved (fun name hname => (hhost.working name hname).1.2.2) hpath

/-- In a tree without links, a path that is resolved already is left as it is. -/
theorem eq_of_resolve_of_linkless (hlinks : host.tree.linkCount = 0) {path found : Path}
    (hpath : path.IsResolved) (h : host.resolve path = .ok found) : found = path := by
  rw [← real_of_resolve h, FileTree.real_of_linkless hlinks hpath]

end Host

end WorkspaceLint
