import WorkspaceLint.FileTree.Glob
import WorkspaceLint.Proofs.FileTree.WellFormed
import WorkspaceLint.Proofs.Outcome

/-!
# What a path pattern matches

Matching goes from a path to its children, by names that the pattern spells out or that a directory
holds. What it finds are therefore paths below the one where it starts, to which names of these two
kinds lead, `exists_names_of_mem_glob`. Below a proper path they are proper, `glob_isProper`.
-/

namespace WorkspaceLint

/-- The names that a path pattern spells out can be parts of a path. -/
def Glob.IsProper (pattern : Glob) : Prop := ∀ name, .exact name ∈ pattern.parts → Path.IsName name

/-- The names that a path pattern spells out are parts of its text. -/
theorem Glob.mem_parts_of_exact {text : String} {pattern : Glob} (h : Glob.ofText text = .ok pattern)
    {name : String} (hname : .exact name ∈ pattern.parts) : name ∈ (Path.ofText text).parts := by
  simp only [Glob.ofText] at h
  split at h
  · cases h
  split at h
  · cases h
  next parts hparts =>
    obtain rfl := Except.ok.inj h
    obtain ⟨part, hpart, hname⟩ := exists_of_mem_forall₂ (mapM_eq_ok_iff.mp hparts) hname
    have hsame : part = name := by
      unfold partOf at hname
      split at hname
      · cases hname
      split at hname
      · cases hname
      split at hname
      · cases hname
      · cases hname
        rfl
    exact hsame ▸ hpart

/-- The parts of a pattern that is read from a text are names. -/
theorem Glob.ofText_isProper {text : String} {pattern : Glob} (h : Glob.ofText text = .ok pattern) :
    pattern.IsProper :=
  fun name hname => Path.ofText_isProper text name (Glob.mem_parts_of_exact h hname)

namespace FileTree

variable {F : Type} {tree : FileTree F} (htree : tree.WellFormed)

include htree

/-- A directory below a path is the path with entry names behind it. -/
theorem exists_names_of_mem_directoriesBelow (levels : Nat) (location : Location) {path found : Path}
    (h : found ∈ tree.directoriesBelow levels location path) :
    ∃ names, (∀ name ∈ names, IsEntryName name) ∧ found = ⟨path.anchor, path.parts ++ names⟩ := by
  induction levels generalizing location path with
  | zero => exact ⟨[], by simp, by simp [List.mem_singleton.mp h]⟩
  | succ levels ih =>
    rcases List.mem_cons.mp h with rfl | h
    · exact ⟨[], by simp, by simp⟩
    · obtain ⟨name, hname, hfound⟩ := List.mem_flatMap.mp h
      have hentry := isEntryName_of_mem_namesIn htree (List.mem_filter.mp hname).1
      obtain ⟨names, hnames, rfl⟩ := ih _ hfound
      exact ⟨name :: names, List.forall_mem_cons.mpr ⟨hentry, hnames⟩, by simp [Path.child]⟩

/-- What is scanned are names of entries. -/
theorem isEntryName_of_mem_scan {working location : Location} {path : Path} {names : List String}
    (h : tree.scan working path = .ok (location, names)) {name : String} (hname : name ∈ names) :
    IsEntryName name := by
  unfold scan at h
  split at h
  · cases h
    exact isEntryName_of_mem_namesIn htree hname
  · cases h
  · cases h
    cases hname

/-- The directories in which a pattern of any depth goes on lie below the path where it starts. -/
theorem exists_names_of_mem_deep {working : Location} {path directory : Path}
    (h : directory ∈ (match tree.locate working path with
      | .ok location => tree.directoriesBelow tree.depth location path
      | .error _ => [path])) :
    ∃ names, (∀ name ∈ names, IsEntryName name)
      ∧ directory = ⟨path.anchor, path.parts ++ names⟩ := by
  split at h
  · exact exists_names_of_mem_directoriesBelow htree _ _ h
  · exact ⟨[], by simp, by simp [List.mem_singleton.mp h]⟩

variable {P : String → Prop} (hentry : ∀ name, IsEntryName name → P name)

include hentry

/-- What the parts of a pattern match lies below the path where matching starts. -/
theorem exists_names_of_mem_select (working : Location) (directoriesOnly : Bool)
    {parts : List GlobPart} (hparts : ∀ name, .exact name ∈ parts → P name) {path : Path}
    {found : List Path} (h : tree.select working directoriesOnly parts path = .ok found) :
    ∀ file ∈ found, ∃ names, (∀ name ∈ names, P name)
      ∧ file = ⟨path.anchor, path.parts ++ names⟩ := by
  induction parts generalizing path found with
  | nil =>
    obtain rfl := Except.ok.inj h
    exact fun file hfile => ⟨[], by simp, by simp [List.mem_singleton.mp hfile]⟩
  | cons part parts ih =>
    have hrest {path : Path} {found : List Path}
        (h : tree.select working directoriesOnly parts path = .ok found) :
        ∀ file ∈ found, ∃ names, (∀ name ∈ names, P name)
          ∧ file = ⟨path.anchor, path.parts ++ names⟩ :=
      ih (fun name hname => hparts name (List.mem_cons_of_mem _ hname)) h
    -- One more name for each part that is no more than a name or a pattern.
    have hchild {name : String} (hname : P name) {found : List Path}
        (h : tree.select working directoriesOnly parts (path.child name) = .ok found) :
        ∀ file ∈ found, ∃ names, (∀ name ∈ names, P name)
          ∧ file = ⟨path.anchor, path.parts ++ names⟩ := by
      intro file hfile
      obtain ⟨names, hnames, rfl⟩ := hrest h file hfile
      exact ⟨name :: names, List.forall_mem_cons.mpr ⟨hname, hnames⟩, by simp [Path.child]⟩
    cases part with
    | exact name =>
      simp only [select] at h
      split at h
      · cases h
      · cases h
        simp
      · exact hchild (hparts name List.mem_cons_self) h
    | pattern pattern =>
      simp only [select] at h
      split at h
      · cases h
      next location scanned hscan =>
        obtain ⟨selected, hselected, rfl⟩ := map_eq_ok_iff.mp h
        intro file hfile
        obtain ⟨files, hfiles, hfile⟩ := List.mem_flatten.mp hfile
        obtain ⟨name, hname, hfiles⟩ := exists_of_mem_forall₂ (mapM_eq_ok_iff.mp hselected) hfiles
        obtain ⟨suits, -, hfiles⟩ := bind_eq_ok_iff.mp hfiles
        split at hfiles
        · have hname := isEntryName_of_mem_scan htree hscan hname
          exact hchild (hentry name hname) hfiles file hfile
        · cases hfiles
          cases hfile
    | deep =>
      simp only [select] at h
      obtain ⟨selected, hselected, rfl⟩ := map_eq_ok_iff.mp h
      intro file hfile
      obtain ⟨files, hfiles, hfile⟩ := List.mem_flatten.mp (List.mem_eraseDups.mp hfile)
      obtain ⟨directory, hdirectory, hfiles⟩ :=
        exists_of_mem_forall₂ (mapM_eq_ok_iff.mp hselected) hfiles
      obtain ⟨found, hfound, hfiles⟩ := bind_eq_ok_iff.mp hfiles
      obtain ⟨-, -, hfiles⟩ := bind_eq_ok_iff.mp hfiles
      cases hfiles
      obtain ⟨above, habove, rfl⟩ := exists_names_of_mem_deep htree hdirectory
      obtain ⟨names, hnames, rfl⟩ := hrest hfound file hfile
      exact ⟨above ++ names,
        List.forall_mem_append.mpr ⟨fun name hname => hentry name (habove name hname), hnames⟩,
        by simp⟩

/-- What a path pattern matches lies below the directory where matching starts: the names that lead
there stand in directories or in the pattern. -/
theorem exists_names_of_mem_glob {working : Location} {directory : Path} {pattern : Glob}
    (hpattern : ∀ name, .exact name ∈ pattern.parts → P name) {found : List Path}
    (h : tree.glob working directory pattern = .ok found) :
    ∀ file ∈ found, ∃ names, (∀ name ∈ names, P name)
      ∧ file = ⟨directory.anchor, directory.parts ++ names⟩ := by
  unfold glob at h
  split at h
  · cases h
  · cases h
    simp
  · exact exists_names_of_mem_select htree hentry working _ hpattern h

omit hentry in
/-- What a path pattern matches below a proper path is proper. -/
theorem glob_isProper {working : Location} {directory : Path} (hdirectory : directory.IsProper)
    {pattern : Glob} (hpattern : pattern.IsProper) {found : List Path}
    (h : tree.glob working directory pattern = .ok found) : ∀ file ∈ found, file.IsProper := by
  intro file hfile
  obtain ⟨names, hnames, rfl⟩ :=
    exists_names_of_mem_glob htree (fun _ hname => hname.1) hpattern h file hfile
  exact List.forall_mem_append.mpr ⟨hdirectory, hnames⟩

end FileTree

end WorkspaceLint
