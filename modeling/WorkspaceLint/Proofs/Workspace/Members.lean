import WorkspaceLint.Proofs.FileTree.Glob
import WorkspaceLint.Proofs.FileTree.Resolve
import WorkspaceLint.Workspace.Opening

/-!
# Member files are resolved

However members are declared, their descriptor files come out as resolved paths,
`declaredMembers_isResolved`: what a declaration names is a proper path, `candidates_isProper`, and
what is proper has a resolved form without anything left to interpret.
-/

namespace WorkspaceLint

/-- The project file of a proper candidate is a proper path. -/
theorem projectFileOf_isProper {candidate : Path} (h : candidate.IsProper) :
    (projectFileOf candidate).IsProper := by
  unfold projectFileOf
  split
  · exact h
  · exact h.child (by decide)

section

variable {F : Type} {host : Host F}

/-- Selecting candidates is a traversal that keeps some of the paths. -/
theorem selectCandidates_eq_mapM (host : Host F) (paths : List Path) :
    selectCandidates host paths
      = (paths.mapM fun path => (isCandidate host path).map fun answer =>
          if answer then some path else none).map (List.filterMap id) := by
  induction paths with
  | nil => rfl
  | cons path paths ih =>
    rw [selectCandidates, ih, List.mapM_cons]
    cases isCandidate host path with
    | error fault => rfl
    | ok answer =>
      cases paths.mapM fun path => (isCandidate host path).map fun answer =>
        if answer then some path else none <;> cases answer <;> rfl

/-- Resolving candidates is a traversal. -/
theorem resolveCandidates_eq_mapM (host : Host F) (candidates : List Path) :
    resolveCandidates host candidates
      = candidates.mapM fun candidate => host.resolve (projectFileOf candidate) := by
  induction candidates with
  | nil => rfl
  | cons candidate candidates ih =>
    rw [resolveCandidates, ih, List.mapM_cons]
    cases host.resolve (projectFileOf candidate) with
    | error fault => rfl
    | ok path =>
      cases candidates.mapM fun candidate => host.resolve (projectFileOf candidate) <;> rfl

/-- Selecting candidates keeps their order. -/
theorem selectCandidates_sublist {paths found : List Path}
    (h : selectCandidates host paths = .ok found) : found.Sublist paths := by
  induction paths generalizing found with
  | nil =>
    cases h
    exact .slnil
  | cons path paths ih =>
    rw [selectCandidates] at h
    split at h
    · cases h
    next answer hanswer =>
      obtain ⟨rest, hrest, rfl⟩ := map_eq_ok_iff.mp h
      split
      · exact (ih hrest).cons_cons path
      · exact (ih hrest).cons path

variable (hhost : host.WellFormed)

include hhost

/-- What a pattern declares below a proper path is proper. -/
theorem candidates_isProper {root : Path} (hroot : root.IsProper) {pattern : String}
    {found : List Path} (h : candidates host root pattern = .ok found) :
    ∀ candidate ∈ found, candidate.IsProper := by
  unfold candidates at h
  split at h
  · cases h
    exact fun candidate hmem =>
      List.mem_singleton.mp hmem ▸ hroot.join (Path.ofText_isProper pattern)
  split at h
  · cases h
  split at h
  · cases h
  next glob hglob =>
    split at h
    · cases h
    next paths hpaths =>
      obtain ⟨selected, hselected, rfl⟩ := map_eq_ok_iff.mp h
      intro candidate hmem
      have hselect := (List.mergeSort_perm _ _).mem_iff.mp hmem
      exact FileTree.glob_isProper hhost.tree hroot (Glob.ofText_isProper hglob) hpaths candidate
        ((selectCandidates_sublist hselected).subset hselect)

/-- Members are resolved paths, since each candidate is resolved. -/
theorem resolveCandidates_isResolved {found paths : List Path}
    (hfound : ∀ candidate ∈ found, candidate.IsProper)
    (h : resolveCandidates host found = .ok paths) : ∀ path ∈ paths, path.IsResolved := by
  induction found generalizing paths with
  | nil =>
    cases h
    simp
  | cons candidate found ih =>
    rw [resolveCandidates] at h
    split at h
    · cases h
    next file hfile =>
      obtain ⟨rest, hrest, rfl⟩ := map_eq_ok_iff.mp h
      obtain ⟨hcandidate, hothers⟩ := List.forall_mem_cons.mp hfound
      have hresolved :=
        Host.isResolved_of_resolve hhost (projectFileOf_isProper hcandidate) hfile
      exact List.forall_mem_cons.mpr ⟨hresolved, ih hothers hrest⟩

/-- So are the members that a pattern expands to. -/
theorem expandPattern_isResolved {root : Path} (hroot : root.IsProper) {exclusions : List String}
    {pattern : String} {paths : List Path}
    (h : (expandPattern host root exclusions pattern).outcome = .ok paths) :
    ∀ path ∈ paths, path.IsResolved := by
  unfold expandPattern at h
  split at h
  · cases h
  next found hfound =>
    refine resolveCandidates_isResolved hhost (fun candidate hmem => ?_) h
    exact candidates_isProper hhost hroot hfound candidate (List.mem_filter.mp hmem).1

/-- So are all members of a declaration, the descriptor's own file among them. -/
theorem memberFiles_isResolved {descriptor : Path} (hdescriptor : descriptor.IsResolved)
    {patterns exclusions : List String} {rootFirst : Bool} {members : List Path}
    (h : (memberFiles host descriptor patterns exclusions rootFirst).outcome = .ok members) :
    ∀ path ∈ members, path.IsResolved := by
  obtain ⟨expanded, hexpanded, rfl⟩ := Reported.map_outcome_eq_ok_iff.mp h
  have hmembers : ∀ path ∈ expanded.flatten.eraseDups, path.IsResolved := by
    intro path hpath
    obtain ⟨paths, hpaths, hpath⟩ := List.mem_flatten.mp (List.mem_eraseDups.mp hpath)
    obtain ⟨pattern, -, hpattern⟩ := exists_of_mem_forall₂
      (Reported.forEach_outcome_eq_ok_iff.mp hexpanded) hpaths
    exact expandPattern_isResolved hhost hdescriptor.parent.isProper hpattern path hpath
  intro path hpath
  dsimp only at hpath
  split at hpath
  · rcases List.mem_cons.mp hpath with rfl | hpath
    · exact hdescriptor
    · exact hmembers path (List.mem_filter.mp hpath).1
  · exact hmembers path hpath

end

/-- However the members of a workspace are declared, their descriptor files are resolved paths. -/
theorem declaredMembers_isResolved {host : Host SourceFile} (hhost : host.WellFormed)
    {settings : Settings} {descriptor : Path} (hdescriptor : descriptor.IsResolved)
    {document : List (String × Value)} {members : List Path}
    (h : (declaredMembers host settings descriptor document).outcome = .ok members) :
    ∀ path ∈ members, path.IsResolved := by
  unfold declaredMembers at h
  split at h
  · cases h
  · cases h
  · cases h
    exact fun path hpath => List.mem_singleton.mp hpath ▸ hdescriptor
  · exact memberFiles_isResolved hhost hdescriptor (Reported.mapFault_outcome_eq_ok_iff.mp h)

/-- The home directory of a user is a proper path. -/
theorem homeOf_isProper {F : Type} {host : Host F} {name : String} {home : Path}
    (h : host.homeOf name = .ok home) : home.IsProper := by
  unfold Host.homeOf at h
  split at h
  · cases h
  split at h
  · cases h
    exact Path.ofText_isProper _
  · cases h

/-- A proper path stays proper when a home directory takes the place of a tilde. -/
theorem expandHome_isProper {F : Type} {host : Host F} (hhost : host.WellFormed) {path found : Path}
    (hpath : path.IsProper) (h : host.expandHome path = .ok found) : found.IsProper := by
  unfold Host.expandHome at h
  split at h
  next first names hanchor hparts =>
    have hnames : ∀ part ∈ names, Path.IsName part := fun part hpart =>
      hpath part (hparts ▸ List.mem_cons_of_mem _ hpart)
    split at h
    · cases h
      exact List.forall_mem_append.mpr ⟨hhost.home, hnames⟩
    · obtain ⟨home, hhome, rfl⟩ := map_eq_ok_iff.mp h
      exact List.forall_mem_append.mpr ⟨homeOf_isProper hhome, hnames⟩
    · cases h
      exact hpath
  · cases h
    exact hpath

/-- The path of a descriptor that is opened is a resolved path. -/
theorem descriptorPath_isResolved {host : Host SourceFile} (hhost : host.WellFormed)
    {descriptor path : Path} (hdescriptor : descriptor.IsProper)
    (h : descriptorPath host descriptor = .ok path) : path.IsResolved := by
  unfold descriptorPath at h
  split at h
  · cases h
  next expanded hexpanded =>
    exact Host.isResolved_of_resolve hhost (expandHome_isProper hhost hdescriptor hexpanded)
      (mapError_eq_ok_iff.mp h)

end WorkspaceLint
