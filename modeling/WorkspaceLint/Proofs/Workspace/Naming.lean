import WorkspaceLint.Proofs.Workspace.Exclusion
import WorkspaceLint.Proofs.Workspace.Loading
import WorkspaceLint.Proofs.Workspace.MemberOrder

/-!
# Which files the patterns of a declaration name

A pattern names the descriptor file of a project by a candidate, a path that need not be the
resolved path of the file. The candidate is what exclusions are matched with, and the file is what
becomes a member.

* `Names`, `StillNames` — the files that a pattern names, and those that the exclusions leave.
* `mem_memberFiles_iff_stillNames` — the members of a workspace.
* `exists_project_iff_loads` — the members that become projects.
-/

namespace WorkspaceLint

section

variable {F : Type} {host : Host F}

/-! ## Candidates -/

/-- What a pattern declares are proper paths. -/
theorem Declares.isProper (hhost : host.WellFormed) {root : Path} (hroot : root.IsProper)
    {pattern : String} {found : List Path} (h : Declares host root pattern found) :
    ∀ candidate ∈ found, candidate.IsProper := by
  intro candidate hmem
  cases h with
  | path => exact List.mem_singleton.mp hmem ▸ hroot.join (Path.ofText_isProper pattern)
  | glob _ hglob hmatched hfound _ =>
    exact FileTree.glob_isProper hhost.tree hroot (Glob.ofText_isProper hglob) hmatched candidate
      ((hfound candidate).mp hmem).1

/-- A glob declares its matches that are candidates. -/
theorem Declares.exists_glob {root : Path} {pattern : String} {found : List Path}
    (h : Declares host root pattern found) (hpattern : Glob.isPattern pattern = true) :
    ∃ glob matched, Glob.ofText pattern = .ok glob
      ∧ host.tree.glob host.working root glob = .ok matched
      ∧ ∀ path, path ∈ found
          ↔ path ∈ matched ∧ (host.isDirectory? path = .ok true ∨ path.suffix = ".toml") := by
  cases h with
  | path hpath => exact absurd (hpath.symm.trans hpattern) Bool.false_ne_true
  | glob _ hglob hmatched hfound _ => exact ⟨_, _, hglob, hmatched, hfound⟩

/-- A pattern declares the same candidates whenever it is asked. -/
theorem Declares.mem_iff {root : Path} {pattern : String} {found other : List Path}
    (h : Declares host root pattern found) (h' : Declares host root pattern other)
    {candidate : Path} : candidate ∈ found ↔ candidate ∈ other := by
  cases hpattern : Glob.isPattern pattern with
  | false =>
    have hsingle {found : List Path} (h : Declares host root pattern found) :
        found = [root.join (Path.ofText pattern)] := by
      cases h with
      | path => rfl
      | glob hglob => exact absurd (hpattern.symm.trans hglob) Bool.false_ne_true
    rw [hsingle h, hsingle h']
  | true =>
    obtain ⟨glob, matched, hglob, hmatched, hfound⟩ := h.exists_glob hpattern
    obtain ⟨glob', matched', hglob', hmatched', hfound'⟩ := h'.exists_glob hpattern
    obtain rfl := Except.ok.inj (hglob.symm.trans hglob')
    obtain rfl := Except.ok.inj (hmatched.symm.trans hmatched')
    rw [hfound, hfound']

/-! ## Files -/

/-- A pattern names a file by one of its candidates: this is the file, under some path, or a
directory the project of which is described there. -/
structure Names (host : Host F) (root : Path) (pattern : String) (file candidate : Path) : Prop where
  declared : ∃ found, Declares host root pattern found ∧ candidate ∈ found
  resolved : host.resolve (projectFileOf candidate) = .ok file

/-- Exclusions leave a file to a pattern: it names the file by a candidate that none of them
matches. -/
def StillNames (host : Host F) (root : Path) (exclusions : List String) (pattern : String)
    (file : Path) : Prop :=
  ∃ candidate, Names host root pattern file candidate
    ∧ ∀ exclusion ∈ exclusions, ¬ Excludes root exclusion candidate

variable {root file : Path} {exclusions : List String} {pattern : String}

/-- A candidate by which a file is named is a proper path. -/
theorem Names.isProper (hhost : host.WellFormed) (hroot : root.IsProper) {candidate : Path}
    (h : Names host root pattern file candidate) : candidate.IsProper := by
  obtain ⟨found, hfound, hmem⟩ := h.declared
  exact hfound.isProper hhost hroot candidate hmem

/-- A pattern names files by its candidates only. -/
theorem Names.mem {candidate : Path} (h : Names host root pattern file candidate)
    {found : List Path} (hfound : Declares host root pattern found) : candidate ∈ found := by
  obtain ⟨other, hother, hmem⟩ := h.declared
  exact (hother.mem_iff hfound).mp hmem

/-- What is named is a resolved path. -/
theorem Names.isResolved (hhost : host.WellFormed) (hroot : root.IsProper) {candidate : Path}
    (h : Names host root pattern file candidate) : file.IsResolved :=
  Host.isResolved_of_resolve hhost (projectFileOf_isProper (h.isProper hhost hroot)) h.resolved

/-- The files that are left to a pattern are those of the candidates that are not excluded. -/
theorem stillNames_iff (hhost : host.WellFormed) (hroot : root.IsProper) {found : List Path}
    (hfound : Declares host root pattern found) :
    StillNames host root exclusions pattern file
      ↔ ∃ candidate ∈ found.filter fun candidate => !isExcluded exclusions root candidate,
          host.resolve (projectFileOf candidate) = .ok file := by
  have hexcluded {candidate : Path} (hmem : candidate ∈ found) :
      isExcluded exclusions root candidate = false
        ↔ ∀ exclusion ∈ exclusions, ¬ Excludes root exclusion candidate :=
    isExcluded_eq_false_iff (hfound.isProper hhost hroot candidate hmem) hroot
  simp only [List.mem_filter, Bool.not_eq_true']
  constructor
  · rintro ⟨candidate, hnames, hkept⟩
    have hmem := hnames.mem hfound
    exact ⟨candidate, ⟨hmem, (hexcluded hmem).mpr hkept⟩, hnames.resolved⟩
  · rintro ⟨candidate, ⟨hmem, hkept⟩, hresolved⟩
    exact ⟨candidate, ⟨⟨found, hfound, hmem⟩, hresolved⟩, (hexcluded hmem).mp hkept⟩

/-- The members of a workspace are the files that the exclusions leave to its patterns, and before
them the descriptor if it is to come first. -/
theorem mem_memberFiles_iff_stillNames (hhost : host.WellFormed) {path : Path}
    (hpath : path.IsProper) {patterns : List String} {rootFirst : Bool} {members : List Path}
    (h : (memberFiles host path patterns exclusions rootFirst).outcome = .ok members) :
    file ∈ members
      ↔ (rootFirst = true ∧ file = path)
        ∨ ∃ pattern ∈ patterns, StillNames host path.parent exclusions pattern file := by
  obtain ⟨expanded, hexpanded, hvirtual, hrooted⟩ := memberFiles_firstOccurrences h
  have hstep {pattern : String} {files : List Path}
      (hfiles : (expandPattern host path.parent exclusions pattern).outcome = .ok files) :
      file ∈ files ↔ StillNames host path.parent exclusions pattern file := by
    obtain ⟨found, hfound, hresolved⟩ := expandPattern_outcome_eq_ok_iff.mp hfiles
    rw [stillNames_iff hhost hpath.parent (declares_of_candidates hfound)]
    exact mem_iff_of_forall₂_ok hresolved
  have hflatten : file ∈ expanded.flatten
      ↔ ∃ pattern ∈ patterns, StillNames host path.parent exclusions pattern file := by
    rw [List.mem_flatten]
    constructor
    · rintro ⟨files, hfiles, hmem⟩
      obtain ⟨pattern, hpattern, hfiles⟩ := exists_of_mem_forall₂ hexpanded hfiles
      exact ⟨pattern, hpattern, (hstep hfiles).mp hmem⟩
    · rintro ⟨pattern, hpattern, hstill⟩
      obtain ⟨files, hfiles, hexpansion⟩ := exists_of_mem_forall₂ hexpanded.flip hpattern
      exact ⟨files, hfiles, (hstep hexpansion).mpr hstill⟩
  -- Erasing repetitions loses no file, and a root that goes first is put back in front.
  rw [← hflatten]
  cases rootFirst with
  | false => rw [(hvirtual rfl).mem]; simp
  | true =>
    obtain ⟨others, rfl, hothers⟩ := hrooted rfl
    rw [List.mem_cons, hothers.mem, List.mem_filter]
    by_cases hfile : file = path <;> simp [hfile]

end

/-! ## Projects -/

section

variable {host : Host SourceFile}

/-- The document of a descriptor is what its file holds. -/
theorem exists_file_of_readDescriptor {path : Path} {document : List (String × Value)}
    (h : readDescriptor host path = .ok document) :
    ∃ file, host.readFile path = .ok file
      ∧ documentOf host.platform.room file.bytes = .ok document := by
  unfold readDescriptor at h
  split at h
  · cases h
  next file hread =>
    split at h
    next hdocument =>
      cases h
      exact ⟨file, hread, hdocument⟩
    next => split at h <;> cases h

/-- A descriptor that could be read can be loaded as that of a member. -/
theorem checkMember_of_readDescriptor {path : Path} {document : List (String × Value)}
    (hdocument : readDescriptor host path = .ok document) : checkMember host path = .ok none := by
  obtain ⟨file, hread, hparsed⟩ := exists_file_of_readDescriptor hdocument
  exact checkMember_of_readFile hread hparsed

/-- There is a project with the path of a file exactly if the file is a member that can be loaded.
-/
theorem exists_project_iff_loads {scope : LoadScope} {file : Path} (hfile : file.IsProper)
    {members : List Path} (hmembers : ∀ member ∈ members, member.IsResolved)
    {projects : List Project} (h : (loadProjects host scope members).outcome = .ok projects) :
    (∃ project ∈ projects, project.path = file.text)
      ↔ file ∈ members ∧ checkMember host file = .ok none := by
  constructor
  · rintro ⟨project, hproject, heq⟩
    obtain ⟨member, hmem, hcheck, rfl⟩ := (mem_of_loadProjects_iff h).mp hproject
    rw [← Path.eq_of_text_eq (hmembers member hmem).isProper hfile heq]
    exact ⟨hmem, hcheck⟩
  · rintro ⟨hmem, hcheck⟩
    exact ⟨_, (mem_of_loadProjects_iff h).mpr ⟨file, hmem, hcheck, rfl⟩, rfl⟩

end

end WorkspaceLint
