import WorkspaceLint.Proofs.Path.Order
import WorkspaceLint.Proofs.Workspace.Accounts

/-!
# Which member files a declaration comes to, and in which order

Patterns are taken in the order of declaration, and what a glob declares in the order of paths. What
is declared more than once, in whatever spelling, becomes one member, which stands where the first
declaration puts it that no exclusion takes back. A descriptor that describes a project of its own
comes before all others.

* `Declares` — the candidates that a pattern declares.
* `exists_candidates_of_expansions` — what patterns are expanded to, candidate by candidate.
* `declaredMembers_in_order` — the members in terms of the candidates.
-/

namespace WorkspaceLint

section

variable {F : Type} {host : Host F}

/-- The candidates that a pattern declares. A text without special characters is the path of its one
candidate. A glob declares the directories among its matches, links to them included, and what has
the suffix of descriptor files, in the order of paths. -/
inductive Declares (host : Host F) (root : Path) (pattern : String) : List Path → Prop
  | path (hpattern : Glob.isPattern pattern = false) :
      Declares host root pattern [root.join (Path.ofText pattern)]
  | glob {glob : Glob} {matched found : List Path} (hpattern : Glob.isPattern pattern = true)
      (hglob : Glob.ofText pattern = .ok glob)
      (hmatched : host.tree.glob host.working root glob = .ok matched)
      (hfound : ∀ path, path ∈ found
        ↔ path ∈ matched ∧ (host.isDirectory? path = .ok true ∨ path.suffix = ".toml"))
      (hordered : found.Pairwise fun path other => path.precedes other = true) :
      Declares host root pattern found

/-- A path that can be looked at is a candidate if and only if it is a directory or has the
suffix. -/
theorem isCandidate_eq_ok {path : Path} {answer : Bool} (h : isCandidate host path = .ok answer) :
    answer = true ↔ host.isDirectory? path = .ok true ∨ path.suffix = ".toml" := by
  obtain ⟨isDirectory, hdirectory, rfl⟩ := map_eq_ok_iff.mp h
  rw [hdirectory, Bool.or_eq_true_iff, beq_iff_eq]
  exact or_congr_left ⟨congrArg Except.ok, Except.ok.inj⟩

/-- The selected paths are those that are directories or have the suffix. -/
theorem mem_selectCandidates {paths found : List Path} (h : selectCandidates host paths = .ok found)
    {path : Path} :
    path ∈ found ↔ path ∈ paths ∧ (host.isDirectory? path = .ok true ∨ path.suffix = ".toml") := by
  induction paths generalizing found with
  | nil =>
    cases h
    simp
  | cons first paths ih =>
    rw [selectCandidates] at h
    split at h
    · cases h
    next answer hanswer =>
      obtain ⟨rest, hrest, rfl⟩ := map_eq_ok_iff.mp h
      -- The first path is kept or left out; the others are selected as before.
      have hfirst := isCandidate_eq_ok hanswer
      cases answer with
      | true =>
        rw [if_pos rfl, List.mem_cons, List.mem_cons, ih hrest, or_and_right]
        refine or_congr_left (iff_self_and.mpr ?_)
        rintro rfl
        exact hfirst.mp rfl
      | false =>
        rw [if_neg Bool.false_ne_true, List.mem_cons, ih hrest, or_and_right]
        refine (or_iff_right ?_).symm
        rintro ⟨rfl, hcandidate⟩
        exact Bool.false_ne_true (hfirst.mpr hcandidate)

/-- The candidates of a pattern are what it declares. -/
theorem declares_of_candidates {root : Path} {pattern : String} {found : List Path}
    (h : candidates host root pattern = .ok found) : Declares host root pattern found := by
  unfold candidates at h
  split at h
  next hpattern =>
    cases h
    exact .path (by simpa using hpattern)
  next hpattern =>
    split at h
    · cases h
    split at h
    · cases h
    next glob hglob =>
      split at h
      · cases h
      next matched hmatched =>
        obtain ⟨selected, hselected, rfl⟩ := map_eq_ok_iff.mp h
        exact .glob (by simpa using hpattern) hglob hmatched
          (fun path => Path.mem_sorted.trans (mem_selectCandidates hselected))
          (Path.pairwise_sorted selected)

/-- The descriptor files that a pattern comes to are those of its candidates, one by one. -/
theorem expandPattern_outcome_eq_ok_iff {root : Path} {exclusions : List String} {pattern : String}
    {files : List Path} :
    (expandPattern host root exclusions pattern).outcome = .ok files
      ↔ ∃ found, candidates host root pattern = .ok found
          ∧ List.Forall₂ (fun candidate file => host.resolve (projectFileOf candidate) = .ok file)
              (found.filter fun candidate => !isExcluded exclusions root candidate) files := by
  unfold expandPattern
  cases candidates host root pattern with
  | error fault => simp [Reported.fail]
  | ok found =>
    simp only [Except.ok.injEq, exists_eq_left']
    rw [resolveCandidates_eq_mapM, mapM_eq_ok_iff]

/-- What patterns are expanded to, one after another, are the descriptor files of their candidates,
one after another. -/
theorem exists_candidates_of_expansions {root : Path} {exclusions patterns : List String}
    {expanded : List (List Path)}
    (h : List.Forall₂ (fun pattern files =>
      (expandPattern host root exclusions pattern).outcome = .ok files) patterns expanded) :
    ∃ found, List.Forall₂ (Declares host root) patterns found
      ∧ List.Forall₂ (fun candidate file => host.resolve (projectFileOf candidate) = .ok file)
          (found.flatten.filter fun candidate => !isExcluded exclusions root candidate)
          expanded.flatten := by
  induction h with
  | nil => exact ⟨[], .nil, .nil⟩
  | cons hpattern _ ih =>
    obtain ⟨first, hfirst, hfiles⟩ := expandPattern_outcome_eq_ok_iff.mp hpattern
    obtain ⟨found, hfound, hrest⟩ := ih
    refine ⟨first :: found, .cons (declares_of_candidates hfirst) hfound, ?_⟩
    rw [List.flatten_cons, List.flatten_cons, List.filter_append]
    exact List.rel_append hfiles hrest

/-- Members come in the order in which their descriptor files are first met. The descriptor's own
project comes before them if it is to be first. -/
theorem memberFiles_firstOccurrences {descriptor : Path} {patterns exclusions : List String}
    {rootFirst : Bool} {members : List Path}
    (h : (memberFiles host descriptor patterns exclusions rootFirst).outcome = .ok members) :
    ∃ expanded, List.Forall₂ (fun pattern files =>
        (expandPattern host descriptor.parent exclusions pattern).outcome = .ok files)
          patterns expanded
      ∧ (rootFirst = false → FirstOccurrences expanded.flatten members)
      ∧ (rootFirst = true → ∃ others, members = descriptor :: others
          ∧ FirstOccurrences (expanded.flatten.filter fun file => file ≠ descriptor) others) := by
  obtain ⟨expanded, hexpanded, rfl⟩ := Reported.map_outcome_eq_ok_iff.mp h
  have hfirst := firstOccurrences_eraseDups expanded.flatten
  refine ⟨expanded, Reported.forEach_outcome_eq_ok_iff.mp hexpanded, ?_, ?_⟩
  · rintro rfl
    exact hfirst
  · rintro rfl
    exact ⟨_, rfl, hfirst.filter _⟩

end

/-- The descriptor's own project comes first under a workspace table, if the descriptor is named
like that of a project and describes one. -/
theorem MemberDeclaration.rootFirst_eq_true_iff {configured : Option (List String)} {name : String}
    {document : List (String × Value)} {patterns exclusions : List String} {rootFirst : Bool}
    (h : MemberDeclaration.of configured name document
      = .ok (.patterns patterns exclusions rootFirst)) :
    rootFirst = true ↔ configured = none ∧ (workspaceTable? document).isSome = true
      ∧ name = projectFileName ∧ describesProject document = true := by
  unfold MemberDeclaration.of at h
  split at h
  · cases h
    simp
  split at h
  · split at h <;> cases h
  next table htable =>
    split at h
    · cases h
    split at h
    · cases h
    · cases h
      rw [Bool.and_eq_true_iff, decide_eq_true_iff]
      simp [htable]

/-- **Each member once, where it is first declared.** The members of a workspace that declares them
by patterns are distinct resolved paths. They are the resolved descriptor files of the candidates
that no exclusion matches, in the order in which these are first met, where candidates are taken
pattern by pattern. If the settings name no projects and the workspace table stands in a descriptor
that describes a project of its own, this project comes first, whatever the patterns and the
exclusions match. -/
theorem declaredMembers_in_order {host : Host SourceFile} (hhost : host.WellFormed)
    {settings : Settings} {descriptor path : Path} (hdescriptor : descriptor.IsProper)
    (hpath : descriptorPath host descriptor = .ok path) {document : List (String × Value)}
    {patterns exclusions : List String} {rootFirst : Bool}
    (hdeclaration : MemberDeclaration.of settings.projects path.name document
      = .ok (.patterns patterns exclusions rootFirst))
    {members : List Path} (h : (declaredMembers host settings path document).outcome = .ok members) :
    members.Nodup
    ∧ (∀ member ∈ members, member.IsResolved)
    ∧ (rootFirst = true ↔ settings.projects = none ∧ (workspaceTable? document).isSome = true
        ∧ path.name = projectFileName ∧ describesProject document = true)
    ∧ ∃ (found : List (List Path)) (files : List Path),
        List.Forall₂ (Declares host path.parent) patterns found
        ∧ List.Forall₂ (fun candidate file => host.resolve (projectFileOf candidate) = .ok file)
            (found.flatten.filter fun candidate => !isExcluded exclusions path.parent candidate)
            files
        ∧ (rootFirst = false → FirstOccurrences files members)
        ∧ (rootFirst = true → ∃ others, members = path :: others
            ∧ FirstOccurrences (files.filter fun file => file ≠ path) others) := by
  have hresolved := declaredMembers_isResolved hhost
    (descriptorPath_isResolved hhost hdescriptor hpath) h
  unfold declaredMembers at h
  rw [hdeclaration] at h
  have hmembers := Reported.mapFault_outcome_eq_ok_iff.mp h
  obtain ⟨expanded, hexpanded, hordered⟩ := memberFiles_firstOccurrences hmembers
  obtain ⟨found, hfound, hfiles⟩ := exists_candidates_of_expansions hexpanded
  exact ⟨memberFiles_nodup hmembers, hresolved,
    MemberDeclaration.rootFirst_eq_true_iff hdeclaration, found, expanded.flatten, hfound, hfiles,
    hordered⟩

/-- A host with two members and a link to one of them, beside a descriptor. -/
def overlappingHost : Host SourceFile :=
  ⟨⟨[(["w"], .directory), (["w", "pyproject.toml"], fileOf []),
      (["w", "b"], .directory), (["w", "b", "pyproject.toml"], fileOf []),
      (["w", "link"], .link "b"), (["w", "a"], .directory),
      (["w", "a", "pyproject.toml"], fileOf [])]⟩,
    ["w"], ⟨.root, ["w"]⟩, .standard⟩

/-- Patterns that match its members in several spellings, and the descriptor itself. -/
def overlappingPatterns : List String := ["./b", "b*", "*.toml", "a/../link", "a"]

/-- A document with these patterns and an exclusion of the descriptor, which describes a project. -/
def overlappingDocument : List (String × Value) :=
  [("project", .table []),
    ("tool", .table [("uv", .table [("workspace", .table
      [("members", .list (overlappingPatterns.map .text)),
        ("exclude", .list [.text "pyproject.toml"])])])])]

/-- The descriptor's own project comes first, then the members in the order of the patterns. -/
theorem overlappingPatterns_in_order :
    ∃ (found : List (List Path)) (files : List Path),
      List.Forall₂ (Declares overlappingHost (Path.ofText "/w")) overlappingPatterns found
      ∧ List.Forall₂ (fun candidate file =>
          overlappingHost.resolve (projectFileOf candidate) = .ok file)
          (found.flatten.filter fun candidate =>
            !isExcluded ["pyproject.toml"] (Path.ofText "/w") candidate) files
      ∧ FirstOccurrences (files.filter fun file => file ≠ Path.ofText "/w/pyproject.toml")
          (["/w/b/pyproject.toml", "/w/a/pyproject.toml"].map Path.ofText) := by
  have hhost : overlappingHost.WellFormed :=
    ⟨⟨by decide, by decide⟩, by decide, Path.ofText_isProper "/w"⟩
  have hmembers : (declaredMembers overlappingHost Settings.standard
      (Path.ofText "/w/pyproject.toml") overlappingDocument).outcome
        = .ok (["/w/pyproject.toml", "/w/b/pyproject.toml", "/w/a/pyproject.toml"].map
          Path.ofText) :=
    toOption_eq_some_iff.mp (by decide +kernel)
  obtain ⟨-, -, -, found, files, hfound, hfiles, -, hfirst⟩ :=
    declaredMembers_in_order hhost (Path.ofText_isProper "/w/pyproject.toml") rfl rfl hmembers
  obtain ⟨others, heq, hothers⟩ := hfirst rfl
  obtain rfl := (List.cons.inj heq).2
  exact ⟨found, files, hfound, hfiles, hothers⟩

end WorkspaceLint
