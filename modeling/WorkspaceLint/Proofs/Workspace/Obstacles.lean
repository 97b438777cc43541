import WorkspaceLint.Proofs.Workspace.Accounts
import WorkspaceLint.Proofs.Workspace.Loading

/-!
# What keeps a workspace from being opened

A workspace that cannot be opened ends in a declared error, unless it meets an obstacle that is not
expected: then the fault of the obstacle passes through as it is. For each part of the work there is
a relation here between what it works on and the faults of the obstacles in it. A part that fails
does so with the fault of one of its obstacles, the first one that it meets; and if there is an
obstacle, the part fails.

* `expandHome_eq_error_iff`, `resolve_eq_error_iff`, `isDirectory?_eq_error_iff` — obstacles in
  paths.
* `obstacle_of_expandPattern_error`, `expandPattern_fails` — obstacles in patterns.
* `readDescriptor_eq_escaped_iff`, `checkMember_eq_error_iff` — obstacles in documents.
* `obstacle_of_loadProject_error`, `loadProject_fails` — obstacles in members.
* `OpeningObstacle.isAnyOf_escapingClasses` — the classes of the faults.
-/

namespace WorkspaceLint

/-! ## Obstacles -/

section

variable {F : Type}

/-- A user whose home directory is not known: the name holds the null character, or the platform
does not know of the user. -/
inductive HomeObstacle (host : Host F) (name : String) : Fault → Prop
  | nullCharacter (hnull : Char.ofNat 0 ∈ name.toList) :
      HomeObstacle host name nullCharacterFault
  | unknown (hnull : Char.ofNat 0 ∉ name.toList)
      (hunknown : host.platform.homeOf name = none) :
      HomeObstacle host name (.withMessage "RuntimeError" "Could not determine home directory.")

/-- A path with a home directory at its front that is not known. -/
inductive ExpandObstacle (host : Host F) (path : Path) : Fault → Prop
  | home {first : String} {names : List String} {name : List Char} {fault : Fault}
      (hanchor : path.anchor = .relative) (hparts : path.parts = first :: names)
      (htilde : first.toList = '~' :: name) (hother : name ≠ [])
      (hhome : HomeObstacle host (String.ofList name) fault) : ExpandObstacle host path fault

/-- A path without a resolved form: it takes calls that go too deep, it holds the null character, or
what is found for it leads around in circles. -/
inductive ResolveObstacle (host : Host F) (path : Path) : Fault → Prop
  | shortage {message : String}
      (hshort : host.platform.shortage? (.resolving path) = some message) :
      ResolveObstacle host path (shortageFault message)
  | nullCharacter (hroom : host.platform.shortage? (.resolving path) = none)
      (hnull : FileTree.hasNull path = true) : ResolveObstacle host path nullCharacterFault
  | circle (hroom : host.platform.shortage? (.resolving path) = none)
      (hnull : FileTree.hasNull path = false)
      (hcircle : host.tree.lookup host.working (host.tree.real host.working path)
        = .error .tooManyLinks) :
      ResolveObstacle host path
        (ResolveFault.circle (host.tree.real host.working path)).toFault

/-- A path with a name that is too long for the system. -/
inductive ProbeObstacle (host : Host F) (path : Path) : Fault → Prop
  | nameTooLong (hnull : FileTree.hasNull path = false)
      (hlong : host.tree.lookup host.working path = .error .nameTooLong) :
      ProbeObstacle host path (PathFault.nameTooLong.toFault path.text)

/-- A text with special characters that can be matched below a directory without going too deep. -/
structure IsMatched (host : Host F) (root : Path) (pattern : String) : Prop where
  special : Glob.isPattern pattern = true
  room : host.platform.shortage? (.matching root pattern) = none

/-- A pattern of members that takes calls which go too deep, that is no path pattern, that meets a
name too long for the system, or that declares a member the descriptor of which has no resolved
form. -/
inductive PatternObstacle (host : Host F) (root : Path) (exclusions : List String)
    (pattern : String) : Fault → Prop
  | shortage {message : String} (hpattern : Glob.isPattern pattern = true)
      (hshort : host.platform.shortage? (.matching root pattern) = some message) :
      PatternObstacle host root exclusions pattern (shortageFault message)
  | absolute (hpattern : IsMatched host root pattern)
      (habsolute : (Path.ofText pattern).isAbsolute = true) :
      PatternObstacle host root exclusions pattern GlobFault.absolute.toFault
  | misplacedDeep {name : String} (hpattern : IsMatched host root pattern)
      (hname : name ∈ (Path.ofText pattern).parts) (hne : name ≠ "**")
      (hdeep : Glob.hasDoubleAsterisk name.toList = true) :
      PatternObstacle host root exclusions pattern GlobFault.misplacedDeep.toFault
  | matching {glob : Glob} {path : Path} (hpattern : IsMatched host root pattern)
      (hglob : Glob.ofText pattern = .ok glob)
      (hmatching : host.tree.glob host.working root glob = .error (.nameTooLong, path)) :
      PatternObstacle host root exclusions pattern (PathFault.nameTooLong.toFault path.text)
  | found {glob : Glob} {found : List Path} {path : Path} {fault : Fault}
      (hpattern : IsMatched host root pattern) (hglob : Glob.ofText pattern = .ok glob)
      (hfound : host.tree.glob host.working root glob = .ok found) (hpath : path ∈ found)
      (hprobe : ProbeObstacle host path fault) :
      PatternObstacle host root exclusions pattern fault
  | candidate {found : List Path} {candidate : Path} {fault : Fault}
      (hfound : candidates host root pattern = .ok found) (hcandidate : candidate ∈ found)
      (hkept : isExcluded exclusions root candidate = false)
      (hresolve : ResolveObstacle host (projectFileOf candidate) fault) :
      PatternObstacle host root exclusions pattern fault

end

/-- A file the bytes of which are no text, or which has a number with more digits than are read, or
values inside one another too deep to be read. -/
inductive DocumentObstacle (host : Host SourceFile) (path : Path) : Fault → Prop
  | undecodable {file : SourceFile} {fault : Text.DecodeFault}
      (hread : host.readFile path = .ok file)
      (htext : Text.decodeUtf8 file.bytes = .error fault) :
      DocumentObstacle host path (.ofDecoding file.bytes fault)
  | oversizedNumber {file : SourceFile} {text : List Char} {digits : Nat}
      (hread : host.readFile path = .ok file) (htext : Text.decodeUtf8 file.bytes = .ok text)
      (hnumber : Toml.readDocument host.platform.room text = .error (.tooManyDigits digits)) :
      DocumentObstacle host path (oversizedNumberFault digits)
  | tooDeep {file : SourceFile} {text : List Char} (hread : host.readFile path = .ok file)
      (htext : Text.decodeUtf8 file.bytes = .ok text)
      (hdeep : Toml.readDocument host.platform.room text = .error .tooDeep) :
      DocumentObstacle host path (shortageFault shortageText)

/-- A descriptor the path of which holds the null character, or that holds no document for one of
the reasons above. -/
inductive ReadObstacle (host : Host SourceFile) (path : Path) : Fault → Prop
  | nullCharacter (hnull : FileTree.hasNull path = true) :
      ReadObstacle host path nullCharacterFault
  | document {fault : Fault} (hdocument : DocumentObstacle host path fault) :
      ReadObstacle host path fault

/-- A member with a name too long for the system on its path, with a descriptor that holds no
document for one of the reasons above, or with a directory that goes too deep to be walked or has a
source file with an obstacle. -/
inductive MemberObstacle (host : Host SourceFile) (scope : LoadScope) (member : Path) : Fault → Prop
  | probe {fault : Fault} (hprobe : ProbeObstacle host member fault) :
      MemberObstacle host scope member fault
  | document {fault : Fault} (hdocument : DocumentObstacle host member fault) :
      MemberObstacle host scope member fault
  | walking {message : String} (hcheck : checkMember host member = .ok none)
      (hshort : host.platform.shortage? (.walking member.parent) = some message) :
      MemberObstacle host scope member (shortageFault message)
  | source {source : Path} {fault : Fault} (hcheck : checkMember host member = .ok none)
      (hwalk : host.platform.shortage? (.walking member.parent) = none)
      (hsource : source ∈ projectSources host scope member)
      (hobstacle : SourceObstacle host source fault) : MemberObstacle host scope member fault

/-- What keeps a workspace from being opened without being expected: an unknown home directory at
the front of the descriptor's path, a path without a resolved form, or an obstacle in the
descriptor, in one of the patterns that it declares, or in one of the members. -/
inductive OpeningObstacle (host : Host SourceFile) (settings : Settings) (mapper : PositionMapper)
    (descriptor : Path) : Fault → Prop
  | home {fault : Fault} (hhome : ExpandObstacle host descriptor fault) :
      OpeningObstacle host settings mapper descriptor fault
  | path {expanded : Path} {fault : Fault} (hexpanded : host.expandHome descriptor = .ok expanded)
      (hpath : ResolveObstacle host expanded fault) :
      OpeningObstacle host settings mapper descriptor fault
  | descriptor {path : Path} {fault : Fault} (hpath : descriptorPath host descriptor = .ok path)
      (hread : ReadObstacle host path fault) :
      OpeningObstacle host settings mapper descriptor fault
  | pattern {path : Path} {document : List (String × Value)} {patterns exclusions : List String}
      {rootFirst : Bool} {pattern : String} {fault : Fault}
      (hpath : descriptorPath host descriptor = .ok path)
      (hdocument : readDescriptor host path = .ok document)
      (hdeclaration : MemberDeclaration.of settings.projects path.name document
        = .ok (.patterns patterns exclusions rootFirst)) (hpattern : pattern ∈ patterns)
      (hobstacle : PatternObstacle host path.parent exclusions pattern fault) :
      OpeningObstacle host settings mapper descriptor fault
  | member {path member : Path} {document : List (String × Value)} {members : List Path}
      {fault : Fault} (hpath : descriptorPath host descriptor = .ok path)
      (hdocument : readDescriptor host path = .ok document)
      (hmembers : (declaredMembers host settings path document).outcome = .ok members)
      (hmember : member ∈ members)
      (hobstacle : MemberObstacle host (loadScope settings mapper path members) member fault) :
      OpeningObstacle host settings mapper descriptor fault

/-! ## Paths -/

section

variable {F : Type} {host : Host F} {path : Path}

/-- A home directory is not known exactly if there is an obstacle. -/
theorem homeOf_eq_error_iff {name : String} {fault : Fault} :
    host.homeOf name = .error fault ↔ HomeObstacle host name fault := by
  unfold Host.homeOf
  constructor
  · intro h
    split at h
    next hnull =>
      cases h
      exact .nullCharacter (by simpa using hnull)
    next hnull =>
      split at h
      · cases h
      next hunknown =>
        cases h
        exact .unknown (by simpa using hnull) hunknown
  · rintro (hnull | ⟨hnull, hunknown⟩)
    · rw [if_pos (by simpa using hnull)]
    · rw [if_neg (by simpa using hnull), hunknown]

/-- A home directory cannot take the place of a tilde exactly if there is an obstacle. -/
theorem expandHome_eq_error_iff {fault : Fault} :
    host.expandHome path = .error fault ↔ ExpandObstacle host path fault := by
  unfold Host.expandHome
  constructor
  · intro h
    split at h
    next first names hanchor hparts =>
      split at h
      · cases h
      -- A tilde alone is one's own home directory, which is there.
      next name hother htilde =>
        refine .home hanchor hparts htilde ?_ (homeOf_eq_error_iff.mp (map_eq_error_iff.mp h))
        rintro rfl
        exact hother rfl
      · cases h
    · cases h
  · rintro ⟨hanchor, hparts, htilde, hother, hhome⟩
    rw [hanchor, hparts]
    dsimp only
    rw [htilde]
    split
    next heq => exact absurd (List.cons.inj heq).2 hother
    next heq =>
      rw [← (List.cons.inj heq).2, homeOf_eq_error_iff.mpr hhome]
      rfl
    next hno => exact absurd rfl (hno _)

/-- A path has no resolved form exactly if there is an obstacle. -/
theorem resolve_eq_error_iff {fault : Fault} :
    host.resolve path = .error fault ↔ ResolveObstacle host path fault := by
  unfold Host.resolve FileTree.resolve
  constructor
  · intro h
    split at h
    next hshort =>
      cases h
      exact .shortage hshort
    -- Null characters are noticed first, then circles.
    next hroom =>
      obtain ⟨origin, horigin, rfl⟩ := mapError_eq_error_iff.mp h
      split at horigin
      next hnull =>
        cases horigin
        exact .nullCharacter hroom hnull
      next hnull =>
        dsimp only at horigin
        split at horigin
        next hcircle =>
          cases horigin
          exact .circle hroom (by simpa using hnull) hcircle
        · cases horigin
  · rintro (hshort | ⟨hroom, hnull⟩ | ⟨hroom, hnull, hcircle⟩)
    · rw [hshort]
    · rw [hroom]
      exact mapError_eq_error_iff.mpr ⟨.nullCharacter, by rw [if_pos hnull], rfl⟩
    · rw [hroom]
      exact mapError_eq_error_iff.mpr ⟨.circle _, by simp [hnull, hcircle], rfl⟩

/-- Every question about a path fails alike. -/
theorem probe_eq_error {working : Location} {question : Entry F → Bool} {fault : PathFault}
    (h : host.tree.probe working question path = .error fault) : fault = .nameTooLong := by
  unfold FileTree.probe at h
  split at h
  · cases h
  split at h
  · cases h
  · cases h
    rfl
  · cases h

/-- A question about a path has no answer exactly if there is an obstacle. -/
theorem probe_eq_error_iff {question : Entry F → Bool} {fault : Fault} :
    ((host.tree.probe host.working question path).mapError fun fault => fault.toFault path.text)
        = .error fault
      ↔ ProbeObstacle host path fault := by
  rw [mapError_eq_error_iff]
  constructor
  · rintro ⟨origin, horigin, rfl⟩
    obtain rfl := probe_eq_error horigin
    unfold FileTree.probe at horigin
    split at horigin
    · cases horigin
    next hnull =>
      split at horigin
      · cases horigin
      next hlong => exact .nameTooLong (by simpa using hnull) hlong
      · cases horigin
  · rintro ⟨hnull, hlong⟩
    exact ⟨.nameTooLong, by simp [FileTree.probe, hnull, hlong], rfl⟩

/-- Whether a path leads to a directory cannot be told exactly if there is an obstacle. -/
theorem isDirectory?_eq_error_iff {fault : Fault} :
    host.isDirectory? path = .error fault ↔ ProbeObstacle host path fault :=
  probe_eq_error_iff

/-- Whether a path leads to a file cannot be told exactly if there is an obstacle. -/
theorem isFile?_eq_error_iff {fault : Fault} :
    host.isFile? path = .error fault ↔ ProbeObstacle host path fault :=
  probe_eq_error_iff

end

/-! ## Patterns -/

section

variable {F : Type} {host : Host F} {root : Path} {exclusions : List String} {pattern : String}

/-- A text is no path pattern if it starts at the root, or if two asterisks are only a part of a
name. -/
theorem ofText_eq_error {text : String} {fault : GlobFault} (h : Glob.ofText text = .error fault) :
    (fault = .absolute ∧ (Path.ofText text).isAbsolute = true)
    ∨ fault = .misplacedDeep ∧ ∃ name ∈ (Path.ofText text).parts, name ≠ "**"
        ∧ Glob.hasDoubleAsterisk name.toList = true := by
  simp only [Glob.ofText] at h
  split at h
  next habsolute =>
    cases h
    exact .inl ⟨rfl, habsolute⟩
  split at h
  next hparts =>
    cases h
    obtain ⟨name, hname, hpart⟩ := exists_of_mapM_error hparts
    -- Of the parts, only one with asterisks side by side is refused.
    unfold Glob.partOf at hpart
    split at hpart
    · cases hpart
    next hne =>
      split at hpart
      next hdeep =>
        cases hpart
        exact .inr ⟨rfl, name, hname, hne, hdeep⟩
      · split at hpart <;> cases hpart
  · cases h

/-- A text that starts at the root is no path pattern. -/
theorem ofText_fails_of_absolute {text : String} (h : (Path.ofText text).isAbsolute = true) :
    ∃ fault, Glob.ofText text = .error fault :=
  ⟨.absolute, by simp [Glob.ofText, h]⟩

/-- A text with two asterisks in a part of a name is no path pattern. -/
theorem ofText_fails_of_misplacedDeep {text name : String} (hname : name ∈ (Path.ofText text).parts)
    (hne : name ≠ "**") (hdeep : Glob.hasDoubleAsterisk name.toList = true) :
    ∃ fault, Glob.ofText text = .error fault := by
  cases habsolute : (Path.ofText text).isAbsolute with
  | true => exact ofText_fails_of_absolute habsolute
  | false =>
    have hpart : Glob.partOf name = .error .misplacedDeep := by simp [Glob.partOf, hne, hdeep]
    obtain ⟨fault, hparts⟩ := mapM_fails_iff.mpr ⟨name, hname, _, hpart⟩
    exact ⟨fault, by simp [Glob.ofText, habsolute, hparts]⟩

/-- A name that is too long is all that can keep a directory from being listed. -/
theorem scan_eq_error {working : Location} {directory path : Path} {fault : PathFault}
    (h : host.tree.scan working directory = .error (fault, path)) : fault = .nameTooLong := by
  unfold FileTree.scan at h
  split at h
  · cases h
  · cases h
    rfl
  · cases h

/-- A name that is too long is all that can keep an entry of a directory from being followed. -/
theorem leadsToDirectory?_eq_error {working location : Location} {directory path : Path}
    {name : String} {fault : PathFault}
    (h : host.tree.leadsToDirectory? working location directory name = .error (fault, path)) :
    fault = .nameTooLong := by
  unfold FileTree.leadsToDirectory? at h
  split at h
  · cases h
  · split at h
    · cases h
    next htest =>
      cases h
      exact probe_eq_error htest
  · cases h

/-- A name that is too long is all that can keep a pattern from being matched. -/
theorem select_eq_error {working : Location} {directoriesOnly : Bool} {parts : List GlobPart}
    {start path : Path} {fault : PathFault}
    (h : host.tree.select working directoriesOnly parts start = .error (fault, path)) :
    fault = .nameTooLong := by
  induction parts generalizing start with
  | nil => cases h
  | cons part parts ih =>
    cases part with
    | exact name =>
      simp only [FileTree.select] at h
      split at h
      next htest =>
        cases h
        split at htest <;> exact probe_eq_error htest
      · cases h
      · exact ih h
    | pattern pattern =>
      simp only [FileTree.select] at h
      split at h
      next hscan =>
        cases h
        exact scan_eq_error hscan
      next location names hscan =>
        obtain ⟨name, -, hname⟩ := exists_of_mapM_error (map_eq_error_iff.mp h)
        rcases bind_eq_error_iff.mp hname with hsuits | ⟨suits, -, hname⟩
        · split at hsuits
          · exact leadsToDirectory?_eq_error hsuits
          · cases hsuits
        · split at hname
          · exact ih hname
          · cases hname
    | deep =>
      simp only [FileTree.select] at h
      -- Each directory below is scanned again for the parts that are left.
      obtain ⟨directory, -, hdirectory⟩ := exists_of_mapM_error (map_eq_error_iff.mp h)
      rcases bind_eq_error_iff.mp hdirectory with hbelow | ⟨found, -, hdirectory⟩
      · exact ih hbelow
      · rcases bind_eq_error_iff.mp hdirectory with hscan | ⟨-, -, hdirectory⟩
        · exact scan_eq_error (map_eq_error_iff.mp hscan)
        · cases hdirectory

/-- A name that is too long is all that can keep a path pattern from being matched. -/
theorem glob_eq_error {working : Location} {directory path : Path} {glob : Glob} {fault : PathFault}
    (h : host.tree.glob working directory glob = .error (fault, path)) : fault = .nameTooLong := by
  unfold FileTree.glob at h
  split at h
  next htest =>
    cases h
    exact probe_eq_error htest
  · cases h
  · exact select_eq_error h

/-- A pattern that declares no paths has an obstacle. -/
theorem obstacle_of_candidates_error {fault : Fault}
    (h : candidates host root pattern = .error fault) :
    PatternObstacle host root exclusions pattern fault := by
  unfold candidates at h
  split at h
  · cases h
  next hpattern =>
    replace hpattern : Glob.isPattern pattern = true := by simpa using hpattern
    split at h
    next hshort =>
      cases h
      exact .shortage hpattern hshort
    next hroom =>
      split at h
      next hglob =>
        cases h
        rcases ofText_eq_error hglob with ⟨rfl, habsolute⟩ | ⟨rfl, name, hname, hne, hdeep⟩
        · exact .absolute ⟨hpattern, hroom⟩ habsolute
        · exact .misplacedDeep ⟨hpattern, hroom⟩ hname hne hdeep
      next glob hglob =>
        split at h
        next hmatching =>
          cases h
          obtain rfl := glob_eq_error hmatching
          exact .matching ⟨hpattern, hroom⟩ hglob hmatching
        next found hfound =>
          -- What is matched is looked at, unless a name on its path is too long.
          rw [map_eq_error_iff, selectCandidates_eq_mapM, map_eq_error_iff] at h
          obtain ⟨path, hpath, hprobe⟩ := exists_of_mapM_error h
          rw [map_eq_error_iff, isCandidate, map_eq_error_iff, isDirectory?_eq_error_iff] at hprobe
          exact .found ⟨hpattern, hroom⟩ hglob hfound hpath hprobe

/-- A pattern that cannot be expanded has an obstacle. -/
theorem obstacle_of_expandPattern_error {fault : Fault}
    (h : (expandPattern host root exclusions pattern).outcome = .error fault) :
    PatternObstacle host root exclusions pattern fault := by
  unfold expandPattern at h
  split at h
  next hfound =>
    cases h
    exact obstacle_of_candidates_error hfound
  next found hfound =>
    dsimp only at h
    rw [resolveCandidates_eq_mapM] at h
    obtain ⟨candidate, hcandidate, hresolve⟩ := exists_of_mapM_error h
    obtain ⟨hmem, hkept⟩ := List.mem_filter.mp hcandidate
    exact .candidate hfound hmem (by simpa using hkept) (resolve_eq_error_iff.mp hresolve)

/-- Candidates cannot be selected from paths with one that has an obstacle. -/
theorem selectCandidates_fails {paths : List Path} {path : Path} {fault : Fault}
    (hpath : path ∈ paths) (hprobe : ProbeObstacle host path fault) :
    ∃ fault, selectCandidates host paths = .error fault := by
  simp only [selectCandidates_eq_mapM, map_eq_error_iff]
  refine mapM_fails_iff.mpr ⟨path, hpath, fault, ?_⟩
  rw [map_eq_error_iff, isCandidate, map_eq_error_iff]
  exact isDirectory?_eq_error_iff.mpr hprobe

/-- Candidates cannot be resolved if the descriptor of one has an obstacle. -/
theorem resolveCandidates_fails {paths : List Path} {candidate : Path} {fault : Fault}
    (hcandidate : candidate ∈ paths)
    (hresolve : ResolveObstacle host (projectFileOf candidate) fault) :
    ∃ fault, resolveCandidates host paths = .error fault := by
  simp only [resolveCandidates_eq_mapM]
  exact mapM_fails_iff.mpr ⟨candidate, hcandidate, fault, resolve_eq_error_iff.mpr hresolve⟩

/-- A pattern with an obstacle cannot be expanded. -/
theorem expandPattern_fails {fault : Fault}
    (h : PatternObstacle host root exclusions pattern fault) :
    ∃ fault, (expandPattern host root exclusions pattern).outcome = .error fault := by
  have hfails (hcandidates : ∃ fault, candidates host root pattern = .error fault) :
      ∃ fault, (expandPattern host root exclusions pattern).outcome = .error fault := by
    obtain ⟨fault, hcandidates⟩ := hcandidates
    exact ⟨fault, by simp only [expandPattern, hcandidates]; rfl⟩
  cases h with
  | @shortage message hpattern hshort =>
    exact hfails ⟨shortageFault message, by simp [candidates, hpattern, hshort]⟩
  | absolute hpattern habsolute =>
    obtain ⟨fault, hglob⟩ := ofText_fails_of_absolute habsolute
    exact hfails ⟨fault.toFault, by simp [candidates, hpattern.special, hpattern.room, hglob]⟩
  | misplacedDeep hpattern hname hne hdeep =>
    obtain ⟨fault, hglob⟩ := ofText_fails_of_misplacedDeep hname hne hdeep
    exact hfails ⟨fault.toFault, by simp [candidates, hpattern.special, hpattern.room, hglob]⟩
  | @matching glob path hpattern hglob hmatching =>
    refine hfails ⟨PathFault.nameTooLong.toFault path.text, ?_⟩
    simp [candidates, hpattern.special, hpattern.room, hglob, hmatching]
  | found hpattern hglob hfound hpath hprobe =>
    obtain ⟨fault, hselect⟩ := selectCandidates_fails hpath hprobe
    refine hfails ⟨fault, ?_⟩
    simp [candidates, hpattern.special, hpattern.room, hglob, hfound, hselect, Except.map]
  | @candidate found candidate fault hfound hcandidate hkept hresolve =>
    -- A candidate that is excluded would not be resolved at all.
    have hmem : candidate ∈ found.filter fun candidate => !isExcluded exclusions root candidate :=
      List.mem_filter.mpr ⟨hcandidate, by rw [hkept]; rfl⟩
    obtain ⟨fault, hfault⟩ := resolveCandidates_fails hmem hresolve
    exact ⟨fault, by simpa only [expandPattern, hfound] using hfault⟩

end

/-! ## Documents -/

section

variable {host : Host SourceFile} {path : Path}

/-- Bytes are no document for a reason that is not expected exactly if they hold no text, a number
that is too long, or values inside one another too deep. -/
theorem documentObstacle_iff {fault : Fault} :
    DocumentObstacle host path fault
      ↔ ∃ file documentFault, host.readFile path = .ok file
          ∧ documentOf host.platform.room file.bytes = .error documentFault
          ∧ documentFault.toFault file.bytes = some fault := by
  constructor
  · intro h
    cases h with
    | @undecodable file fault hread htext =>
      exact ⟨file, .undecodable fault, hread, by simp only [documentOf, htext], rfl⟩
    | @oversizedNumber file text digits hread htext hnumber =>
      exact ⟨file, .oversizedNumber digits, hread, by simp only [documentOf, htext, hnumber], rfl⟩
    | @tooDeep file text hread htext hdeep =>
      exact ⟨file, .tooDeep, hread, by simp only [documentOf, htext, hdeep], rfl⟩
  · rintro ⟨file, documentFault, hread, hdocument, hfault⟩
    -- Each way in which a document is refused is one of the obstacles, or is expected.
    unfold documentOf at hdocument
    split at hdocument
    next htext =>
      cases hdocument
      cases hfault
      exact .undecodable hread htext
    next text htext =>
      split at hdocument
      · cases hdocument
      · cases hdocument
        cases hfault
      next hnumber =>
        cases hdocument
        cases hfault
        exact .oversizedNumber hread htext hnumber
      next hdeep =>
        cases hdocument
        cases hfault
        exact .tooDeep hread htext hdeep

/-- A fault of the operating system makes a declared error. -/
theorem unreadableDescriptor_of_isA (text : String) {fault : Fault}
    (h : fault.isA "OSError" = true) :
    ∃ declared, unreadableDescriptor text fault = .declared declared := by
  unfold unreadableDescriptor
  rw [h]
  split
  · exact ⟨_, rfl⟩
  · rw [if_pos rfl]
    split <;> exact ⟨_, rfl⟩

/-- The faults that escape from reading a descriptor are those of its obstacles. -/
theorem readDescriptor_eq_escaped_iff {fault : Fault} :
    readDescriptor host path = .error (.escaped fault) ↔ ReadObstacle host path fault := by
  unfold readDescriptor
  constructor
  · intro h
    split at h
    next readFault hread =>
      -- Faults of the operating system are declared, so only the null character is left.
      rcases readFile_eq_error hread with ⟨hnull, rfl⟩ | hsystem
      · cases h
        exact .nullCharacter hnull
      · obtain ⟨declared, hdeclared⟩ := unreadableDescriptor_of_isA path.text hsystem
        rw [hdeclared] at h
        cases h
    next file hread =>
      split at h
      · cases h
      next documentFault hdocument =>
        split at h
        next hfault =>
          cases h
          exact .document (documentObstacle_iff.mpr ⟨file, _, hread, hdocument, hfault⟩)
        · cases h
  · rintro (hnull | hdocument)
    · rw [readFile_of_hasNull hnull]
      rfl
    · obtain ⟨file, documentFault, hread, hdocument, hfault⟩ := documentObstacle_iff.mp hdocument
      simp only [hread, hdocument, hfault]

/-- A member cannot be checked exactly if its path or its descriptor has an obstacle. -/
theorem checkMember_eq_error_iff {member : Path} {fault : Fault} :
    checkMember host member = .error fault
      ↔ ProbeObstacle host member fault ∨ DocumentObstacle host member fault := by
  unfold checkMember
  constructor
  · intro h
    split at h
    next hprobe =>
      cases h
      exact .inl (isFile?_eq_error_iff.mp hprobe)
    · cases h
    next hfile =>
      split at h
      · cases h
      -- A file that cannot be read is reported, whatever the reason.
      next file hread =>
        split at h
        · cases h
        next documentFault hdocument =>
          split at h
          next hfault =>
            cases h
            exact .inr (documentObstacle_iff.mpr ⟨file, _, hread, hdocument, hfault⟩)
          · cases h
  · rintro (hprobe | hdocument)
    · rw [isFile?_eq_error_iff.mpr hprobe]
    · obtain ⟨file, documentFault, hread, hdocument, hfault⟩ := documentObstacle_iff.mp hdocument
      have hfile : host.isFile? member = .ok true := isFile?_eq_true_iff.mpr ⟨file, hread⟩
      simp only [hfile, hread, hdocument, hfault]

section

variable {scope : LoadScope} {member : Path} {fault : Fault}

/-- A member that cannot be loaded has an obstacle. -/
theorem obstacle_of_loadProject_error (h : (loadProject host scope member).outcome = .error fault) :
    MemberObstacle host scope member fault := by
  unfold loadProject at h
  split at h
  next hcheck =>
    cases h
    rcases checkMember_eq_error_iff.mp hcheck with hprobe | hdocument
    · exact .probe hprobe
    · exact .document hdocument
  · cases h
  next hcheck =>
    split at h
    next hshort =>
      cases h
      exact .walking hcheck hshort
    next hwalk =>
      obtain ⟨source, hsource, hobstacle⟩ :=
        exists_of_loadUnits_error (Reported.map_outcome_eq_error_iff.mp h)
      exact .source hcheck hwalk hsource hobstacle

/-- A member with an obstacle cannot be loaded. -/
theorem loadProject_fails (h : MemberObstacle host scope member fault) :
    ∃ fault, (loadProject host scope member).outcome = .error fault := by
  have hfails (hcheck : checkMember host member = .error fault) :
      (loadProject host scope member).outcome = .error fault := by
    rw [loadProject, hcheck]
    rfl
  cases h with
  | probe hprobe => exact ⟨fault, hfails (checkMember_eq_error_iff.mpr (.inl hprobe))⟩
  | document hdocument => exact ⟨fault, hfails (checkMember_eq_error_iff.mpr (.inr hdocument))⟩
  | @walking message hcheck hshort =>
    refine ⟨shortageFault message, ?_⟩
    rw [loadProject, hcheck]
    dsimp only
    rw [hshort]
    rfl
  | source hcheck hwalk hsource hobstacle =>
    cases hload : (loadProject host scope member).outcome with
    | error fault => exact ⟨fault, rfl⟩
    | ok project? =>
      -- A member that is loaded has no source file with an obstacle.
      have hquiet := ((loadProject_outcome_eq_ok_iff hcheck).mp hload).1.quiet
      exact absurd hobstacle (hquiet _ hsource _)

/-- Where a member that can be loaded has no obstacle, its source files are loaded to the end. -/
theorem sourcesLoad_of_clear (hcheck : checkMember host member = .ok none)
    (hclear : ∀ fault, ¬ MemberObstacle host scope member fault) : SourcesLoad host scope member := by
  have hwalk : host.platform.shortage? (.walking member.parent) = none :=
    Option.eq_none_iff_forall_ne_some.mpr fun message hshort => hclear _ (.walking hcheck hshort)
  exact ⟨hwalk, fun source hsource fault hobstacle =>
    hclear fault (.source hcheck hwalk hsource hobstacle)⟩

/-- Members that cannot be loaded have an obstacle in one of them. -/
theorem exists_of_loadProjects_error {members : List Path}
    (h : (loadProjects host scope members).outcome = .error fault) :
    ∃ member ∈ members, MemberObstacle host scope member fault := by
  obtain ⟨member, hmember, hload⟩ :=
    Reported.exists_of_forEach_error (Reported.map_outcome_eq_error_iff.mp h)
  exact ⟨member, hmember, obstacle_of_loadProject_error hload⟩

/-- Members cannot be loaded if one of them has an obstacle. -/
theorem loadProjects_fails {members : List Path} (hmember : member ∈ members)
    (h : MemberObstacle host scope member fault) :
    ∃ fault, (loadProjects host scope members).outcome = .error fault := by
  obtain ⟨fault, hload⟩ := loadProject_fails h
  obtain ⟨fault, hfault⟩ := Reported.forEach_fails_iff.mpr ⟨member, hmember, fault, hload⟩
  exact ⟨fault, Reported.map_outcome_eq_error_iff.mpr hfault⟩

/-- A member that is accounted for has no obstacle. -/
theorem MemberAccount.not_memberObstacle {record : MemberRecord}
    (h : MemberAccount host scope member record) : ¬ MemberObstacle host scope member fault := by
  intro hobstacle
  obtain ⟨fault, hfails⟩ := loadProject_fails hobstacle
  rw [loadProject_eq_of_account h] at hfails
  cases hfails

end

end

/-! ## The faults of obstacles -/

/-- The classes of the faults that escape. -/
def escapingClasses : List String :=
  ["OSError", "ValueError", "UnicodeError", "LookupError", "RuntimeError"]

section

variable {F : Type} {host : Host F} {path : Path} {fault : Fault}

/-- A fault of a value escapes. -/
theorem isAnyOf_escapingClasses_valueError (message : String) :
    (Fault.withMessage "ValueError" message).isAnyOf escapingClasses = true := by
  rfl

/-- A fault of the run time escapes. -/
theorem isAnyOf_escapingClasses_runtimeError (message : String) :
    (Fault.withMessage "RuntimeError" message).isAnyOf escapingClasses = true := by
  rfl

/-- The fault of calls that go too deep escapes. -/
theorem isAnyOf_escapingClasses_shortageFault (message : String) :
    (shortageFault message).isAnyOf escapingClasses = true := by
  rfl

/-- The fault of a name that is too long escapes. -/
theorem isAnyOf_escapingClasses_nameTooLong (path : String) :
    (PathFault.nameTooLong.toFault path).isAnyOf escapingClasses = true := by
  rfl

/-- An unknown home directory is a fault of one of these classes. -/
theorem HomeObstacle.isAnyOf_escapingClasses {name : String} (h : HomeObstacle host name fault) :
    fault.isAnyOf escapingClasses = true := by
  cases h with
  | nullCharacter => exact isAnyOf_escapingClasses_valueError _
  | unknown => exact isAnyOf_escapingClasses_runtimeError _

/-- So is one at the front of a path. -/
theorem ExpandObstacle.isAnyOf_escapingClasses (h : ExpandObstacle host path fault) :
    fault.isAnyOf escapingClasses = true := by
  obtain ⟨-, -, -, -, hhome⟩ := h
  exact hhome.isAnyOf_escapingClasses

/-- So is what keeps a path from being resolved. -/
theorem ResolveObstacle.isAnyOf_escapingClasses (h : ResolveObstacle host path fault) :
    fault.isAnyOf escapingClasses = true := by
  cases h with
  | shortage => exact isAnyOf_escapingClasses_shortageFault _
  | nullCharacter => exact isAnyOf_escapingClasses_valueError _
  | circle => exact isAnyOf_escapingClasses_runtimeError _

/-- So is what keeps a path from being looked at. -/
theorem ProbeObstacle.isAnyOf_escapingClasses (h : ProbeObstacle host path fault) :
    fault.isAnyOf escapingClasses = true := by
  cases h
  exact isAnyOf_escapingClasses_nameTooLong _

/-- So is what keeps a pattern from being expanded, obstacle by obstacle. -/
theorem PatternObstacle.isAnyOf_escapingClasses {root : Path} {exclusions : List String}
    {pattern : String} (h : PatternObstacle host root exclusions pattern fault) :
    fault.isAnyOf escapingClasses = true := by
  cases h with
  | shortage => exact isAnyOf_escapingClasses_shortageFault _
  | absolute => rfl
  | misplacedDeep => exact isAnyOf_escapingClasses_valueError _
  | matching => exact isAnyOf_escapingClasses_nameTooLong _
  | found _ _ _ _ hprobe => exact hprobe.isAnyOf_escapingClasses
  | candidate _ _ _ hresolve => exact hresolve.isAnyOf_escapingClasses

end

section

variable {host : Host SourceFile} {settings : Settings} {mapper : PositionMapper}
  {descriptor path : Path} {fault : Fault}

/-- So is what keeps a document from being read. -/
theorem DocumentObstacle.isAnyOf_escapingClasses (h : DocumentObstacle host path fault) :
    fault.isAnyOf escapingClasses = true := by
  cases h with
  | undecodable => rfl
  | oversizedNumber => exact isAnyOf_escapingClasses_valueError _
  | tooDeep => exact isAnyOf_escapingClasses_shortageFault _

/-- So is what keeps a source from being loaded: the codecs raise nothing else. -/
theorem SourceObstacle.isAnyOf_escapingClasses (h : SourceObstacle host path fault) :
    fault.isAnyOf escapingClasses = true := by
  cases h with
  | nullCharacter => exact isAnyOf_escapingClasses_valueError _
  | notText => rfl
  | undecodable _ htext hfault =>
    -- Of the classes that a file without a text may end in, only that of syntax is expected.
    have hclasses := SourceText.isAnyOf_toFault htext path.text
    simp only [Fault.isAnyOf, SourceText.faultClasses, expectedSourceFaults, escapingClasses,
      List.any_cons, List.any_nil, Bool.or_eq_true, Bool.or_eq_false_iff] at hclasses hfault ⊢
    have hunicode := hclasses.resolve_left (by simp [SourceText.Fault.toFault, hfault.2.2.1])
    tauto

/-- So is what keeps a descriptor from being read. -/
theorem ReadObstacle.isAnyOf_escapingClasses (h : ReadObstacle host path fault) :
    fault.isAnyOf escapingClasses = true := by
  cases h with
  | nullCharacter => exact isAnyOf_escapingClasses_valueError _
  | document hdocument => exact hdocument.isAnyOf_escapingClasses

/-- So is what keeps a member from being loaded. -/
theorem MemberObstacle.isAnyOf_escapingClasses {scope : LoadScope}
    (h : MemberObstacle host scope path fault) : fault.isAnyOf escapingClasses = true := by
  cases h with
  | probe hprobe => exact hprobe.isAnyOf_escapingClasses
  | document hdocument => exact hdocument.isAnyOf_escapingClasses
  | walking => exact isAnyOf_escapingClasses_shortageFault _
  | source _ _ _ hobstacle => exact hobstacle.isAnyOf_escapingClasses

/-- So is what keeps a workspace from being opened. -/
theorem OpeningObstacle.isAnyOf_escapingClasses
    (h : OpeningObstacle host settings mapper descriptor fault) :
    fault.isAnyOf escapingClasses = true := by
  cases h with
  | home hhome => exact hhome.isAnyOf_escapingClasses
  | path _ hpath => exact hpath.isAnyOf_escapingClasses
  | descriptor _ hread => exact hread.isAnyOf_escapingClasses
  | pattern _ _ _ _ hobstacle => exact hobstacle.isAnyOf_escapingClasses
  | member _ _ _ _ hobstacle => exact hobstacle.isAnyOf_escapingClasses

end

end WorkspaceLint
