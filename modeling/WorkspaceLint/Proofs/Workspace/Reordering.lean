import WorkspaceLint.Proofs.FileTree.Enumeration
import WorkspaceLint.Proofs.Workspace.Obstacles

/-!
# Opening a workspace on a reordered host

The order in which directories enumerate what they hold is taken out before anything is made of it:
what a pattern matches is sorted, and so are the source files of a project. So opening reports the
same diagnostics and comes to the same, `openWorkspace_reorders`, with one exception. A pattern that
meets several names too long for the system fails at the first of them, and which one that is
depends on the order.

* `candidates_reorders`      — what a pattern declares.
* `declaredMembers_reorders` — the members of a workspace.
* `loadProjects_reorders`    — the projects that are loaded.
-/

namespace WorkspaceLint

/-- The fault of a path with a name that is too long, whichever path it is. -/
def IsNameTooLong (fault : Fault) : Prop := ∃ path, fault = PathFault.nameTooLong.toFault path

section

variable {F : Type} {host other : Host F} (hhost : host.WellFormed) (h : host.Reorders other)

/-- Selecting candidates fails because a name is too long. -/
theorem isNameTooLong_of_selectCandidates_error {paths : List Path} {fault : Fault}
    (h : selectCandidates host paths = .error fault) : IsNameTooLong fault := by
  rw [selectCandidates_eq_mapM, map_eq_error_iff] at h
  obtain ⟨path, -, hpath⟩ := exists_of_mapM_error h
  rw [map_eq_error_iff, isCandidate, map_eq_error_iff, isDirectory?_eq_error_iff] at hpath
  obtain ⟨-, -⟩ := hpath
  exact ⟨path.text, rfl⟩

include hhost h

/-- What is selected among the same paths is the same, in some order, or a name is too long. -/
theorem selectCandidates_agrees {paths others : List Path} (hpaths : paths.Perm others) :
    Agree List.Perm (selectCandidates host paths) (selectCandidates other others) := by
  have hcandidate : isCandidate other = isCandidate host := by
    funext path
    rw [isCandidate, isCandidate, Host.isDirectory?_reorders hhost.tree h]
  rw [selectCandidates_eq_mapM, selectCandidates_eq_mapM, hcandidate]
  exact Agree.map (fun _ _ hperm => hperm.filterMap id) (agree_mapM_of_perm hpaths)

/-- What a pattern declares is the same, or a name is too long. -/
theorem candidates_reorders {root : Path} (hroot : root.IsProper) (pattern : String) :
    SameUpTo IsNameTooLong (candidates host root pattern) (candidates other root pattern) := by
  unfold candidates
  rw [h.platform, h.working]
  split
  · exact .inl rfl
  split
  · exact .inl rfl
  split
  · exact .inl rfl
  next glob hglob =>
    -- The order decides which name that is too long is met first, and nothing else.
    have hagrees := FileTree.glob_agrees hhost.tree h.tree host.working root glob
    generalize hfound : host.tree.glob host.working root glob = found at hagrees
    generalize hother : other.tree.glob host.working root glob = last at hagrees
    cases hagrees with
    | error fault last =>
      obtain ⟨fault, path⟩ := fault
      obtain ⟨last, path'⟩ := last
      obtain rfl := glob_eq_error hfound
      obtain rfl := glob_eq_error hother
      exact .error ⟨path.text, rfl⟩ ⟨path'.text, rfl⟩
    | @ok paths others hpaths =>
      have hselected := (selectCandidates_agrees hhost h hpaths).attach
      refine SameUpTo.of_agree (hselected.map ?_) (fun fault hfault => ?_) (fun fault hfault => ?_)
      · rintro selected others ⟨hselect, -, hperm⟩
        refine Path.sorted_eq_of_perm (fun path hpath => ?_) hperm
        exact FileTree.glob_isProper hhost.tree hroot (Glob.ofText_isProper hglob) hfound path
          ((selectCandidates_sublist hselect).subset hpath)
      · exact isNameTooLong_of_selectCandidates_error (map_eq_error_iff.mp hfault)
      · exact isNameTooLong_of_selectCandidates_error (map_eq_error_iff.mp hfault)

/-- Candidates have the same resolved descriptors. -/
theorem resolveCandidates_reorders : resolveCandidates other = resolveCandidates host := by
  funext candidates
  rw [resolveCandidates_eq_mapM, resolveCandidates_eq_mapM, Host.resolve_reorders hhost.tree h]

/-- A pattern is expanded to the same, or a name is too long. -/
theorem expandPattern_reorders {root : Path} (hroot : root.IsProper) (exclusions : List String)
    (pattern : String) :
    (expandPattern host root exclusions pattern).SameUpTo IsNameTooLong
      (expandPattern other root exclusions pattern) := by
  unfold expandPattern
  rcases candidates_reorders hhost h hroot pattern with heq | ⟨⟨_, hfault, hlong⟩, _, hlast, hlong'⟩
  · rw [heq, resolveCandidates_reorders hhost h]
    exact .of_eq rfl
  · rw [hfault, hlast]
    exact ⟨rfl, .error hlong hlong'⟩

/-- The members are the same, or a name is too long. -/
theorem memberFiles_reorders {descriptor : Path} (hdescriptor : descriptor.IsProper)
    (patterns exclusions : List String) (rootFirst : Bool) :
    (memberFiles host descriptor patterns exclusions rootFirst).SameUpTo IsNameTooLong
      (memberFiles other descriptor patterns exclusions rootFirst) :=
  (Reported.SameUpTo.forEach fun pattern _ =>
    expandPattern_reorders hhost h hdescriptor.parent exclusions pattern).map _

end

section

variable {host other : Host SourceFile} (hhost : host.WellFormed) (h : host.Reorders other)

include hhost h

/-! ## Members -/

/-- A document declares the same members, or a name is too long. -/
theorem declaredMembers_reorders (settings : Settings) {descriptor : Path}
    (hdescriptor : descriptor.IsProper) (document : List (String × Value)) :
    (declaredMembers host settings descriptor document).SameUpTo
      (fun fault => ∃ path, fault = .escaped (PathFault.nameTooLong.toFault path))
      (declaredMembers other settings descriptor document) := by
  unfold declaredMembers
  split
  · exact .of_eq rfl
  · exact .of_eq rfl
  · exact .of_eq rfl
  · refine Reported.SameUpTo.mapFault ?_ (memberFiles_reorders hhost h hdescriptor _ _ _)
    rintro _ ⟨path, rfl⟩
    exact ⟨path, rfl⟩

/-! ## Projects -/

/-- The same units are loaded. -/
theorem loadUnits_reorders : loadUnits other = loadUnits host := by
  have hload : loadUnit other = loadUnit host := by
    funext mapper path
    rw [loadUnit, loadUnit, Host.readFile_reorders hhost.tree h, h.platform]
  funext mapper paths
  rw [loadUnits, loadUnits, hload]

/-- The same members can be loaded. -/
theorem checkMember_reorders : checkMember other = checkMember host := by
  funext path
  rw [checkMember, checkMember, Host.isFile?_reorders hhost.tree h,
    Host.readFile_reorders hhost.tree h, h.platform]

/-- A project has the same source files, in the same order. -/
theorem projectSources_reorders (scope : LoadScope) {member : Path} (hmember : member.IsResolved) :
    projectSources other scope member = projectSources host scope member := by
  rw [projectSources, projectSources, h.working]
  exact FileTree.sourceFiles_reorders hhost.tree h.tree _ hmember.parent.isProper _ _ _

/-- A member is loaded as the same project. -/
theorem loadProject_reorders (scope : LoadScope) {member : Path} (hmember : member.IsResolved) :
    loadProject other scope member = loadProject host scope member := by
  rw [loadProject, loadProject, checkMember_reorders hhost h, loadUnits_reorders hhost h,
    projectSources_reorders hhost h scope hmember, h.platform]

/-- The members are loaded as the same projects. -/
theorem loadProjects_reorders (scope : LoadScope) {members : List Path}
    (hmembers : ∀ member ∈ members, member.IsResolved) :
    loadProjects other scope members = loadProjects host scope members := by
  refine congrArg (Reported.map (List.filterMap id)) ?_
  induction members with
  | nil => rfl
  | cons member members ih =>
    obtain ⟨hmember, hothers⟩ := List.forall_mem_cons.mp hmembers
    rw [Reported.forEach, Reported.forEach, loadProject_reorders hhost h scope hmember, ih hothers]

/-! ## Workspaces -/

/-- Descriptors hold the same documents. -/
theorem readDescriptor_reorders : readDescriptor other = readDescriptor host := by
  funext path
  rw [readDescriptor, readDescriptor, Host.readFile_reorders hhost.tree h, h.platform]

/-- The path of a descriptor is the same. -/
theorem descriptorPath_reorders : descriptorPath other = descriptorPath host := by
  funext descriptor
  rw [descriptorPath, descriptorPath, Host.expandHome_reorders h,
    Host.resolve_reorders hhost.tree h]

/-- A document is opened as the same workspace, or a name is too long. -/
theorem openDocument_reorders (settings : Settings) (mapper : PositionMapper) {descriptor : Path}
    (hdescriptor : descriptor.IsResolved) (document : List (String × Value)) :
    (openDocument host settings mapper descriptor document).SameUpTo
      (fun fault => ∃ path, fault = .escaped (PathFault.nameTooLong.toFault path))
      (openDocument other settings mapper descriptor document) := by
  refine (declaredMembers_reorders hhost h settings hdescriptor.isProper document).andThen ?_
  intro members hmembers
  dsimp only
  rw [loadProjects_reorders hhost h _ (declaredMembers_isResolved hhost hdescriptor hmembers)]
  exact .of_eq rfl

/-- Opening a workspace reports the same diagnostics and comes to the same, whatever the order of
enumeration; only which of several names is found to be too long depends on it. -/
theorem openWorkspace_reorders (settings : Settings) (mapper : PositionMapper) {descriptor : Path}
    (hdescriptor : descriptor.IsProper) :
    (openWorkspace host settings mapper descriptor).SameUpTo
      (fun fault => ∃ path, fault = .escaped (PathFault.nameTooLong.toFault path))
      (openWorkspace other settings mapper descriptor) := by
  unfold openWorkspace
  rw [descriptorPath_reorders hhost h, readDescriptor_reorders hhost h]
  split
  · exact .of_eq rfl
  next path hpath =>
    split
    · exact .of_eq rfl
    · exact openDocument_reorders hhost h settings mapper
        (descriptorPath_isResolved hhost hdescriptor hpath) _

end

end WorkspaceLint
