import WorkspaceLint.Proofs.Workspace.Obstacles

/-!
# Faults that escape from opening a workspace

A fault escapes from opening a workspace exactly if there is an obstacle, and it is the fault of an
obstacle, `openWorkspace_escapes_iff`. Which obstacle is met first does not matter for whether there
is one, so the patterns of a declaration and the members of a workspace are treated item by item.
-/

namespace WorkspaceLint

section

variable {host : Host SourceFile} {settings : Settings} {mapper : PositionMapper}
  {descriptor path : Path} {fault : Fault}

/-! ## Parts of the work -/

/-- Members that cannot be worked out for an undeclared reason have an obstacle in a pattern. -/
theorem exists_of_declaredMembers_escaped {document : List (String × Value)}
    (h : (declaredMembers host settings path document).outcome = .error (.escaped fault)) :
    ∃ patterns exclusions rootFirst, MemberDeclaration.of settings.projects path.name document
        = .ok (.patterns patterns exclusions rootFirst)
      ∧ ∃ pattern ∈ patterns, PatternObstacle host path.parent exclusions pattern fault := by
  unfold declaredMembers at h
  split at h
  · cases h
  · cases h
  · cases h
  next patterns exclusions rootFirst hdeclaration =>
    obtain ⟨origin, horigin, heq⟩ := Reported.mapFault_outcome_eq_error_iff.mp h
    cases heq
    obtain ⟨pattern, hpattern, hexpand⟩ :=
      Reported.exists_of_forEach_error (Reported.map_outcome_eq_error_iff.mp horigin)
    exact ⟨patterns, exclusions, rootFirst, hdeclaration, pattern, hpattern,
      obstacle_of_expandPattern_error hexpand⟩

/-- Members cannot be worked out if a pattern has an obstacle. -/
theorem declaredMembers_escapes {document : List (String × Value)} {patterns exclusions : List String}
    {rootFirst : Bool} {pattern : String}
    (hdeclaration : MemberDeclaration.of settings.projects path.name document
      = .ok (.patterns patterns exclusions rootFirst)) (hpattern : pattern ∈ patterns)
    (hobstacle : PatternObstacle host path.parent exclusions pattern fault) :
    ∃ fault, (declaredMembers host settings path document).outcome = .error (.escaped fault) := by
  obtain ⟨fault, hexpand⟩ := expandPattern_fails hobstacle
  obtain ⟨fault, hfault⟩ := Reported.forEach_fails_iff.mpr ⟨pattern, hpattern, fault, hexpand⟩
  refine ⟨fault, ?_⟩
  simp only [declaredMembers, hdeclaration]
  exact Reported.mapFault_outcome_eq_error_iff.mpr
    ⟨fault, Reported.map_outcome_eq_error_iff.mpr hfault, rfl⟩

/-- The fault of a descriptor's path is that of an obstacle. -/
theorem obstacle_of_descriptorPath_error {openFault : OpenFault}
    (h : descriptorPath host descriptor = .error openFault) :
    ∃ fault, openFault = .escaped fault ∧ OpeningObstacle host settings mapper descriptor fault := by
  unfold descriptorPath at h
  split at h
  next hexpand =>
    cases h
    exact ⟨_, rfl, .home (expandHome_eq_error_iff.mp hexpand)⟩
  next expanded hexpanded =>
    obtain ⟨fault, hresolve, rfl⟩ := mapError_eq_error_iff.mp h
    exact ⟨fault, rfl, .path hexpanded (resolve_eq_error_iff.mp hresolve)⟩

/-! ## Opening a workspace -/

/-- The fault that escapes from opening a workspace is that of an obstacle. -/
theorem obstacle_of_openWorkspace_escaped
    (h : (openWorkspace host settings mapper descriptor).outcome = .error (.escaped fault)) :
    OpeningObstacle host settings mapper descriptor fault := by
  unfold openWorkspace at h
  split at h
  next hpath =>
    obtain ⟨other, rfl, hobstacle⟩ := obstacle_of_descriptorPath_error hpath
    cases h
    exact hobstacle
  next path hpath =>
    split at h
    next hread =>
      cases h
      exact .descriptor hpath (readDescriptor_eq_escaped_iff.mp hread)
    next document hdocument =>
      -- With the document at hand, either the patterns fail or one of the members.
      rcases Reported.andThen_outcome_eq_error_iff.mp h with hmembers | ⟨members, hmembers, hopen⟩
      · obtain ⟨patterns, exclusions, rootFirst, hdeclaration, pattern, hpattern, hobstacle⟩ :=
          exists_of_declaredMembers_escaped hmembers
        exact .pattern hpath hdocument hdeclaration hpattern hobstacle
      · obtain ⟨origin, hprojects, heq⟩ := Reported.mapFault_outcome_eq_error_iff.mp
          (Reported.map_outcome_eq_error_iff.mp hopen)
        cases heq
        obtain ⟨member, hmember, hobstacle⟩ := exists_of_loadProjects_error hprojects
        exact .member hpath hdocument hmembers hmember hobstacle

/-- Where there is an obstacle, a fault escapes. -/
theorem openWorkspace_escapes (h : OpeningObstacle host settings mapper descriptor fault) :
    ∃ fault, (openWorkspace host settings mapper descriptor).outcome = .error (.escaped fault) := by
  have hfails (hpath : ∃ fault, descriptorPath host descriptor = .error (.escaped fault)) :
      ∃ fault, (openWorkspace host settings mapper descriptor).outcome
        = .error (.escaped fault) := by
    obtain ⟨fault, hpath⟩ := hpath
    exact ⟨fault, by simp only [openWorkspace, hpath]; rfl⟩
  cases h with
  | home hhome =>
    exact hfails ⟨fault, by simp only [descriptorPath, expandHome_eq_error_iff.mpr hhome]⟩
  | path hexpanded hpath =>
    refine hfails ⟨fault, ?_⟩
    simp only [descriptorPath, hexpanded, resolve_eq_error_iff.mpr hpath]
    rfl
  | descriptor hpath hread =>
    refine ⟨fault, ?_⟩
    simp only [openWorkspace, hpath, readDescriptor_eq_escaped_iff.mpr hread]
    rfl
  | pattern hpath hdocument hdeclaration hpattern hobstacle =>
    obtain ⟨fault, hmembers⟩ := declaredMembers_escapes hdeclaration hpattern hobstacle
    refine ⟨fault, ?_⟩
    simp only [openWorkspace, hpath, hdocument]
    exact Reported.andThen_outcome_eq_error_iff.mpr (.inl hmembers)
  | @member path member document members fault hpath hdocument hmembers hmember hobstacle =>
    -- Another member may fail before this one, so the fault need not be the same.
    obtain ⟨fault, hprojects⟩ := loadProjects_fails hmember hobstacle
    refine ⟨fault, ?_⟩
    rw [openWorkspace_outcome_of_members hpath hdocument hmembers, hprojects]
    rfl

end

/-- **When opening a workspace fails in another way than the declared one.** A fault escapes from
opening a workspace exactly if there is an obstacle, and it is the fault of an obstacle. The faults
that escape from reading a descriptor are those of its obstacles. All of them are faults of the
operating system, of values, of decoding, of lookups, or of the run time. -/
theorem openWorkspace_escapes_iff (host : Host SourceFile) (settings : Settings)
    (mapper : PositionMapper) (descriptor : Path) :
    ((∃ fault, (openWorkspace host settings mapper descriptor).outcome = .error (.escaped fault))
      ↔ ∃ fault, OpeningObstacle host settings mapper descriptor fault)
    ∧ (∀ fault, (openWorkspace host settings mapper descriptor).outcome = .error (.escaped fault) →
        OpeningObstacle host settings mapper descriptor fault ∧ fault.isAnyOf escapingClasses = true)
    ∧ ∀ path fault, readDescriptor host path = .error (.escaped fault)
        ↔ ReadObstacle host path fault := by
  refine ⟨⟨?_, ?_⟩, fun fault h => ?_, fun path fault => readDescriptor_eq_escaped_iff⟩
  · rintro ⟨fault, h⟩
    exact ⟨fault, obstacle_of_openWorkspace_escaped h⟩
  · rintro ⟨fault, h⟩
    exact openWorkspace_escapes h
  · have hobstacle := obstacle_of_openWorkspace_escaped h
    exact ⟨hobstacle, hobstacle.isAnyOf_escapingClasses⟩

/-! ## A descriptor that is no text -/

/-- A host with a descriptor the only byte of which starts no character. -/
def darkHost : Host SourceFile :=
  ⟨⟨[(["w"], .directory), (["w", "w.toml"], fileOf [0xFF])]⟩, ["w"], ⟨.root, ["w"]⟩, .standard⟩

/-- Opening a workspace whose descriptor cannot be decoded gives neither a workspace nor the
declared error, and reading the descriptor gives neither a document nor the declared error. -/
theorem undecodable_descriptor_escapes :
    (¬ ∃ workspace, (openWorkspace darkHost .standard .identity (Path.ofText "/w/w.toml")).outcome
        = .ok workspace)
    ∧ (¬ ∃ fault, (openWorkspace darkHost .standard .identity (Path.ofText "/w/w.toml")).outcome
        = .error (.declared fault))
    ∧ (¬ ∃ document, readDescriptor darkHost (Path.ofText "/w/w.toml") = .ok document)
    ∧ ¬ ∃ fault, readDescriptor darkHost (Path.ofText "/w/w.toml") = .error (.declared fault) := by
  have hpath : descriptorPath darkHost (Path.ofText "/w/w.toml") = .ok (Path.ofText "/w/w.toml") :=
    rfl
  have hfile : darkHost.readFile (Path.ofText "/w/w.toml") = .ok ⟨[0xFF], none, none⟩ := rfl
  have htext : Text.decodeUtf8 [0xFF] = .error ⟨"utf-8", 0xFF, 0, 1, "invalid start byte"⟩ := by
    rw [Text.decodeUtf8, Text.decodeUtf8From]
    rfl
  have hread := readDescriptor_eq_escaped_iff.mpr (.document (.undecodable hfile htext))
  simp [openWorkspace, hpath, hread, Reported.fail]

end WorkspaceLint
