import WorkspaceLint.Proofs.Plugin.Registration
import WorkspaceLint.Proofs.Workspace.Obstacles

/-!
# Plugins that are not there

Whatever a reference looks like, the loader is to notice that nothing is there and to tell the user
so. A path leads to nothing if there is neither a file nor a package; a dotted name is that of
nothing if importing it fails because it, or a package it would lie in, is not found,
`NotImportable`. Three things keep the loader from noticing, `ReferenceObstacle`: their faults are
none that it knows, so they pass through as they are.

* `importParts_of_notImportable` — which module is not found by an import of nothing.
* `namesArtifact_of_suffix`      — why that module counts as the plugin itself.
* `loadPlugin_of_absent`         — a reference to nothing without an obstacle.
* `loadPlugin_of_obstacle`       — a reference with an obstacle.
-/

namespace WorkspaceLint.Plugin

/-! ## Names that count as the plugin -/

/-- A module lies in the packages that the beginnings of its name name. -/
theorem isWithin_of_suffix {parts package : List String} (h : package <:+ parts)
    (hne : package ≠ []) : LoadFailure.isWithin (dotted parts) (dotted package) = true := by
  obtain ⟨below, rfl⟩ := h
  cases below with
  | nil => simp [LoadFailure.isWithin]
  | cons name below =>
    have hname : dotted (name :: below ++ package)
        = dotted package ++ "." ++ dotted (name :: below) := by
      rw [dotted, List.reverse_append, String.intercalate_append_of_ne_nil (by simpa using hne)
        (by simp)]
      rfl
    rw [LoadFailure.isWithin, hname, Bool.or_eq_true, List.isPrefixOf_iff_prefix]
    exact .inr ⟨(dotted (name :: below)).toList, by simp [String.toList_append]⟩

/-- A name that neither is empty nor starts with a dot names the packages it lies in. -/
theorem namesArtifact_of_suffix {reference : String} {package : List String}
    (h : package <:+ reversedParts reference) (hne : package ≠ []) (hempty : reference ≠ "")
    (hdot : reference.toList.head? ≠ some '.') :
    LoadFailure.namesArtifact (some (dotted package)) reference = true := by
  have hwithin := isWithin_of_suffix h hne
  rw [dotted_reversedParts] at hwithin
  have hpackage : dotted package ≠ "" := by
    intro hnone
    rw [hnone] at hwithin
    simp [LoadFailure.isWithin, hempty, List.isPrefixOf_iff_prefix] at hwithin
    obtain ⟨rest, hrest⟩ := hwithin
    exact hdot (by rw [← hrest]; rfl)
  simp [LoadFailure.namesArtifact, hpackage, hwithin]

/-! ## Importing a module that is not there -/

/-- No module of a dotted name, with its parts given from the last to the first, can be imported: it
is not loaded, and there is none at the top, or the package that it would lie in cannot be imported
either, or that package is executed without a fault and does not have it. -/
inductive NotImportable (host : Host SourceFile) (importer : Importer) (session : Session) :
    List String → Prop
  | top {name : String} (hloaded : session.handle? name = none)
      (hplace : topPlace host name = none) : NotImportable host importer session [name]
  | noPackage {tail : String} {parents : List String}
      (hloaded : session.handle? (dotted (tail :: parents)) = none)
      (hparents : NotImportable host importer session parents) :
      NotImportable host importer session (tail :: parents)
  | notInPackage {tail : String} {parents : List String} {handle : Nat} {after : Session}
      (hloaded : session.handle? (dotted (tail :: parents)) = none)
      (hparents : importParts host importer parents session = (.ok handle, after))
      (hstill : after.handle? (dotted (tail :: parents)) = none)
      (hplace : ∀ directories, (after.module handle).search = some directories →
        placeWithin host directories (dotted (tail :: parents)) tail = none) :
      NotImportable host importer session (tail :: parents)

section

variable {host : Host SourceFile} {importer : Importer} {session : Session}

/-- A name that is not among the names has no number among them. -/
theorem lookup_zipIdx_eq_none {names : List String} {name : String} (h : name ∉ names)
    (start : Nat) : (names.zipIdx start).lookup name = none := by
  induction names generalizing start with
  | nil => rfl
  | cons other names ih =>
    obtain ⟨hne, hnames⟩ := not_or.mp (List.mem_cons.not.mp h)
    rw [List.zipIdx_cons, List.lookup_cons, beq_false_of_ne hne, ih hnames]

/-- No module is loaded when a session starts but given ones. -/
theorem handle?_initial {name : String} (h : GivenModule.find? name = none) :
    Session.initial.handle? name = none := by
  rw [GivenModule.find?, List.find?_eq_none] at h
  simp only [Session.handle?, Session.initial]
  refine lookup_zipIdx_eq_none (fun hname => ?_) 0
  obtain ⟨module, hmodule, rfl⟩ := List.mem_map.mp hname
  exact h module (List.mem_filter.mp hmodule).1 (beq_self_eq_true module.name)

/-- The files of the tree are all there is to look at for a name that is not that of a given module.
-/
theorem topPlace_of_not_given {name : String} (h : GivenModule.find? name = none) :
    topPlace host name = placeAmong host name [⟨.root, host.working⟩] := by
  have hbuiltIn : GivenModule.findBuiltIn? name = none := by
    rw [GivenModule.findBuiltIn?, h, ite_self]
  rw [topPlace, hbuiltIn, h]
  cases placeAmong host name [⟨.root, host.working⟩] <;> rfl

/-- Something that cannot be imported has a name. -/
theorem NotImportable.ne_nil {parts : List String} (h : NotImportable host importer session parts) :
    parts ≠ [] := by
  cases h <;> exact List.cons_ne_nil _ _

/-- What is not found is the module that cannot be imported, or one of the packages it would lie in.
-/
theorem importParts_of_notImportable {parts : List String}
    (h : NotImportable host importer session parts) :
    ∃ package reason after, package <:+ parts ∧ package ≠ []
      ∧ importParts host importer parts session
        = (.error (moduleNotFound (dotted package) reason), after) := by
  induction h with
  | top hloaded hplace =>
    refine ⟨_, "", session, List.suffix_refl _, List.cons_ne_nil _ _, ?_⟩
    rw [importParts_singleton hloaded, loadModule_of_nowhere (placeOf_top hplace), dotted_singleton]
  | noPackage hloaded hparents ih =>
    obtain ⟨package, reason, after, hsuffix, hne, hparents'⟩ := ih
    refine ⟨package, reason, after, hsuffix.trans (List.suffix_cons _ _), hne, ?_⟩
    rw [importParts_cons hparents.ne_nil hloaded, hparents']
  | @notInPackage tail parents handle after hloaded hparents hstill hplace =>
    obtain ⟨reason, hreason⟩ := @placeOf_within host after handle _ tail hplace
    refine ⟨_, reason, after, List.suffix_refl _, List.cons_ne_nil _ _, ?_⟩
    have hne : parents ≠ [] := by
      rintro rfl
      cases hparents
    rw [importParts_cons hne hloaded, hparents]
    dsimp only
    rw [hstill]
    exact loadModule_of_nowhere hreason

end

/-! ## References to nothing -/

/-- Nothing that could be loaded is where a reference leads: there is neither a file nor a directory
with a package file, and if the reference is a dotted name, no module of that name can be imported.
-/
structure Absent (host : Host SourceFile) (session : Session) (reference : String) : Prop where
  path : ∀ path, host.expandHome (Path.ofText reference) = .ok path →
    host.isFile? path ≠ .ok true
    ∧ ¬ (host.isDirectory? path = .ok true ∧ host.isFile? (path.child packageFile) = .ok true)
  name : looksLikePath host reference = .ok false →
    NotImportable host (nestedImporter host) session (reversedParts reference)

/-- What keeps the loader from noticing that nothing is there: a name that is too long for the
system, met when the kind of the reference is looked for or behind the path; a home directory that
is not known; or a name that starts with a dot. -/
inductive ReferenceObstacle (host : Host SourceFile) (reference : String) : Fault → Prop
  | kind {fault : Fault} (hkind : looksLikePath host reference = .error fault) :
      ReferenceObstacle host reference fault
  | home {fault : Fault} (hkind : looksLikePath host reference = .ok true)
      (hhome : host.expandHome (Path.ofText reference) = .error fault) :
      ReferenceObstacle host reference fault
  | place {path : Path} {fault : Fault} (hkind : looksLikePath host reference = .ok true)
      (hhome : host.expandHome (Path.ofText reference) = .ok path)
      (hprobe : ProbeObstacle host path fault) : ReferenceObstacle host reference fault
  | packageFile {path : Path} {fault : Fault} (hkind : looksLikePath host reference = .ok true)
      (hhome : host.expandHome (Path.ofText reference) = .ok path)
      (hdirectory : host.isDirectory? path = .ok true)
      (hprobe : ProbeObstacle host (path.child packageFile) fault) :
      ReferenceObstacle host reference fault
  | relative (hkind : looksLikePath host reference = .ok false)
      (hdot : reference.toList.head? = some '.') :
      ReferenceObstacle host reference (relativeReference reference)

section

variable {host : Host SourceFile} {session : Session} {reference : String} {fault : Fault}

/-! ### Faults -/

/-- The fault of a file that is not there is told as a missing plugin. -/
theorem loadFault_nothing (reason : String) :
    loadFault reference (.ofSystem 2 reason reference) = .failure ⟨.missing, reference⟩ := rfl

/-- A module that is not found is told as a missing plugin, if it names the artifact. -/
theorem loadFault_moduleNotFound {missing reason : String}
    (h : LoadFailure.namesArtifact (some missing) reference = true) :
    loadFault reference (moduleNotFound missing reason) = .failure ⟨.missing, reference⟩ := by
  have hname : (moduleNotFound missing reason).importName = some missing := rfl
  have hkind : LoadFailure.kindOf (moduleNotFound missing reason) reference = some .missing := by
    rw [LoadFailure.kindOf, hname, h]
    rfl
  rw [loadFault, LoadFailure.classify, hkind]
  rfl

/-- The fault of a path that cannot be looked at is not told, and escapes. -/
theorem loadFault_probe {path : Path} (h : ProbeObstacle host path fault) :
    loadFault reference fault = .escaped fault := by
  cases h
  rfl

/-- The fault of an unknown home directory is none that the loader knows. -/
theorem loadFault_expandHome {path : Path} (h : host.expandHome path = .error fault) :
    loadFault reference fault = .escaped fault := by
  obtain ⟨-, -, -, -, hhome⟩ := expandHome_eq_error_iff.mp h
  cases hhome <;> rfl

/-! ### Loaders -/

/-- Work that fails is told by what the fault amounts to. -/
theorem told_of_error {α : Type} {work : Loading α} {after : Session}
    (h : work session = (.error fault, after)) :
    (told reference work session).1 = .error (loadFault reference fault) := by
  rw [told, h]

/-- A reference that looks like a path is loaded from a file. -/
theorem loadPlugin_of_path (h : looksLikePath host reference = .ok true) :
    loadPlugin host reference session = told reference (loadFile host reference) session := by
  rw [loadPlugin, loaderFor, h]
  rfl

/-- Any other reference is loaded by its name. -/
theorem loadPlugin_of_name (h : looksLikePath host reference = .ok false) :
    loadPlugin host reference session = told reference (loadByName host reference) session := by
  rw [loadPlugin, loaderFor, h]
  rfl

/-- A path at which no plugin is located fails with what that fault amounts to. -/
theorem loadPlugin_of_path_error (h : looksLikePath host reference = .ok true)
    (hlocate : locatePlugin host reference = .error fault) :
    (loadPlugin host reference session).1 = .error (loadFault reference fault) := by
  rw [loadPlugin_of_path h]
  exact told_of_error (loadFile_of_not_located hlocate session)

/-- Where no source is found, no plugin is located. -/
theorem locatePlugin_of_sourceAt_error {path : Path}
    (hhome : host.expandHome (Path.ofText reference) = .ok path)
    (hsource : sourceAt host reference path = .error fault) :
    locatePlugin host reference = .error fault := by
  rw [locatePlugin, hhome]
  change (sourceAt host reference path >>= _) = _
  rw [hsource]
  rfl

/-- A reference with an obstacle ends in the fault of the obstacle. -/
theorem loadPlugin_of_obstacle (h : ReferenceObstacle host reference fault) :
    (loadPlugin host reference session).1 = .error (.escaped fault) := by
  cases h with
  | kind hkind =>
    rw [loadPlugin, loaderFor, hkind]
    rfl
  | home hkind hhome =>
    have hlocate : locatePlugin host reference = .error fault := by
      rw [locatePlugin, hhome]
      rfl
    rw [loadPlugin_of_path_error hkind hlocate, loadFault_expandHome hhome]
  -- The path itself is looked at before the file of a package.
  | @place path _ hkind hhome hprobe =>
    have hsource : sourceAt host reference path = .error fault := by
      rw [sourceAt, isDirectory?_eq_error_iff.mpr hprobe]
      rfl
    rw [loadPlugin_of_path_error hkind (locatePlugin_of_sourceAt_error hhome hsource),
      loadFault_probe hprobe]
  | @packageFile path _ hkind hhome hdirectory hprobe =>
    have hsource : sourceAt host reference path = .error fault := by
      rw [sourceAt, hdirectory]
      change (host.isFile? (path.child Plugin.packageFile) >>= _) = _
      rw [isFile?_eq_error_iff.mpr hprobe]
      rfl
    rw [loadPlugin_of_path_error hkind (locatePlugin_of_sourceAt_error hhome hsource),
      loadFault_probe hprobe]
  | relative hkind hdot =>
    rw [loadPlugin_of_name hkind, loadByName, if_pos hdot]
    rfl

/-- A name is read as the relative path with that one part, and is its text. -/
theorem ofText_name {name : String} (h : Path.IsName name) :
    Path.ofText name = ⟨.relative, [name]⟩ ∧ (Path.mk .relative [name]).text = name := by
  have htext : (Path.mk .relative [name]).text = name := by
    simp [Path.text, Anchor.text, Path.joinNames]
  have hread : Path.ofText (Path.mk .relative [name]).text = ⟨.relative, [name]⟩ :=
    Path.ofText_text (List.forall_mem_singleton.mpr h)
  rw [htext] at hread
  exact ⟨hread, htext⟩

/-- In a directory, nothing is found under a name that is longer than the system allows. -/
theorem probe_of_nameTooLong {name : String} (hname : Path.IsName name) (hdots : name ≠ "..")
    (hnull : Char.ofNat 0 ∉ name.toList) (hlong : FileTree.isNameTooLong name = true)
    (hworking : host.tree.isRealDirectory host.working = true) :
    ProbeObstacle host (Path.ofText name) (PathFault.nameTooLong.toFault name) := by
  obtain ⟨hread, htext⟩ := ofText_name hname
  have hlocate : host.tree.locate host.working ⟨.relative, [name]⟩ = .error .nameTooLong := by
    unfold FileTree.locate
    split
    · rfl
    · change host.tree.followWithin FileTree.mostLinks host.working [name] = _
      rw [FileTree.mostLinks, FileTree.followWithin, FileTree.follow, hworking, if_neg (by simp),
        if_neg hname.2.1, if_neg hdots, if_pos hlong]
  have hhasNull : FileTree.hasNull ⟨.relative, [name]⟩ = false := by
    simpa [FileTree.hasNull] using hnull
  have hlookup : host.tree.lookup host.working ⟨.relative, [name]⟩ = .error .nameTooLong := by
    rw [FileTree.lookup, hlocate]
  rw [hread]
  exact htext ▸ .nameTooLong hhasNull hlookup

/-- A path is left as it is unless a tilde stands at its front. -/
theorem expandHome_of_head? {name : String} {names : List String}
    (h : name.toList.head? ≠ some '~') :
    host.expandHome ⟨.relative, name :: names⟩ = .ok ⟨.relative, name :: names⟩ := by
  unfold Host.expandHome
  dsimp only
  split
  next heq => exact absurd (congrArg List.head? heq) h
  next heq => exact absurd (congrArg List.head? heq) h
  · rfl

/-- A name that is too long is that of nothing, and it is an obstacle. -/
theorem absent_of_probe {name : String} (hname : Path.IsName name)
    (htilde : name.toList.head? ≠ some '~') (hsuffix : endsWith name moduleSuffix = false)
    (hprobe : ProbeObstacle host (Path.ofText name) fault) :
    Absent host session name ∧ ReferenceObstacle host name fault := by
  have hslash : name.toList.contains '/' = false := by simpa using hname.2.2
  have hkind : looksLikePath host name = .error fault := by
    rw [looksLikePath, hslash, hsuffix]
    exact probe_eq_error_iff.mpr hprobe
  refine ⟨⟨fun path hpath => ?_, fun hdotted => ?_⟩, .kind hkind⟩
  · obtain rfl : Path.ofText name = path := by
      rw [(ofText_name hname).1] at hpath ⊢
      exact Except.ok.inj ((expandHome_of_head? htilde).symm.trans hpath)
    rw [isFile?_eq_error_iff.mpr hprobe, isDirectory?_eq_error_iff.mpr hprobe]
    exact ⟨by simp, by simp⟩
  · rw [hkind] at hdotted
    cases hdotted

/-- Where nothing is and nothing is in the way, the search for a file finds that nothing is there.
-/
theorem sourceAt_of_absent {path : Path} (hfile : host.isFile? path ≠ .ok true)
    (hpackage : ¬ (host.isDirectory? path = .ok true
      ∧ host.isFile? (path.child packageFile) = .ok true))
    (hplace : ∀ fault, ¬ ProbeObstacle host path fault)
    (hpackageFile : host.isDirectory? path = .ok true →
      ∀ fault, ¬ ProbeObstacle host (path.child packageFile) fault) :
    ∃ reason, sourceAt host reference path = .error (.ofSystem 2 reason reference) := by
  cases hdirectory : host.isDirectory? path with
  | error fault => exact absurd (isDirectory?_eq_error_iff.mp hdirectory) (hplace fault)
  | ok isDirectory =>
    cases isDirectory with
    | true =>
      cases hinit : host.isFile? (path.child packageFile) with
      | error fault =>
        exact absurd (isFile?_eq_error_iff.mp hinit) (hpackageFile hdirectory fault)
      | ok isFile =>
        cases isFile with
        | true => exact absurd ⟨hdirectory, hinit⟩ hpackage
        | false =>
          refine ⟨"no " ++ packageFile ++ " in analyzer directory", ?_⟩
          rw [sourceAt, hdirectory]
          change (host.isFile? (path.child packageFile) >>= _) = _
          rw [hinit]
          rfl
    | false =>
      cases hfound : host.isFile? path with
      | error fault => exact absurd (isFile?_eq_error_iff.mp hfound) (hplace fault)
      | ok isFile =>
        cases isFile with
        | true => exact absurd hfound hfile
        | false =>
          refine ⟨"No such file or directory", ?_⟩
          rw [sourceAt, hdirectory]
          change (host.isFile? path >>= _) = _
          rw [hfound]
          rfl

/-- A reference to nothing without an obstacle is told to be missing. -/
theorem loadPlugin_of_absent (hworking : host.exists? (Path.ofText "") = .ok true)
    (habsent : Absent host session reference)
    (hclear : ∀ fault, ¬ ReferenceObstacle host reference fault) :
    (loadPlugin host reference session).1 = .error (.failure ⟨.missing, reference⟩) := by
  cases hkind : looksLikePath host reference with
  | error fault => exact absurd (.kind hkind) (hclear fault)
  | ok isPath =>
    cases isPath with
    | true =>
      cases hhome : host.expandHome (Path.ofText reference) with
      | error fault => exact absurd (.home hkind hhome) (hclear fault)
      | ok path =>
        obtain ⟨hfile, hpackage⟩ := habsent.path path hhome
        obtain ⟨reason, hsource⟩ := sourceAt_of_absent hfile hpackage
          (fun fault hprobe => hclear fault (.place hkind hhome hprobe))
          (fun hdirectory fault hprobe =>
            hclear fault (.packageFile hkind hhome hdirectory hprobe))
        rw [loadPlugin_of_path_error hkind (locatePlugin_of_sourceAt_error hhome hsource)]
        exact congrArg Except.error (loadFault_nothing reason)
    | false =>
      have hdot : reference.toList.head? ≠ some '.' := fun hdot => hclear _ (.relative hkind hdot)
      -- The empty reference is one to the working directory, and that is there.
      have hempty : reference ≠ "" := by
        rintro rfl
        have hexists : looksLikePath host "" = host.exists? (Path.ofText "") := rfl
        rw [hexists, hworking] at hkind
        cases hkind
      obtain ⟨package, reason, after, hsuffix, hne, himport⟩ :=
        importParts_of_notImportable (habsent.name hkind)
      rw [← importName_eq] at himport
      have hload : loadByName host reference session
          = (.error (moduleNotFound (dotted package) reason), after) := by
        rw [loadByName, if_neg hdot, himport]
      rw [loadPlugin_of_name hkind, told_of_error hload,
        loadFault_moduleNotFound (namesArtifact_of_suffix hsuffix hne hempty hdot)]

end

end WorkspaceLint.Plugin
