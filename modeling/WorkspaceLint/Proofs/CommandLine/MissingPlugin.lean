import WorkspaceLint.Proofs.CommandLine.Stages
import WorkspaceLint.Proofs.Plugin.Absence

/-!
# The command without its plugin

A plugin that is not there ends a run before anything of the workspace is read: the command tells
that no module was found, names the reference as it was given, and fails. It does so unless one of
the obstacles of `ReferenceObstacle` is in the way; then the run tells nothing and is ended by the
fault of the obstacle.
-/

namespace WorkspaceLint.CommandLine

open Plugin

/-- A run whose plugin cannot be loaded ends with the fault of loading it. -/
theorem runCheckers_of_loadPlugin_error {environment : Environment} {reference : String}
    {fault : PluginFault}
    (h : (loadPlugin environment.host reference Session.initial).1 = .error fault)
    (descriptor : Path) (options : Options) :
    runCheckers environment descriptor reference options
      = Transcript.ofStage (.fail (CommandFault.ofPlugin fault)) := by
  refine runCheckers_of_loadCheckers_error ?_
  rw [loadCheckers, bind_apply]
  generalize loadPlugin environment.host reference Session.initial = loaded at h
  obtain ⟨result, after⟩ := loaded
  obtain rfl : result = .error fault := h
  rfl

/-- Where nothing is, a name of two parts is that of nothing, unless it or its package is that of a
given module. -/
theorem absent_of_two_parts {reference tail package : String}
    (hhome : bareEnvironment.host.expandHome (Path.ofText reference) = .ok (Path.ofText reference))
    (hfile : bareEnvironment.host.isFile? (Path.ofText reference) = .ok false)
    (hdirectory : bareEnvironment.host.isDirectory? (Path.ofText reference) = .ok false)
    (hparts : reversedParts reference = [tail, package])
    (hreference : GivenModule.find? reference = none) (hpackage : GivenModule.find? package = none)
    (hplace : placeAmong bareEnvironment.host package
      [⟨.root, bareEnvironment.host.working⟩] = none) :
    Absent bareEnvironment.host Session.initial reference := by
  refine ⟨fun path hpath => ?_, fun _ => ?_⟩
  · obtain rfl : Path.ofText reference = path := Except.ok.inj (hhome.symm.trans hpath)
    rw [hfile, hdirectory]
    exact ⟨by simp, by simp⟩
  · have hname : dotted [tail, package] = reference := hparts ▸ dotted_reversedParts reference
    rw [hparts]
    exact .noPackage (handle?_initial (hname ▸ hreference))
      (.top (handle?_initial hpackage) ((topPlace_of_not_given hpackage).trans hplace))

/-- A dotted name is no path to a plugin. -/
theorem looksLikePath_dotted : looksLikePath bareEnvironment.host "rules.naming" = .ok false := rfl

/-- No module with the dotted name can be found. -/
theorem absent_dotted : Absent bareEnvironment.host Session.initial "rules.naming" := by
  have hparts : reversedParts "rules.naming" = ["naming", "rules"] := by decide +kernel
  exact absent_of_two_parts rfl rfl rfl hparts (by decide +kernel) (by decide +kernel) rfl

/-- Nothing is in the way of noticing that: the name is none of a path, and does not start with a
dot. -/
theorem dotted_clear (fault : Fault) :
    ¬ ReferenceObstacle bareEnvironment.host "rules.naming" fault := by
  have hname {answer : Except Fault Bool}
      (h : looksLikePath bareEnvironment.host "rules.naming" = answer) : answer = .ok false :=
    h.symm.trans looksLikePath_dotted
  intro hobstacle
  cases hobstacle with
  | kind hkind => cases hname hkind
  | home hkind => cases hname hkind
  | place hkind => cases hname hkind
  | packageFile hkind => cases hname hkind
  | relative _ hdot => exact absurd hdot (by decide)

/-- A name of one letter again and again. -/
def repeatedName (count : Nat) : String := String.ofList (List.replicate count 'n')

/-- The name that is one letter repeated has as many bytes as letters. -/
theorem utf8ByteSize_repeatedName (count : Nat) : (repeatedName count).utf8ByteSize = count := by
  induction count with
  | zero => rfl
  | succ count ih =>
    have hname : repeatedName (count + 1) = String.singleton 'n' ++ repeatedName count := by
      rw [← String.toList_inj]
      simp [repeatedName, List.replicate_succ]
    rw [hname, String.utf8ByteSize_append, ih, String.utf8ByteSize_singleton, Nat.add_comm]
    rfl

/-- A name of more than 255 letters is that of nothing, but this is not noticed. -/
theorem absent_repeatedName {count : Nat} (h : 255 < count) :
    Absent bareEnvironment.host Session.initial (repeatedName count)
    ∧ ReferenceObstacle bareEnvironment.host (repeatedName count)
        (PathFault.nameTooLong.toFault (repeatedName count)) := by
  have hcharacters : ∀ c ∈ (repeatedName count).toList, c = 'n' := by
    rw [repeatedName, String.toList_ofList]
    exact fun c hc => List.eq_of_mem_replicate hc
  have hlong : FileTree.isNameTooLong (repeatedName count) = true := by
    simpa [FileTree.isNameTooLong, utf8ByteSize_repeatedName] using h
  -- Names with a meaning of their own are short, so this is none of them.
  have hshort {text : String} (htext : FileTree.isNameTooLong text = false) :
      repeatedName count ≠ text := by
    rintro rfl
    rw [hlong] at htext
    cases htext
  have hname : Path.IsName (repeatedName count) :=
    ⟨hshort (by decide), hshort (by decide), fun hc => absurd (hcharacters _ hc) (by decide)⟩
  have hsuffix : endsWith (repeatedName count) moduleSuffix = false := by
    rw [endsWith, Bool.eq_false_iff, ne_eq, List.isSuffixOf_iff_suffix]
    exact fun hmem => absurd (hcharacters '.' (hmem.subset (by decide))) (by decide)
  exact absent_of_probe hname
    (fun htilde => absurd (hcharacters '~' (List.mem_of_head? htilde)) (by decide)) hsuffix
    (probe_of_nameTooLong hname (hshort (by decide))
      (fun hc => absurd (hcharacters _ hc) (by decide)) hlong rfl)

end WorkspaceLint.CommandLine
