import WorkspaceLint.Proofs.FileTree.WellFormed
import WorkspaceLint.Proofs.Path.Order
import WorkspaceLint.Snapshot.Tree

/-!
# Hosts in a snapshot are well-formed

The host that a snapshot describes keeps what a file system promises, if the snapshot names each
entry once and without two dots. The directories that it adds on the way to the entries are added
once each and only where no entry stands.
-/

namespace WorkspaceLint.Snapshot

/-- The names on the way to a location are among those of the location. -/
theorem subset_of_mem_waysTo {location way : Location} (h : way ∈ waysTo location) :
    way ⊆ location := by
  obtain ⟨count, -, rfl⟩ := List.mem_map.mp h
  exact List.take_subset _ _

variable {base : Location} {tree : Json}

/-- The tree of a snapshot is well-formed if its paths differ and hold no double dots. -/
theorem treeOf_wellFormed (hbase : ∀ name ∈ base, IsEntryName name)
    (hdistinct : (tree.members.map fun member => (Path.ofText member.1).parts).Nodup)
    (hdots : ∀ member ∈ tree.members, ".." ∉ (Path.ofText member.1).parts) :
    (treeOf base tree).WellFormed := by
  let entries := tree.members.map fun member =>
    (base ++ (Path.ofText member.1).parts, entryOf member.2)
  let ways := (base :: entries.flatMap fun entry => waysTo entry.1).eraseDups
  let missing := ways.filter fun way => !entries.any fun entry => entry.1 == way
  have hlocations : (treeOf base tree).entries.map (·.1) = missing ++ entries.map (·.1) := by
    have hmissing : (missing.map fun way => (way, (Entry.directory : Entry SourceFile))).map (·.1)
        = missing := by
      rw [List.map_map]
      exact List.map_id _
    rw [← hmissing, ← List.map_append]
    rfl
  have hnamed : ∀ location ∈ entries.map (·.1), ∀ name ∈ location, IsEntryName name := by
    simp only [entries, List.map_map, List.mem_map]
    rintro location ⟨member, hmember, rfl⟩ name hname
    rcases List.mem_append.mp hname with hname | hname
    · exact hbase name hname
    · exact ⟨Path.ofText_isProper member.1 name hname, fun h => hdots member hmember (h ▸ hname)⟩
  constructor
  · rw [hlocations, List.nodup_append']
    refine ⟨(nodup_eraseDups _).filter _, ?_, ?_⟩
    · -- Locations below the base directory are told apart by what follows it.
      have hparts := hdistinct.map fun names others (h : base ++ names = base ++ others) =>
        List.append_cancel_left h
      simpa only [entries, List.map_map, Function.comp_def] using hparts
    · -- A directory is added only where there is no entry.
      intro location hmissing hentry
      obtain ⟨entry, hmem, rfl⟩ := List.mem_map.mp hentry
      have hnone := (List.mem_filter.mp hmissing).2
      simp only [Bool.not_eq_true', List.any_eq_false, beq_iff_eq] at hnone
      exact hnone entry hmem rfl
  · rw [hlocations]
    intro location hlocation
    rcases List.mem_append.mp hlocation with hmissing | hentry
    · rcases List.mem_cons.mp (List.mem_eraseDups.mp (List.mem_filter.mp hmissing).1) with rfl | hway
      · exact hbase
      · obtain ⟨entry, hmem, hway⟩ := List.mem_flatMap.mp hway
        exact fun name hname => hnamed _ (List.mem_map_of_mem hmem) name
          (subset_of_mem_waysTo hway hname)
    · exact hnamed location hentry

/-- A snapshot that names each entry once, and without two dots, describes a well-formed host. -/
theorem hostOf_wellFormed (hbase : ∀ name ∈ base, IsEntryName name)
    (hdistinct : (tree.members.map fun member => (Path.ofText member.1).parts).Nodup)
    (hdots : ∀ member ∈ tree.members, ".." ∉ (Path.ofText member.1).parts) :
    (hostOf base tree).WellFormed :=
  ⟨treeOf_wellFormed hbase hdistinct hdots, hbase, fun name hname => (hbase name hname).1⟩

end WorkspaceLint.Snapshot
