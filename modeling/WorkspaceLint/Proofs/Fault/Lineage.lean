import Mathlib.Algebra.Order.BigOperators.Group.List
import Mathlib.Algebra.Order.Group.Nat
import WorkspaceLint.Fault.Basic
import WorkspaceLint.Proofs.Outcome

/-!
# The lines of faults

A fault belongs to the classes of its line. With each class the line holds the one that this class
refines, and of the classes that keep more than their arguments it holds one at most, `IsLine`. So
what is missing cannot at the same time be a file of the operating system and a module.

* `isLine_lineage` — the lines of the standard classes.
* `mem_commonLineage_iff` — the line of a new class holds what the lines that it refines hold.
* `IsRaisable`, `IsRaisable.isLine` — the faults that code can raise.
-/

namespace WorkspaceLint.Fault

/-- A line that a class can have. -/
structure IsLine (line : List String) : Prop where
  upward : ∀ entry ∈ parents, entry.1 ∈ line → entry.2 ∈ line
  oneHolder : ∀ name ∈ line, ∀ other ∈ line, name ∈ holders → other ∈ holders → name = other

instance (line : List String) : Decidable (IsLine line) :=
  decidable_of_iff
    ((∀ entry ∈ parents, entry.1 ∈ line → entry.2 ∈ line)
      ∧ ∀ name ∈ line, ∀ other ∈ line, name ∈ holders → other ∈ holders → name = other)
    ⟨fun h => ⟨h.1, h.2⟩, fun h => ⟨h.upward, h.oneHolder⟩⟩

/-! ## Standard classes -/

/-- Each class of the table has a line, which is checked class by class. -/
theorem isLine_of_mem_parents :
    ∀ entry ∈ parents, IsLine (lineageWithin parents.length entry.1) := by
  decide +kernel

/-- A class that is not in the table stands on its line alone. -/
theorem isLine_singleton {name : String} (h : parents.lookup name = none) : IsLine [name] := by
  refine ⟨fun entry hentry hname => ?_, fun first hfirst other hother _ _ => ?_⟩
  · have hne := List.lookup_eq_none_iff.mp h entry hentry
    rw [List.mem_singleton.mp hname, bne_self_eq_false] at hne
    cases hne
  · rw [List.mem_singleton.mp hfirst, List.mem_singleton.mp hother]

/-- Whatever the name, what is read from the table is a line. -/
theorem isLine_lineageWithin (name : String) : IsLine (lineageWithin parents.length name) := by
  cases hparent : parents.lookup name with
  | some parent =>
    obtain ⟨before, after, hparents, -⟩ := List.lookup_eq_some_iff.mp hparent
    exact isLine_of_mem_parents (name, parent) (by rw [hparents]; simp)
  | none =>
    have hline : lineageWithin parents.length name = [name] := by
      rw [show parents.length = (parents.length - 1) + 1 from rfl, lineageWithin, hparent]
    rw [hline]
    exact isLine_singleton hparent

/-- The same for names that have another spelling, and for groups of exceptions. -/
theorem isLine_lineage (name : String) : IsLine (lineage name) := by
  unfold lineage
  split
  next heq =>
    subst heq
    decide +kernel
  next => exact isLine_lineageWithin _

/-- A class stands on its own line, under its standard name. -/
theorem standardName_mem_lineage (name : String) : standardName name ∈ lineage name := by
  unfold lineage
  split
  next heq =>
    rw [heq]
    decide +kernel
  next =>
    rw [show parents.length = (parents.length - 1) + 1 from rfl, lineageWithin]
    split <;> exact List.mem_cons_self

/-! ### Faults with a message -/

/-- A fault with no more than a message has the ancestors of its class. -/
theorem ancestors_withMessage (className message : String) :
    (withMessage className message).ancestors = lineage (standardName className) := by
  have hsystem : areSystemArguments [.text message] = false := rfl
  rw [withMessage, standard, raisedClass, hsystem, Bool.and_false, if_neg Bool.false_ne_true]

/-- A message alone says nothing about the operating system. -/
theorem systemNumber?_withMessage (className message : String) :
    (withMessage className message).systemNumber? = none := by
  have hsystem : areSystemArguments (withMessage className message).arguments = false := rfl
  rw [systemNumber?, hsystem, Bool.and_false, if_neg Bool.false_ne_true]

/-! ## Merged lines -/

/-- The next name of a merge is the head of one of the lines. -/
theorem exists_line_of_nextHead? {lines : List (List String)} {name : String}
    (h : nextHead? lines = some name) : ∃ line ∈ lines, line.head? = some name :=
  List.mem_filterMap.mp (List.mem_of_find?_eq_some h)

/-- Nothing is lost but the name itself. -/
theorem mem_withoutHead {lines : List (List String)} {name other : String}
    (h : other ∈ lines.flatten) : other = name ∨ other ∈ (withoutHead name lines).flatten := by
  rw [withoutHead, List.flatten_filter_not_isEmpty, List.mem_flatten]
  obtain ⟨line, hline, hmem⟩ := List.mem_flatten.mp h
  by_cases hhead : line.head? = some name
  · obtain ⟨rest, rfl⟩ := List.head?_eq_some_iff.mp hhead
    rcases List.mem_cons.mp hmem with heq | hrest
    · exact .inl heq
    · exact .inr ⟨rest, List.mem_map.mpr ⟨_, hline, by rw [if_pos hhead, List.tail_cons]⟩, hrest⟩
  · exact .inr ⟨line, List.mem_map.mpr ⟨_, hline, if_neg hhead⟩, hmem⟩

/-- Taking a name away adds no other. -/
theorem mem_of_mem_withoutHead {lines : List (List String)} {name other : String}
    (h : other ∈ (withoutHead name lines).flatten) : other ∈ lines.flatten := by
  rw [withoutHead, List.flatten_filter_not_isEmpty] at h
  obtain ⟨_, hrest, hmem⟩ := List.mem_flatten.mp h
  obtain ⟨line, hline, rfl⟩ := List.mem_map.mp hrest
  refine List.mem_flatten.mpr ⟨line, hline, ?_⟩
  split at hmem
  · exact List.mem_of_mem_tail hmem
  · exact hmem

/-- The lines get shorter with each name that is taken from them. -/
theorem length_withoutHead_lt {lines : List (List String)} {name : String}
    (h : ∃ line ∈ lines, line.head? = some name) :
    (withoutHead name lines).flatten.length < lines.flatten.length := by
  rw [withoutHead, List.flatten_filter_not_isEmpty, List.length_flatten, List.length_flatten,
    List.map_map]
  refine List.sum_lt_sum _ _ (fun line _ => ?_) ?_
  · rw [Function.comp_apply]
    split
    · rw [List.length_tail]
      exact Nat.sub_le _ _
    · exact Nat.le_refl _
  · obtain ⟨line, hline, hhead⟩ := h
    obtain ⟨rest, rfl⟩ := List.head?_eq_some_iff.mp hhead
    refine ⟨_, hline, ?_⟩
    rw [Function.comp_apply, if_pos hhead]
    exact Nat.lt_succ_self _

/-- A merge that comes to an end has exactly the names of the lines. -/
theorem mem_mergeWithin_iff {length : Nat} {lines : List (List String)} {merged : List String}
    (h : mergeWithin length lines = .ok merged) (hlength : lines.flatten.length ≤ length)
    (name : String) : name ∈ merged ↔ name ∈ lines.flatten := by
  fun_induction mergeWithin length lines generalizing merged with
  | case1 =>
    cases h
    rfl
  | case2 lines =>
    cases h
    rw [List.eq_nil_of_length_eq_zero (Nat.le_zero.mp hlength)]
  | case3 => cases h
  | case4 length lines _ next hnext ih =>
    obtain ⟨rest, hrest, rfl⟩ := map_eq_ok_iff.mp h
    have hhead := exists_line_of_nextHead? hnext
    have hshorter := length_withoutHead_lt hhead
    rw [List.mem_cons, ih hrest (by omega)]
    refine ⟨?_, mem_withoutHead⟩
    rintro (rfl | hmem)
    · obtain ⟨line, hline, hhead⟩ := hhead
      exact List.mem_flatten.mpr ⟨line, hline, List.mem_of_head? hhead⟩
    · exact mem_of_mem_withoutHead hmem

/-- The line of a new class holds what the lines of the classes hold that it refines. -/
theorem mem_commonLineage_iff {bases line : List String} (h : commonLineage bases = .ok line)
    (name : String) : name ∈ line ↔ name ∈ bases.flatMap lineage := by
  unfold commonLineage at h
  split at h
  · cases h
  · have hlength := le_of_eq (congrArg List.length
      (List.flatten_filter_not_isEmpty (L := bases.map lineage ++ [bases.map standardName])))
    rw [mem_mergeWithin_iff h hlength, List.flatten_filter_not_isEmpty, List.flatten_append,
      List.flatten_singleton, List.mem_append, List.flatMap_def]
    refine or_iff_left_of_imp fun hname => ?_
    -- The classes themselves are in their own lines.
    obtain ⟨base, hbase, rfl⟩ := List.mem_map.mp hname
    exact List.mem_flatten.mpr
      ⟨_, List.mem_map.mpr ⟨base, hbase, rfl⟩, standardName_mem_lineage base⟩

/-! ## Faults that code raises -/

/-- A fault that code can raise: one of a standard class, or one of a new class that refines
standard ones. -/
inductive IsRaisable : Fault → Prop
  | standard (className : String) (arguments : List Value) (importName : Option String) :
      IsRaisable (.standard className arguments importName)
  | derived {className : String} {bases : List String} {arguments : List Value}
      {importName : Option String} {fault : Fault}
      (h : derive className bases arguments importName = .ok fault) : IsRaisable fault

/-- A class can be derived only if the classes that it refines keep at most one kind of data, and
its line is their common line. -/
theorem ancestors_of_derive {className : String} {bases : List String} {arguments : List Value}
    {importName : Option String} {fault : Fault}
    (h : derive className bases arguments importName = .ok fault) :
    (heldBy bases).length ≤ 1 ∧ commonLineage bases = .ok fault.ancestors := by
  unfold derive at h
  split at h
  · cases h
  next hheld =>
    split at h
    · cases h
    next line hline =>
      dsimp only at h
      split at h
      · cases h
      · cases h
        exact ⟨Nat.not_lt.mp hheld, hline⟩

/-- In a list with one name at most, all names are the same. -/
theorem eq_of_length_le_one {names : List String} (h : names.length ≤ 1) {name other : String}
    (hname : name ∈ names) (hother : other ∈ names) : name = other := by
  match names, h with
  | [only], _ => rw [List.mem_singleton.mp hname, List.mem_singleton.mp hother]

/-- A class can refine several classes only if they keep what one class keeps. -/
theorem isLine_of_commonLineage {bases line : List String} (h : commonLineage bases = .ok line)
    (hheld : (heldBy bases).length ≤ 1) : IsLine line := by
  have hmem := mem_commonLineage_iff h
  have hholder {name : String} (hname : name ∈ line) (hholds : name ∈ holders) :
      name ∈ heldBy bases := by
    rw [heldBy, List.mem_eraseDups, List.mem_filter, List.contains_iff_mem]
    exact ⟨(hmem name).mp hname, hholds⟩
  refine ⟨fun entry hentry hname => ?_, fun name hname other hother hholds hholds' => ?_⟩
  · obtain ⟨base, hbase, hline⟩ := List.mem_flatMap.mp ((hmem entry.1).mp hname)
    exact (hmem entry.2).mpr (List.mem_flatMap.mpr
      ⟨base, hbase, (isLine_lineage base).upward entry hentry hline⟩)
  · exact eq_of_length_le_one hheld (hholder hname hholds) (hholder hother hholds')

/-- The ancestors of a fault that code can raise are a line. -/
theorem IsRaisable.isLine {fault : Fault} (h : fault.IsRaisable) : IsLine fault.ancestors := by
  cases h with
  | standard className arguments importName => exact isLine_lineage _
  | derived h =>
    obtain ⟨hheld, hline⟩ := ancestors_of_derive h
    exact isLine_of_commonLineage hline hheld

end WorkspaceLint.Fault
