import WorkspaceLint.Settings

/-!
# Settings under an overriding policy

What the command line says about diagnostics is put over what the descriptor says, before anything
is validated. So the settings of two command lines that differ in this policy differ in nothing
else, and where there are no settings the issues are the same, `Settings.load_withPolicy`.

## Shape of the proof

`SameBut` relates entries that stand under the same keys in the same order and may have different
values under one of them. Putting entries over them keeps it, `SameBut.overlay`, and validation
looks at nothing else, `Settings.ofEntries_sameBut`.
-/

namespace WorkspaceLint

/-! ## Entries that differ under one key -/

namespace Value

/-- The key that a value is put under leads to it. -/
theorem lookup_put_self (entries : List (String × Value)) (key : String) (value : Value) :
    (put entries key value).lookup key = some value := by
  induction entries with
  | nil => simp [put]
  | cons entry entries ih =>
    rw [put]
    split
    · exact List.lookup_cons_self
    next hkey =>
      obtain ⟨name, _⟩ := entry
      have hne : (key == name) = false := beq_false_of_ne fun heq => hkey (by simp [heq])
      rw [List.lookup_cons, hne]
      exact ih

/-- Every other key leads where it did. -/
theorem lookup_put_of_ne (entries : List (String × Value)) {key name : String} (h : name ≠ key)
    (value : Value) : (put entries key value).lookup name = entries.lookup name := by
  have hne : (name == key) = false := beq_false_of_ne h
  induction entries with
  | nil => rw [put, List.lookup_cons, hne]
  | cons entry entries ih =>
    obtain ⟨first, _⟩ := entry
    rw [put]
    split
    next hkey =>
      obtain rfl : first = key := by simpa using hkey
      rw [List.lookup_cons, List.lookup_cons, hne]
    next => rw [List.lookup_cons, List.lookup_cons, ih]

/-- A key that is there keeps its place, and any other comes last. -/
theorem keys_put (entries : List (String × Value)) (key : String) (value : Value) :
    (put entries key value).map Prod.fst
      = if key ∈ entries.map Prod.fst then entries.map Prod.fst
        else entries.map Prod.fst ++ [key] := by
  induction entries with
  | nil => rfl
  | cons entry entries ih =>
    rw [put]
    by_cases hkey : entry.1 = key
    · simp [hkey]
    · have hne : key ≠ entry.1 := Ne.symm hkey
      simp only [beq_eq_false_iff_ne.mpr hkey, Bool.false_eq_true, if_false, List.map_cons, ih,
        List.mem_cons, hne, false_or]
      split <;> rfl

end Value

/-- Entries stand under the same keys in the same order, and the values are the same under all names
but one. -/
structure SameBut (key : String) (entries others : List (String × Value)) : Prop where
  keys : entries.map Prod.fst = others.map Prod.fst
  lookup : ∀ name, name ≠ key → entries.lookup name = others.lookup name

namespace SameBut

variable {key : String} {entries others : List (String × Value)}

/-- Entries with different values put under one key are the same but for that key. -/
theorem of_put (entries : List (String × Value)) (key : String) (value value' : Value) :
    SameBut key (Value.put entries key value) (Value.put entries key value') := by
  refine ⟨by rw [Value.keys_put, Value.keys_put], fun name hname => ?_⟩
  rw [Value.lookup_put_of_ne entries hname, Value.lookup_put_of_ne entries hname]

/-- Putting the same value under the same name keeps entries the same but for the key. -/
theorem put (h : SameBut key entries others) (name : String) (value : Value) :
    SameBut key (Value.put entries name value) (Value.put others name value) := by
  refine ⟨by rw [Value.keys_put, Value.keys_put, h.keys], fun other hother => ?_⟩
  by_cases hname : other = name
  · rw [hname, Value.lookup_put_self, Value.lookup_put_self]
  · rw [Value.lookup_put_of_ne entries hname, Value.lookup_put_of_ne others hname,
      h.lookup other hother]

/-- Putting the same entries over them keeps entries the same but for the key. -/
theorem overlay (h : SameBut key entries others) (overrides : List (String × Value)) :
    SameBut key (Settings.overlay entries overrides) (Settings.overlay others overrides) := by
  induction overrides generalizing entries others with
  | nil => exact h
  | cons entry overrides ih =>
    rw [Settings.overlay, Settings.overlay, List.foldl_cons, List.foldl_cons]
    refine ih ?_
    split
    · exact h
    · exact h.put entry.1 _

end SameBut

namespace Settings

/-- A key that is not overridden leads where it did. -/
theorem lookup_overlay (entries : List (String × Value)) {key : String}
    {overrides : List (String × Value)} (h : key ∉ overrides.map Prod.fst) :
    (overlay entries overrides).lookup key = entries.lookup key := by
  induction overrides generalizing entries with
  | nil => rfl
  | cons entry overrides ih =>
    obtain ⟨hentry, hrest⟩ := not_or.mp (mt List.mem_cons.mpr h)
    rw [overlay, List.foldl_cons]
    refine (ih _ hrest).trans ?_
    split
    · rfl
    · exact Value.lookup_put_of_ne entries hentry _

end Settings

/-! ## Validation -/

namespace Validated

variable {α β γ : Type}

/-- Changing what a validated function gives changes what its application gives. -/
theorem apply_eq_map {f : Validated (α → β)} {f' : Validated (α → γ)} (post : β → γ)
    (h : f' = f.map fun g a => post (g a)) (value : Validated α) :
    f'.apply value = (f.apply value).map post := by
  subst h
  cases f <;> cases value <;> rfl

/-- Changing a result changes nothing in the issues that are further found. -/
theorem withFurther_map (issues : List Issue) (result : Validated α) (post : α → β) :
    withFurther issues (result.map post) = (withFurther issues result).map post := by
  cases result with
  | error found => rfl
  | ok value =>
    simp only [Except.map, withFurther]
    split <;> rfl

end Validated

namespace Settings

/-- The settings with another policy. -/
def withPolicy (settings : Settings) (policy : DiagnosticPolicy) : Settings :=
  { settings with diagnostics := policy }

/-- Where entries name a policy each and differ in nothing else, so do the settings. -/
theorem ofEntries_sameBut {entries others : List (String × Value)}
    (h : SameBut "workspace_diagnostics" entries others) {policy policy' : DiagnosticPolicy}
    (hpolicy : entries.lookup "workspace_diagnostics" = some (.text policy.word))
    (hpolicy' : others.lookup "workspace_diagnostics" = some (.text policy'.word)) :
    ofEntries others = (ofEntries entries).map (·.withPolicy policy') := by
  have hfield {α : Type} (name : String) (hname : name ≠ "workspace_diagnostics") (standard : α)
      (rule : List IssueStep → Value → Validated α) :
      Validation.field others name (some standard) rule
        = Validation.field entries name (some standard) rule := by
    rw [Validation.field, Validation.field, h.lookup name hname]
  have hread {entries : List (String × Value)} {policy : DiagnosticPolicy}
      (hpolicy : entries.lookup "workspace_diagnostics" = some (.text policy.word)) :
      Validation.field entries "workspace_diagnostics" (some standard.diagnostics)
        (Validation.single (Validation.readChoice DiagnosticPolicy.choices)) = .ok policy := by
    rw [Validation.field, hpolicy]
    cases policy <;> rfl
  have hunknown : Validation.unknownFields keys others = Validation.unknownFields keys entries := by
    have hnames (entries : List (String × Value)) : Validation.unknownFields keys entries
        = ((entries.map Prod.fst).filter fun name => !keys.contains name).map fun name =>
            ⟨[.field name], .notPermitted⟩ := by
      rw [List.filter_map, List.map_map]
      rfl
    rw [hnames, hnames, h.keys]
  rw [ofEntries, ofEntries, hread hpolicy, hread hpolicy', hunknown,
    hfield "projects" (by decide), hfield "exclude" (by decide),
    hfield "isolate_failures" (by decide), hfield "sort_findings" (by decide),
    hfield "jobs" (by decide)]
  generalize Validation.field entries "projects" _ _ = projects
  generalize Validation.field entries "exclude" _ _ = exclude
  generalize Validation.field entries "isolate_failures" _ _ = isolate
  generalize Validation.field entries "sort_findings" _ _ = sort
  generalize Validation.field entries "jobs" _ _ = jobs
  have hpolicies : (((Validated.start mk).apply projects).apply exclude).apply (.ok policy')
      = ((((Validated.start mk).apply projects).apply exclude).apply (.ok policy)).map
          fun f isolate sort jobs => (f isolate sort jobs).withPolicy policy' := by
    cases projects <;> cases exclude <;> rfl
  -- The fields that come after the policy do not look at it.
  have hisolate := Validated.apply_eq_map
    (fun (f : Bool → Int → Settings) sort jobs => (f sort jobs).withPolicy policy') hpolicies isolate
  have hsort := Validated.apply_eq_map
    (fun (f : Int → Settings) jobs => (f jobs).withPolicy policy') hisolate sort
  have hjobs := Validated.apply_eq_map
    (fun settings : Settings => settings.withPolicy policy') hsort jobs
  rw [hjobs, Validated.withFurther_map]

end Settings

/-! ## The command line -/

/-- Options that name the given policy. -/
def Options.withPolicy (options : Options) (policy : DiagnosticPolicy) : Options :=
  { options with diagnostics := some policy }

/-- The settings of two command lines that differ in the policy they name differ only in that. Where
there are none, it is for the same reason. -/
theorem Settings.load_withPolicy (document : Option (List (String × Value))) (options : Options)
    (policy policy' : DiagnosticPolicy) :
    load document (options.withPolicy policy').overrides
      = (load document (options.withPolicy policy).overrides).map (·.withPolicy policy') := by
  have hoverlay (entries : List (String × Value)) (policy : DiagnosticPolicy) :
      overlay entries (options.withPolicy policy).overrides
        = overlay (Value.put entries "workspace_diagnostics" (.text policy.word))
            options.overrides.tail := rfl
  have hlookup (entries : List (String × Value)) (policy : DiagnosticPolicy) :
      (overlay (Value.put entries "workspace_diagnostics" (.text policy.word))
        options.overrides.tail).lookup "workspace_diagnostics" = some (.text policy.word) := by
    rw [lookup_overlay _ (by simp [Options.overrides]), Value.lookup_put_self]
  rw [load, load]
  cases sectionOf (document.getD []) with
  | error fault => rfl
  | ok entries =>
    dsimp only
    rw [hoverlay, hoverlay, ofEntries_sameBut
      ((SameBut.of_put entries _ _ _).overlay options.overrides.tail) (hlookup entries policy)
      (hlookup entries policy')]
    cases ofEntries _ <;> rfl

end WorkspaceLint
