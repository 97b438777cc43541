import Mathlib.Data.List.Induction
import WorkspaceLint.Proofs.Finding
import WorkspaceLint.Proofs.Settings

/-!
# Layers of settings

Three layers say what a setting is: the command line, the program's own section of the descriptor,
and the standard values. The topmost layer that says anything about a setting decides, and the
layers below it are not looked at for that setting, not even to see whether they are in order.

## Shape of the proof

A `Setting` is what the settings have in common: a name, a standard value, a rule for values, and
what a command line gives for it. The layers are merged into one list of entries before anything is
read; `lookup_normalEntries` and `lookup_overlay_eq` say what is found in it under a name, so each
field is read from the value that wins, `Setting.field_eq`. The six fields and the names that are no
settings' are put together by `ofEntries_eq_ok_iff`.

* `Settings.load_layered` — which settings a descriptor and a command line come to, and when to
  none.
-/

namespace WorkspaceLint

/-! ## What is found in merged entries -/

namespace Value

/-- A value, unless it is empty. -/
def present? : Value → Option Value
  | .null => none
  | value => some value

end Value

namespace Settings

/-- The value of the last entry whose key is a name when it is written with low lines. -/
def lastUnder (entries : List (String × Value)) (name : String) : Option Value :=
  (entries.reverse.find? fun entry => normalKey entry.1 == name).map Prod.snd

/-- The last entry is put over the others. -/
theorem normalEntries_concat (entries : List (String × Value)) (entry : String × Value) :
    normalEntries (entries ++ [entry])
      = Value.put (normalEntries entries) (normalKey entry.1) entry.2 := by
  rw [normalEntries, List.foldl_append]
  rfl

/-- Of several entries with the same normal key the last one counts. -/
theorem lookup_normalEntries (entries : List (String × Value)) (name : String) :
    (normalEntries entries).lookup name = lastUnder entries name := by
  induction entries using List.reverseRecOn with
  | nil => rfl
  | append_singleton entries entry ih =>
    rw [normalEntries_concat, lastUnder, List.reverse_concat, List.find?_cons]
    by_cases hkey : normalKey entry.1 = name
    · rw [hkey, Value.lookup_put_self, beq_self_eq_true]
      rfl
    · rw [Value.lookup_put_of_ne _ (Ne.symm hkey), ih, beq_false_of_ne hkey]
      rfl

/-- There is no last entry under a name if and only if no entry has it for its normal key. -/
theorem lastUnder_eq_none_iff {entries : List (String × Value)} {name : String} :
    lastUnder entries name = none ↔ ∀ entry ∈ entries, normalKey entry.1 ≠ name := by
  simp [lastUnder]

/-- The last value that is given for a name; an empty one gives nothing. -/
def lastGiven (overrides : List (String × Value)) (name : String) : Option Value :=
  (overrides.reverse.find? fun entry => entry.1 == name && entry.2.present?.isSome).map Prod.snd

/-- Putting one more entry over others: an empty one is passed over. -/
theorem overlay_concat (entries overrides : List (String × Value)) (entry : String × Value) :
    overlay entries (overrides ++ [entry])
      = if entry.2.present?.isSome then Value.put (overlay entries overrides) entry.1 entry.2
        else overlay entries overrides := by
  rw [overlay, List.foldl_append, ← overlay]
  obtain ⟨key, value⟩ := entry
  cases value <;> rfl

/-- What is given for a name counts, and where nothing is given, what was there. -/
theorem lookup_overlay_eq (entries overrides : List (String × Value)) (name : String) :
    (overlay entries overrides).lookup name
      = (lastGiven overrides name).or (entries.lookup name) := by
  induction overrides using List.reverseRecOn with
  | nil => rfl
  | append_singleton overrides entry ih =>
    rw [overlay_concat, lastGiven, List.reverse_concat, List.find?_cons]
    by_cases hname : entry.1 = name
    · rw [beq_iff_eq.mpr hname, Bool.true_and]
      cases hpresent : entry.2.present?.isSome with
      | true => rw [if_pos rfl, hname, Value.lookup_put_self]; rfl
      | false => rw [if_neg Bool.false_ne_true, ih]; rfl
    · rw [beq_false_of_ne hname, Bool.false_and]
      split
      · rw [Value.lookup_put_of_ne _ (Ne.symm hname), ih]; rfl
      · rw [ih]; rfl

/-- Validation finds no unknown name in entries exactly if nothing is found in them under any. -/
theorem unknownFields_eq_nil_iff {entries : List (String × Value)} :
    Validation.unknownFields keys entries = []
      ↔ ∀ name, name ∉ keys → entries.lookup name = none := by
  rw [Validation.unknownFields, List.map_eq_nil_iff, List.filter_eq_nil_iff]
  constructor
  · intro h name hname
    refine List.lookup_eq_none_iff.mpr fun entry hentry => bne_iff_ne.mpr fun heq => ?_
    exact h entry hentry (by simpa [← heq] using hname)
  · intro h entry hentry hunknown
    have hnone := h entry.1 (by simpa using hunknown)
    exact absurd (List.lookup_eq_none_iff.mp hnone entry hentry) (by simp)

end Settings

/-! ## Settings one by one -/

/-- What is peculiar to a setting: its name, the value that it has when nothing is said of it, the
rule by which values are read, and what a command line gives for it. -/
structure Setting (α : Type) where
  name : String
  standard : α
  rule : List IssueStep → Value → Validated α
  given : Options → Option Value

namespace Setting

open Validation

/-- The member projects. -/
def projects : Setting (Option (List String)) :=
  ⟨"projects", Settings.standard.projects, readOptionalTexts, fun _ => none⟩

/-- The exclusions. -/
def exclude : Setting (List String) :=
  ⟨"exclude", Settings.standard.exclude, readTexts, fun _ => none⟩

/-- What is done about diagnostics. -/
def diagnostics : Setting DiagnosticPolicy :=
  ⟨"workspace_diagnostics", Settings.standard.diagnostics,
    single (readChoice DiagnosticPolicy.choices),
    fun options => options.diagnostics.map fun policy => .text policy.word⟩

/-- Whether failures are isolated. -/
def isolateFailures : Setting Bool :=
  ⟨"isolate_failures", Settings.standard.isolateFailures, single readBoolean,
    fun options => if options.strict then some (.bool false) else none⟩

/-- Whether findings are sorted. -/
def sortFindings : Setting Bool :=
  ⟨"sort_findings", Settings.standard.sortFindings, single readBoolean,
    fun options => if options.sort then some (.bool true) else none⟩

/-- How many jobs there are. -/
def jobs : Setting Int :=
  ⟨"jobs", Settings.standard.jobs, single readPositive, fun options => options.jobs.present?⟩

variable {α : Type} (setting : Setting α) (options : Options) (entries : List (String × Value))

/-- The value that wins: the one that the command line gives, or else that of the last entry of the
section for the setting. -/
def winning : Option Value := (setting.given options).or (Settings.lastUnder entries setting.name)

/-- What a setting comes to: the winning value, read by its rule, or else the standard value. -/
def layered : Validated α :=
  match setting.winning options entries with
  | some value => setting.rule [.field setting.name] value
  | none => .ok setting.standard

/-- Whether there is a winning value that the rule refuses. -/
def IsRefused : Prop :=
  ∃ value issues, setting.winning options entries = some value
    ∧ setting.rule [.field setting.name] value = .error issues

/-- A setting comes to something exactly if its winning value, if there is one, is not refused. -/
theorem exists_layered_iff :
    (∃ value, setting.layered options entries = .ok value) ↔ ¬ setting.IsRefused options entries := by
  unfold layered IsRefused
  cases setting.winning options entries with
  | none => simp
  | some value => cases hread : setting.rule [.field setting.name] value <;> simp [hread]

variable {setting options entries}

/-- What the command line gives for a setting is read, whatever the section says. -/
theorem layered_of_given {value : Value} (h : setting.given options = some value) :
    setting.layered options entries = setting.rule [.field setting.name] value := by
  rw [layered, winning, h]
  rfl

/-- Command lines that give the same for a setting come to the same. -/
theorem layered_congr {others : Options} (h : setting.given options = setting.given others) :
    setting.layered options entries = setting.layered others entries := by
  rw [layered, layered, winning, winning, h]

/-- The field of a setting is read from the value that wins. -/
theorem field_eq (setting : Setting α) (entries : List (String × Value))
    (hgiven : Settings.lastGiven options.overrides setting.name = setting.given options) :
    field (Settings.overlay (Settings.normalEntries entries) options.overrides) setting.name
        (some setting.standard) setting.rule
      = setting.layered options entries := by
  rw [field, Settings.lookup_overlay_eq, Settings.lookup_normalEntries, hgiven]
  unfold layered winning
  cases (setting.given options).or (Settings.lastUnder entries setting.name) <;> rfl

end Setting

/-! ## What a command line gives -/

namespace Options

open Settings (lastGiven)

/-- The policy that the options give is the last value among the overrides. -/
theorem lastGiven_overrides_diagnostics (options : Options) :
    lastGiven options.overrides Setting.diagnostics.name = Setting.diagnostics.given options := by
  cases hpolicy : options.diagnostics <;>
    simp [lastGiven, overrides, Setting.diagnostics, hpolicy, Value.present?]

/-- So is whether failures are isolated. -/
theorem lastGiven_overrides_isolateFailures (options : Options) :
    lastGiven options.overrides Setting.isolateFailures.name
      = Setting.isolateFailures.given options := by
  cases hstrict : options.strict <;>
    simp [lastGiven, overrides, Setting.isolateFailures, hstrict, Value.present?]

/-- So is whether findings are sorted. -/
theorem lastGiven_overrides_sortFindings (options : Options) :
    lastGiven options.overrides Setting.sortFindings.name = Setting.sortFindings.given options := by
  cases hsort : options.sort <;>
    simp [lastGiven, overrides, Setting.sortFindings, hsort, Value.present?]

/-- So is the number of jobs. -/
theorem lastGiven_overrides_jobs (options : Options) :
    lastGiven options.overrides Setting.jobs.name = Setting.jobs.given options := by
  cases hjobs : options.jobs <;> simp [lastGiven, overrides, Setting.jobs, hjobs, Value.present?]

/-- Under the name of nothing that the command line has an option for, nothing is given. -/
theorem lastGiven_overrides_of_not_mem (options : Options) {name : String}
    (h : name ∉ ["workspace_diagnostics", "isolate_failures", "sort_findings", "jobs"]) :
    lastGiven options.overrides name = none := by
  simp only [List.mem_cons, List.not_mem_nil, or_false, not_or] at h
  simp [lastGiven, overrides, Ne.symm h.1, Ne.symm h.2.1, Ne.symm h.2.2.1, Ne.symm h.2.2.2]

end Options

/-! ## All settings together -/

/-- A result is valid with further issues if and only if it is valid and there are none. -/
theorem Validated.withFurther_eq_ok_iff {α : Type} {issues : List Issue} {result : Validated α}
    {value : α} : withFurther issues result = .ok value ↔ issues = [] ∧ result = .ok value := by
  cases result with
  | error found => simp [withFurther]
  | ok found => cases issues <;> simp [withFurther]

namespace Settings

section

open Validation

/-- Settings are read from entries exactly if all names are known and every field can be read. -/
theorem ofEntries_eq_ok_iff {entries : List (String × Value)} {settings : Settings} :
    ofEntries entries = .ok settings
      ↔ unknownFields keys entries = []
        ∧ field entries "projects" (some standard.projects) readOptionalTexts = .ok settings.projects
        ∧ field entries "exclude" (some standard.exclude) readTexts = .ok settings.exclude
        ∧ field entries "workspace_diagnostics" (some standard.diagnostics)
            (single (readChoice DiagnosticPolicy.choices)) = .ok settings.diagnostics
        ∧ field entries "isolate_failures" (some standard.isolateFailures) (single readBoolean)
            = .ok settings.isolateFailures
        ∧ field entries "sort_findings" (some standard.sortFindings) (single readBoolean)
            = .ok settings.sortFindings
        ∧ field entries "jobs" (some standard.jobs) (single readPositive) = .ok settings.jobs := by
  rw [ofEntries, Validated.withFurther_eq_ok_iff]
  refine and_congr_right fun _ => ?_
  simp only [Validated.apply_eq_ok_iff, Validated.start, Except.ok.injEq]
  constructor
  · rintro ⟨_, jobs, ⟨_, sort, ⟨_, isolate, ⟨_, diagnostics, ⟨_, exclude, ⟨_, projects, rfl, hprojects,
      rfl⟩, hexclude, rfl⟩, hdiagnostics, rfl⟩, hisolate, rfl⟩, hsort, rfl⟩, hjobs, rfl⟩
    exact ⟨hprojects, hexclude, hdiagnostics, hisolate, hsort, hjobs⟩
  · rintro ⟨hprojects, hexclude, hdiagnostics, hisolate, hsort, hjobs⟩
    exact ⟨_, _, ⟨_, _, ⟨_, _, ⟨_, _, ⟨_, _, ⟨_, _, rfl, hprojects, rfl⟩, hexclude, rfl⟩, hdiagnostics,
      rfl⟩, hisolate, rfl⟩, hsort, rfl⟩, hjobs, rfl⟩

end

/-- The program's own section of a descriptor as it is written; it is empty where there is none. -/
def written (document : List (String × Value)) : List (String × Value) :=
  let tool := ((document.lookup toolKey).getD (.table [])).entries
  ((tool.lookup sectionKey).getD (.table [])).entries

/-- What a descriptor holds on the way to the program's own section are tables, as far as it goes.
-/
structure HasTables (document : List (String × Value)) : Prop where
  tool : ∀ value, document.lookup toolKey = some value → value.isTable = true
  own : ∀ tool value, document.lookup toolKey = some (.table tool) →
    tool.lookup sectionKey = some value → value.isTable = true

/-- In a document with the tables on the way, the section is what is written there, with normal
keys. -/
theorem sectionOf_eq_ok {document : List (String × Value)} (h : HasTables document) :
    sectionOf document = .ok (normalEntries (written document)) := by
  unfold sectionOf written
  cases htool : document.lookup toolKey with
  | none => rfl
  | some tool =>
    have htable := h.tool tool htool
    cases tool <;> try cases htable
    next tool =>
      dsimp only [Option.getD_some, Value.entries]
      cases hown : tool.lookup sectionKey with
      | none => rfl
      | some own =>
        have htable := h.own tool own htool hown
        cases own <;> try cases htable
        rfl

/-- Each of the settings is what it comes to in its layers. -/
structure IsLayered (options : Options) (entries : List (String × Value)) (settings : Settings) :
    Prop where
  projects : Setting.projects.layered options entries = .ok settings.projects
  exclude : Setting.exclude.layered options entries = .ok settings.exclude
  diagnostics : Setting.diagnostics.layered options entries = .ok settings.diagnostics
  isolateFailures : Setting.isolateFailures.layered options entries = .ok settings.isolateFailures
  sortFindings : Setting.sortFindings.layered options entries = .ok settings.sortFindings
  jobs : Setting.jobs.layered options entries = .ok settings.jobs

/-- Whether the winning value of one of the settings is refused. -/
def HasRefused (options : Options) (entries : List (String × Value)) : Prop :=
  Setting.projects.IsRefused options entries ∨ Setting.exclude.IsRefused options entries
  ∨ Setting.diagnostics.IsRefused options entries
  ∨ Setting.isolateFailures.IsRefused options entries
  ∨ Setting.sortFindings.IsRefused options entries ∨ Setting.jobs.IsRefused options entries

/-- There are layered settings exactly if no winning value is refused. -/
theorem exists_isLayered_iff {options : Options} {entries : List (String × Value)} :
    (∃ settings, IsLayered options entries settings) ↔ ¬ HasRefused options entries := by
  simp only [HasRefused, not_or, ← Setting.exists_layered_iff]
  constructor
  · rintro ⟨settings, h⟩
    exact ⟨⟨_, h.projects⟩, ⟨_, h.exclude⟩, ⟨_, h.diagnostics⟩, ⟨_, h.isolateFailures⟩,
      ⟨_, h.sortFindings⟩, ⟨_, h.jobs⟩⟩
  · rintro ⟨⟨_, hprojects⟩, ⟨_, hexclude⟩, ⟨_, hdiagnostics⟩, ⟨_, hisolate⟩, ⟨_, hsort⟩, ⟨_, hjobs⟩⟩
    exact ⟨⟨_, _, _, _, _, _⟩, hprojects, hexclude, hdiagnostics, hisolate, hsort, hjobs⟩

/-- What is put over the entries of the section gives nothing under names that no setting has. -/
theorem unknownFields_overlay_eq_nil_iff (options : Options) (entries : List (String × Value)) :
    Validation.unknownFields keys (overlay (normalEntries entries) options.overrides) = []
      ↔ ∀ entry ∈ entries, normalKey entry.1 ∈ keys := by
  rw [unknownFields_eq_nil_iff]
  have hfound (name : String) (hname : name ∉ keys) :
      (overlay (normalEntries entries) options.overrides).lookup name = lastUnder entries name := by
    have hgiven := options.lastGiven_overrides_of_not_mem
      (fun hmem => hname ((by decide : ["workspace_diagnostics", "isolate_failures",
        "sort_findings", "jobs"] ⊆ keys) hmem))
    rw [lookup_overlay_eq, hgiven, Option.none_or, lookup_normalEntries]
  constructor
  · intro h entry hentry
    by_contra hunknown
    have hnone := h _ hunknown
    rw [hfound _ hunknown] at hnone
    exact lastUnder_eq_none_iff.mp hnone entry hentry rfl
  · intro h name hname
    rw [hfound name hname]
    exact lastUnder_eq_none_iff.mpr fun entry hentry heq => hname (heq ▸ h entry hentry)

/-- Entries with those of a command line over them are read as the layers say. -/
theorem ofEntries_overlay_eq_ok_iff {options : Options} {entries : List (String × Value)}
    {settings : Settings} :
    ofEntries (overlay (normalEntries entries) options.overrides) = .ok settings
      ↔ (∀ entry ∈ entries, normalKey entry.1 ∈ keys) ∧ IsLayered options entries settings := by
  have hprojects := Setting.projects.field_eq entries
    (options.lastGiven_overrides_of_not_mem (by decide))
  have hexclude := Setting.exclude.field_eq entries
    (options.lastGiven_overrides_of_not_mem (by decide))
  have hdiagnostics := Setting.diagnostics.field_eq entries options.lastGiven_overrides_diagnostics
  have hisolate := Setting.isolateFailures.field_eq entries
    options.lastGiven_overrides_isolateFailures
  have hsort := Setting.sortFindings.field_eq entries options.lastGiven_overrides_sortFindings
  have hjobs := Setting.jobs.field_eq entries options.lastGiven_overrides_jobs
  rw [ofEntries_eq_ok_iff, unknownFields_overlay_eq_nil_iff]
  refine and_congr_right fun _ => ⟨fun ⟨h₁, h₂, h₃, h₄, h₅, h₆⟩ => ?_, fun h => ?_⟩
  · exact ⟨hprojects.symm.trans h₁, hexclude.symm.trans h₂, hdiagnostics.symm.trans h₃,
      hisolate.symm.trans h₄, hsort.symm.trans h₅, hjobs.symm.trans h₆⟩
  · exact ⟨hprojects.trans h.projects, hexclude.trans h.exclude, hdiagnostics.trans h.diagnostics,
      hisolate.trans h.isolateFailures, hsort.trans h.sortFindings, hjobs.trans h.jobs⟩

/-- **Settings come in layers.** Where a descriptor has tables on the way to the program's own
section, a descriptor and a command line come to settings exactly if every key of the section is the
name of a setting, when it is written with low lines, and no winning value is refused; otherwise the
settings are invalid. Each of the settings is then its winning value, read by its rule, or its
standard value if nothing is said of it: what the command line gives wins, and after it the last
entry of the section for the setting. So an option to be strict ends isolation and an option to sort
sorts, whatever the descriptor says, and where an option is not given the setting is what the
descriptor makes of it alone. -/
theorem load_layered (document : Option (List (String × Value)))
    (htables : HasTables (document.getD [])) (options : Options) :
    let entries := written (document.getD [])
    (∀ settings, load document options.overrides = .ok settings
      ↔ (∀ entry ∈ entries, normalKey entry.1 ∈ keys) ∧ IsLayered options entries settings)
    ∧ ((∃ issues, load document options.overrides = .error (.invalid issues))
      ↔ (∃ entry ∈ entries, normalKey entry.1 ∉ keys) ∨ HasRefused options entries)
    ∧ ∀ settings, load document options.overrides = .ok settings →
        (options.strict = true → settings.isolateFailures = false)
        ∧ (options.sort = true → settings.sortFindings = true)
        ∧ (options.diagnostics = none →
            Setting.diagnostics.layered .standard entries = .ok settings.diagnostics)
        ∧ (options.strict = false →
            Setting.isolateFailures.layered .standard entries = .ok settings.isolateFailures)
        ∧ (options.sort = false →
            Setting.sortFindings.layered .standard entries = .ok settings.sortFindings)
        ∧ (options.jobs = .null → Setting.jobs.layered .standard entries = .ok settings.jobs)
        ∧ Setting.projects.layered .standard entries = .ok settings.projects
        ∧ Setting.exclude.layered .standard entries = .ok settings.exclude := by
  intro entries
  have hload : load document options.overrides
      = (ofEntries (overlay (normalEntries entries) options.overrides)).mapError .invalid := by
    rw [load, sectionOf_eq_ok htables]
  have hok (settings : Settings) : load document options.overrides = .ok settings
      ↔ (∀ entry ∈ entries, normalKey entry.1 ∈ keys) ∧ IsLayered options entries settings := by
    rw [hload, ← ofEntries_overlay_eq_ok_iff]
    cases ofEntries (overlay (normalEntries entries) options.overrides) <;> simp [Except.mapError]
  -- With its tables in place, a document fails for the issues of its values alone.
  have hinvalid : (∃ issues, load document options.overrides = .error (.invalid issues))
      ↔ ¬ ∃ settings, load document options.overrides = .ok settings := by
    rw [hload]
    cases ofEntries (overlay (normalEntries entries) options.overrides) <;> simp [Except.mapError]
  refine ⟨hok, ?_, fun settings hsettings => ?_⟩
  · simp only [hinvalid, hok, exists_and_left, exists_isLayered_iff, not_and_or, not_not,
      not_forall, exists_prop]
  · have h := ((hok settings).mp hsettings).2
    refine ⟨fun hstrict => ?_, fun hsort => ?_, fun homitted => ?_, fun homitted => ?_,
      fun homitted => ?_, fun homitted => ?_, h.projects, h.exclude⟩
    · have hgiven : Setting.isolateFailures.given options = some (.bool false) := if_pos hstrict
      exact (Except.ok.inj ((Setting.layered_of_given hgiven).symm.trans h.isolateFailures)).symm
    · have hgiven : Setting.sortFindings.given options = some (.bool true) := if_pos hsort
      exact (Except.ok.inj ((Setting.layered_of_given hgiven).symm.trans h.sortFindings)).symm
    · exact (Setting.layered_congr (congrArg (Option.map _) homitted.symm)).trans h.diagnostics
    · exact (Setting.layered_congr (by simp [Setting.isolateFailures, homitted,
        Options.standard])).trans h.isolateFailures
    · exact (Setting.layered_congr (by simp [Setting.sortFindings, homitted,
        Options.standard])).trans h.sortFindings
    · exact (Setting.layered_congr (congrArg Value.present? homitted.symm)).trans h.jobs

/-- A descriptor with two spellings of one key, a number of jobs that nothing could be done with,
and a text for a truth value. -/
def crowdedDocument : List (String × Value) :=
  [("tool", .table [("runcheckers", .table [("workspace-diagnostics", .text "drop"),
    ("jobs", .int 0), ("workspace_diagnostics", .text "warn"), ("isolate-failures", .text "yes")])])]

/-- A command line that asks for a strict run with three jobs. -/
def strictOptions : Options := { Options.standard with strict := true, jobs := .int 3 }

/-- The later spelling counts, and the number of jobs and the truth value that the command line puts
something over are not looked at. -/
theorem crowdedDocument_is_layered :
    HasTables crowdedDocument
    ∧ load (some crowdedDocument) strictOptions.overrides
      = .ok ⟨none, [], .warn, false, false, 3⟩ := by
  have htables : HasTables crowdedDocument := by
    refine ⟨fun value hvalue => ?_, fun tool value htool hvalue => ?_⟩
    · obtain rfl := Option.some.inj hvalue
      rfl
    · obtain rfl := Value.table.inj (Option.some.inj htool)
      obtain rfl := Option.some.inj hvalue
      rfl
  refine ⟨htables, ((load_layered (some crowdedDocument) htables strictOptions).1 _).mpr
    ⟨by decide, ?_⟩⟩
  exact ⟨rfl, rfl, rfl, rfl, rfl, rfl⟩

end Settings

end WorkspaceLint
