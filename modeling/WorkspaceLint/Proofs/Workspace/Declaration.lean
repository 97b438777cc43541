import WorkspaceLint.Proofs.Workspace.Naming

/-!
# Which declarations of members are malformed, and what becomes of them

Members are declared in a table at a fixed place of the document, with lists of texts under two of
its keys. A list of something else makes opening fail. A value at the place of the table that is no
table is taken for no declaration at all: a descriptor with the name of project files is then opened
as its own project, and only others fail.

* `Value.valueAt?` — the value at a place of a document.
* `workspaceTable?_eq_some_iff`, `textsUnder_eq_error_iff` — what is read of a document.
* `malformedDeclaration_fails_iff` — which malformed declarations make opening fail.
-/

namespace WorkspaceLint

/-! ## Places of a document -/

namespace Value

/-- The value at a place: keys lead down to it, each of them in the table that the keys before it
lead to. -/
def valueAt? : List String → Value → Option Value
  | [], value => some value
  | key :: keys, value => (value.entries.lookup key).bind (valueAt? keys)

/-- Without keys a value is found at itself. -/
@[simp] theorem valueAt?_nil (value : Value) : value.valueAt? [] = some value := rfl

/-- With a key it is found among the entries under that key. -/
@[simp] theorem valueAt?_cons (key : String) (keys : List String) (value : Value) :
    value.valueAt? (key :: keys) = (value.entries.lookup key).bind (valueAt? keys) := rfl

/-- What keys lead to below a place is what they lead to from the value there. -/
theorem valueAt?_append (keys others : List String) (value : Value) :
    value.valueAt? (keys ++ others) = (value.valueAt? keys).bind (valueAt? others) := by
  induction keys generalizing value with
  | nil => rfl
  | cons key keys ih =>
    rw [List.cons_append, valueAt?_cons, valueAt?_cons, Option.bind_assoc]
    exact congrArg _ (funext ih)

/-- The texts of a value are those of a list that holds nothing else. -/
theorem texts?_eq_some_iff {value : Value} {texts : List String} :
    value.texts? = some texts ↔ value = .list (texts.map .text) := by
  unfold texts?
  split
  next items =>
    rw [Value.list.injEq]
    -- Of the values only a list is one of texts, and it is so item by item.
    induction items generalizing texts with
    | nil => simp [eq_comm]
    | cons item items ih =>
      rw [List.mapM_cons]
      constructor
      · intro h
        obtain ⟨text, htext, h⟩ := Option.bind_eq_some_iff.mp h
        obtain ⟨rest, hrest, h⟩ := Option.bind_eq_some_iff.mp h
        obtain rfl := Option.some.inj h
        split at htext
        next value =>
          obtain rfl := Option.some.inj htext
          rw [ih.mp hrest, List.map_cons]
        next => cases htext
      · intro h
        obtain ⟨text, rest, rfl, rfl, hrest⟩ := List.map_eq_cons_iff.mp h.symm
        rw [ih.mpr hrest.symm]
        rfl
  next hlist => simpa using hlist _

end Value

/-! ## Declarations -/

/-- The place of the workspace table. -/
def workspaceKeys : List String := ["tool", "uv", "workspace"]

namespace MemberKey

/-- The name of a key in the workspace table. -/
def name : MemberKey → String
  | .members => "members"
  | .exclude => "exclude"

/-- The place of a key. -/
def keys (key : MemberKey) : List String := workspaceKeys ++ [key.name]

end MemberKey

/-- At the place of the workspace table stands something else than a table. -/
def MalformedTable (document : List (String × Value)) : Prop :=
  ∃ value, (Value.table document).valueAt? workspaceKeys = some value
    ∧ ∀ table, value ≠ .table table

/-- At the place of a key stands something else than a list of texts. -/
def MalformedTexts (document : List (String × Value)) (key : MemberKey) : Prop :=
  ∃ value, (Value.table document).valueAt? key.keys = some value
    ∧ ∀ texts : List String, value ≠ .list (texts.map .text)

/-- A malformed declaration of members. -/
inductive MalformedDeclaration (document : List (String × Value)) : Prop
  | table (h : MalformedTable document) : MalformedDeclaration document
  | texts (key : MemberKey) (h : MalformedTexts document key) : MalformedDeclaration document

section

variable {document table : List (String × Value)}

/-- The workspace table is the table at its place. -/
theorem workspaceTable?_eq_some_iff :
    workspaceTable? document = some table
      ↔ (Value.table document).valueAt? workspaceKeys = some (.table table) := by
  constructor
  · intro h
    unfold workspaceTable? at h
    obtain ⟨toolValue, htool, h⟩ := Option.bind_eq_some_iff.mp h
    split at h
    next tool =>
      obtain ⟨managerValue, hmanager, h⟩ := Option.bind_eq_some_iff.mp h
      split at h
      next manager =>
        obtain ⟨workspaceValue, hworkspace, h⟩ := Option.bind_eq_some_iff.mp h
        split at h
        next workspace =>
          obtain rfl := Option.some.inj h
          simp [workspaceKeys, Value.entries, htool, hmanager, hworkspace]
        next => cases h
      next => cases h
    next => cases h
  · intro h
    obtain ⟨toolValue, htool, h⟩ := Option.bind_eq_some_iff.mp h
    obtain ⟨managerValue, hmanager, h⟩ := Option.bind_eq_some_iff.mp h
    obtain ⟨workspaceValue, hworkspace, h⟩ := Option.bind_eq_some_iff.mp h
    obtain rfl := Option.some.inj h
    -- A value with an entry is a table.
    cases toolValue with
    | table tool =>
      cases managerValue with
      | table manager =>
        simp only [Value.entries] at htool hmanager hworkspace
        simp [workspaceTable?, htool, hmanager, hworkspace]
      | _ => cases hworkspace
    | _ => cases hmanager

/-- A malformed list stands under its key in the workspace table. -/
theorem malformedTexts_iff {key : MemberKey} :
    MalformedTexts document key
      ↔ ∃ table value, workspaceTable? document = some table
        ∧ table.lookup key.name = some value ∧ value.texts? = none := by
  have htexts (value : Value) :
      value.texts? = none ↔ ∀ texts : List String, value ≠ .list (texts.map .text) := by
    rw [Option.eq_none_iff_forall_ne_some]
    exact forall_congr' fun texts => not_congr Value.texts?_eq_some_iff
  simp only [MalformedTexts, MemberKey.keys, Value.valueAt?_append, Option.bind_eq_some_iff,
    Value.valueAt?_cons, workspaceTable?_eq_some_iff, htexts]
  constructor
  · rintro ⟨value, ⟨outer, houter, inner, hinner, heq⟩, hno⟩
    obtain rfl := Option.some.inj heq
    cases outer with
    | table table => exact ⟨table, inner, houter, hinner, hno⟩
    | _ => cases hinner
  · rintro ⟨table, value, htable, hvalue, hno⟩
    exact ⟨value, ⟨.table table, htable, value, hvalue, rfl⟩, hno⟩

/-- Reading the texts under a key fails exactly if they are malformed. -/
theorem textsUnder_eq_error_iff (htable : workspaceTable? document = some table)
    (key : MemberKey) {other : MemberKey} :
    textsUnder table key.name key = .error other ↔ other = key ∧ MalformedTexts document key := by
  have hmalformed : MalformedTexts document key
      ↔ ((table.lookup key.name).getD (.list [])).texts? = none := by
    rw [malformedTexts_iff]
    constructor
    · rintro ⟨table', value, htable', hvalue, hno⟩
      obtain rfl := Option.some.inj (htable.symm.trans htable')
      rwa [hvalue, Option.getD_some]
    · intro hno
      cases hvalue : table.lookup key.name with
      | some value =>
        rw [hvalue, Option.getD_some] at hno
        exact ⟨table, value, htable, hvalue, hno⟩
      | none =>
        -- What is not there is read as the empty list, which is a list of texts.
        rw [hvalue, Option.getD_none] at hno
        cases hno
  rw [hmalformed, textsUnder]
  cases ((table.lookup key.name).getD (.list [])).texts? with
  | some texts => simp
  | none => simp [eq_comm]

/-- Of what is malformed under the keys, the members are reported before the exclusions. -/
theorem MemberDeclaration.of_malformedTexts {key : MemberKey} (h : MalformedTexts document key)
    (hfirst : key = .exclude → ¬ MalformedTexts document .members) (name : String) :
    MemberDeclaration.of none name document = .error key := by
  obtain ⟨table, -, htable, -⟩ := malformedTexts_iff.mp h
  have hmembers : textsUnder table "members" .members = .error .members
      ↔ MalformedTexts document .members :=
    (textsUnder_eq_error_iff htable .members).trans (and_iff_right rfl)
  have hexclude : textsUnder table "exclude" .exclude = .error .exclude
      ↔ MalformedTexts document .exclude :=
    (textsUnder_eq_error_iff htable .exclude).trans (and_iff_right rfl)
  simp only [MemberDeclaration.of, htable]
  cases key with
  | members => rw [hmembers.mpr h]
  | exclude =>
    cases htexts : textsUnder table "members" .members with
    | ok members => simp only [hexclude.mpr h]
    | error other =>
      obtain ⟨-, hmalformed⟩ := (textsUnder_eq_error_iff htable .members).mp htexts
      exact absurd hmalformed (hfirst rfl)

/-- A value that is no table, where the workspace table should be, counts for no declaration. -/
theorem MemberDeclaration.of_malformedTable (h : MalformedTable document) (name : String) :
    MemberDeclaration.of none name document
      = .ok (if name = projectFileName then .single else .absent) := by
  obtain ⟨value, hvalue, hno⟩ := h
  have hnone : workspaceTable? document = none := by
    rw [Option.eq_none_iff_forall_ne_some]
    intro table htable
    have heq := hvalue.symm.trans (workspaceTable?_eq_some_iff.mp htable)
    exact hno table (Option.some.inj heq)
  simp only [MemberDeclaration.of, hnone]

end

/-! ## Opening -/

section

variable {host : Host SourceFile} {settings : Settings} {mapper : PositionMapper}
  {descriptor path : Path} {document : List (String × Value)}

/-- A descriptor with a malformed list is reported, with the key of the list. -/
theorem openWorkspace_of_malformedTexts (hpath : descriptorPath host descriptor = .ok path)
    (hdocument : readDescriptor host path = .ok document) (hprojects : settings.projects = none)
    {key : MemberKey} (h : MalformedTexts document key)
    (hfirst : key = .exclude → ¬ MalformedTexts document .members) :
    openWorkspace host settings mapper descriptor
      = .fail (.declared ⟨path.text, .notTexts key⟩) := by
  have hdeclaration := MemberDeclaration.of_malformedTexts h hfirst path.name
  simp only [openWorkspace, hpath, hdocument, openDocument, declaredMembers, hprojects,
    hdeclaration]
  rfl

/-- The workspace of a descriptor that is its own project is that project, once it is loaded. -/
theorem openWorkspace_outcome_of_single (hpath : descriptorPath host descriptor = .ok path)
    (hdocument : readDescriptor host path = .ok document)
    (hdeclaration : MemberDeclaration.of settings.projects path.name document = .ok .single) :
    (openWorkspace host settings mapper descriptor).outcome
      = ((loadProjects host (loadScope settings mapper path [path]) [path]).outcome.mapError
          .escaped).map fun projects => ⟨path.text, path.parent.text, projects⟩ := by
  refine openWorkspace_outcome_of_members hpath hdocument ?_
  rw [declaredMembers, hdeclaration]
  rfl

/-- A descriptor that is its own project opens, with this project and no other, if the source files
are loaded to the end. -/
theorem openWorkspace_of_single (hpath : descriptorPath host descriptor = .ok path)
    (hdocument : readDescriptor host path = .ok document)
    (hdeclaration : MemberDeclaration.of settings.projects path.name document = .ok .single)
    (hload : SourcesLoad host (loadScope settings mapper path [path]) path) :
    (openWorkspace host settings mapper descriptor).outcome
      = .ok ⟨path.text, path.parent.text,
          [memberProject host (loadScope settings mapper path [path]) path]⟩ := by
  have hloaded : (loadProject host (loadScope settings mapper path [path]) path).outcome
      = .ok (some (memberProject host (loadScope settings mapper path [path]) path)) :=
    loadProject_eq_some_iff.mpr ⟨checkMember_of_readDescriptor hdocument, hload, rfl⟩
  have hall : (loadProjects host (loadScope settings mapper path [path]) [path]).outcome
      = .ok [memberProject host (loadScope settings mapper path [path]) path] :=
    Reported.map_outcome_eq_ok_iff.mpr
      ⟨_, Reported.forEach_outcome_eq_ok_iff.mpr (.cons hloaded .nil), rfl⟩
  rw [openWorkspace_outcome_of_single hpath hdocument hdeclaration, hall]
  rfl

/-- A descriptor that is its own project does not open, for a reason that is not declared, if the
source files are not loaded to the end. -/
theorem openWorkspace_of_single_escapes (hpath : descriptorPath host descriptor = .ok path)
    (hdocument : readDescriptor host path = .ok document)
    (hdeclaration : MemberDeclaration.of settings.projects path.name document = .ok .single)
    (hload : ¬ SourcesLoad host (loadScope settings mapper path [path]) path) :
    ∃ fault, (openWorkspace host settings mapper descriptor).outcome
      = .error (.escaped fault) := by
  have hcheck := checkMember_of_readDescriptor hdocument
  rw [openWorkspace_outcome_of_single hpath hdocument hdeclaration]
  cases hall : (loadProjects host (loadScope settings mapper path [path]) [path]).outcome with
  | error fault => exact ⟨fault, rfl⟩
  | ok projects =>
    obtain ⟨parts, hparts, -⟩ := Reported.map_outcome_eq_ok_iff.mp hall
    obtain ⟨part, -, hpart⟩ := exists_of_mem_forall₂
      (Reported.forEach_outcome_eq_ok_iff.mp hparts).flip (List.mem_singleton.mpr rfl)
    exact absurd ((loadProject_outcome_eq_ok_iff hcheck).mp hpart).1 hload

/-- **Which malformed declarations make opening fail.** Where the settings name no projects, a
malformed declaration of members makes opening fail with the declared error, with one exception. If
the value at the place of the workspace table is no table, and the descriptor has the name of
project files, the workspace opens with the descriptor's own project and no other, unless the source
files of this project are not loaded to the end, and then a fault escapes. A list of something else
than texts is reported with its key, that of the members before that of the exclusions. -/
theorem malformedDeclaration_fails_iff (hpath : descriptorPath host descriptor = .ok path)
    (hdocument : readDescriptor host path = .ok document) (hprojects : settings.projects = none)
    (hmalformed : MalformedDeclaration document) :
    ((∃ problem, openWorkspace host settings mapper descriptor
        = .fail (.declared ⟨path.text, problem⟩))
      ↔ ¬ (MalformedTable document ∧ path.name = projectFileName))
    ∧ (∀ key, MalformedTexts document key
      → (key = .exclude → ¬ MalformedTexts document .members)
      → openWorkspace host settings mapper descriptor
          = .fail (.declared ⟨path.text, .notTexts key⟩))
    ∧ (MalformedTable document → path.name = projectFileName
      → (SourcesLoad host (loadScope settings mapper path [path]) path
          → ∃ project, project.path = path.text
            ∧ (openWorkspace host settings mapper descriptor).outcome
              = .ok ⟨path.text, path.parent.text, [project]⟩)
        ∧ (¬ SourcesLoad host (loadScope settings mapper path [path]) path
          → ∃ fault, (openWorkspace host settings mapper descriptor).outcome
            = .error (.escaped fault))) := by
  have htexts (key : MemberKey) (h : MalformedTexts document key)
      (hfirst : key = .exclude → ¬ MalformedTexts document .members) :
      openWorkspace host settings mapper descriptor
        = .fail (.declared ⟨path.text, .notTexts key⟩) :=
    openWorkspace_of_malformedTexts hpath hdocument hprojects h hfirst
  have hsingle (h : MalformedTable document) (hname : path.name = projectFileName) :
      MemberDeclaration.of settings.projects path.name document = .ok .single := by
    have hdeclaration := MemberDeclaration.of_malformedTable h path.name
    rwa [if_pos hname, ← hprojects] at hdeclaration
  refine ⟨⟨?_, ?_⟩, htexts, fun h hname => ⟨fun hload => ?_, fun hload => ?_⟩⟩
  · rintro ⟨problem, hfail⟩ ⟨h, hname⟩
    have houtcome := congrArg Reported.outcome hfail
    rw [openWorkspace_outcome_of_single hpath hdocument (hsingle h hname)] at houtcome
    -- No declared error comes of loading projects.
    cases hall : (loadProjects host (loadScope settings mapper path [path]) [path]).outcome <;>
      rw [hall] at houtcome <;> cases houtcome
  · intro hexception
    rcases hmalformed with h | ⟨key, h⟩
    · have hname : path.name ≠ projectFileName := fun hname => hexception ⟨h, hname⟩
      have hdeclaration := MemberDeclaration.of_malformedTable h path.name
      rw [if_neg hname] at hdeclaration
      refine ⟨.noProjects, ?_⟩
      simp only [openWorkspace, hpath, hdocument, openDocument, declaredMembers, hprojects,
        hdeclaration]
      rfl
    · by_cases hmembers : MalformedTexts document .members
      · exact ⟨_, htexts .members hmembers fun heq => by cases heq⟩
      · exact ⟨_, htexts key h fun _ => hmembers⟩
  · exact ⟨_, rfl, openWorkspace_of_single hpath hdocument (hsingle h hname) hload⟩
  · exact openWorkspace_of_single_escapes hpath hdocument (hsingle h hname) hload

end

/-- A host with a member, below a descriptor with the given text in a directory of its own. -/
def declaringHost (text : String) : Host SourceFile :=
  ⟨⟨[(["w"], .directory), (["w", "ws"], .directory),
      (["w", "ws", "pyproject.toml"], fileOf (Text.encodeUtf8 text)),
      (["w", "ws", "app"], .directory), (["w", "ws", "app", "pyproject.toml"], fileOf []),
      (["w", "ws", "app", "app.py"], fileOf [])]⟩,
    ["w"], ⟨.root, ["w"]⟩, .standard⟩

/-- The descriptor on this host. -/
def declaringDescriptor : Path := Path.ofText "/w/ws/pyproject.toml"

/-- A host with a descriptor whose exclusions are a text. -/
def excludedTextHost : Host SourceFile :=
  declaringHost "[tool.uv.workspace]\nmembers = [\"app\"]\nexclude = \"app\"\n"

/-- A host with a descriptor that holds a list of workspace tables. -/
def listedTablesHost : Host SourceFile :=
  declaringHost "[[tool.uv.workspace]]\nmembers = [\"app\"]\n"

/-- Exclusions that are a text are reported. -/
theorem excluded_text_fails :
    ∃ document, readDescriptor excludedTextHost declaringDescriptor = .ok document
      ∧ MalformedTexts document .exclude
      ∧ openWorkspace excludedTextHost Settings.standard .identity declaringDescriptor
        = .fail (.declared ⟨"/w/ws/pyproject.toml", .notTexts .exclude⟩) := by
  have hread : ((readDescriptor excludedTextHost declaringDescriptor).toOption.bind
      workspaceTable?).map (fun table =>
        ((table.lookup "members").map Value.texts?, (table.lookup "exclude").map Value.texts?))
        = some (some (some ["app"]), some none) := by
    decide +kernel
  obtain ⟨table, htable, hkeys⟩ := Option.map_eq_some_iff.mp hread
  obtain ⟨document, hdocument, htable⟩ := Option.bind_eq_some_iff.mp htable
  obtain ⟨hmembers, hexclude⟩ := Prod.mk.inj hkeys
  obtain ⟨value, hvalue, hno⟩ := Option.map_eq_some_iff.mp hexclude
  have hdocument := toOption_eq_some_iff.mp hdocument
  have hmalformed : MalformedTexts document .exclude :=
    malformedTexts_iff.mpr ⟨table, value, htable, hvalue, hno⟩
  -- The members are checked first, and there is nothing wrong with them.
  have hfirst : ¬ MalformedTexts document .members := by
    intro h
    obtain ⟨other, list, hother, hlist, hno⟩ := malformedTexts_iff.mp h
    obtain rfl := Option.some.inj (htable.symm.trans hother)
    rw [MemberKey.name] at hlist
    rw [hlist, Option.map_some, hno] at hmembers
    cases hmembers
  have hpath : descriptorPath excludedTextHost declaringDescriptor = .ok declaringDescriptor := rfl
  refine ⟨document, hdocument, hmalformed, ?_⟩
  exact (malformedDeclaration_fails_iff hpath hdocument rfl (.texts .exclude hmalformed)).2.1
    .exclude hmalformed fun _ => hfirst

/-- A list of workspace tables is no workspace table, but the descriptor opens as its own project,
with the source files of the member that it declares. -/
theorem listed_tables_open :
    ∃ document, readDescriptor listedTablesHost declaringDescriptor = .ok document
      ∧ MalformedTable document ∧ Settings.standard.projects = none
      ∧ (openWorkspace listedTablesHost Settings.standard .identity declaringDescriptor).outcome
        = .ok ⟨"/w/ws/pyproject.toml", "/w/ws",
            [⟨"/w/ws/pyproject.toml", "/w/ws", [⟨"/w/ws/app/app.py", [], .identity⟩]⟩]⟩ := by
  have hread : ((readDescriptor listedTablesHost declaringDescriptor).toOption.bind
      fun document => (Value.table document).valueAt? workspaceKeys).map Value.isTable
        = some false := by
    decide +kernel
  obtain ⟨value, hvalue, hno⟩ := Option.map_eq_some_iff.mp hread
  obtain ⟨document, hdocument, hvalue⟩ := Option.bind_eq_some_iff.mp hvalue
  refine ⟨document, toOption_eq_some_iff.mp hdocument, ⟨value, hvalue, ?_⟩, rfl,
    toOption_eq_some_iff.mp (by decide +kernel)⟩
  rintro table rfl
  cases hno

end WorkspaceLint
