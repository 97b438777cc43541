import Mathlib.Data.List.TakeWhile
import WorkspaceLint.Plugin.Loading
import WorkspaceLint.Proofs.FileTree.Resolve
import WorkspaceLint.Proofs.Plugin.Classification

/-!
# Names under which plugins are registered

The name of a plugin from a file is made of a fixed part, twelve digits of the digest of its
resolved path, and a word for the stem of the path by which it is referred to. There is no dot in
it, so it is the name of a package at the top, and what lies below it is known by its first part.

The digits are the same for all paths to one plugin, and the word need not be: it comes from the
path as it is given. Where the last name of the path stands for itself, and for no link, the word is
that of the resolved path.

* `length_sha1`, `isDigestDigit_of_mem_sha1` — what a digest looks like.
* `isWithin_iff_topPackage`                  — what lies below a name without a dot.
* `FileTree.name_real`                       — the last name of a resolved path.
* `nameOf_accounts`                          — the names of plugins, and when two paths have the
  same.
-/

namespace WorkspaceLint

/-! ## Digests -/

namespace Digest

/-- Whether a character is a hexadecimal digit in lower case. -/
def isDigestDigit (c : Char) : Bool := "0123456789abcdef".toList.contains c

/-- A hexadecimal digit is a digit of a digest. -/
theorem isDigestDigit_hexDigit : ∀ n < 16, isDigestDigit (hexDigit n) = true := by
  decide

/-- A digest has forty digits. -/
theorem length_sha1 (message : List UInt8) : (sha1 message).length = 40 := rfl

/-- The characters of a digest are its digits. -/
theorem isDigestDigit_of_mem_sha1 {message : List UInt8} {c : Char} (h : c ∈ sha1 message) :
    isDigestDigit c = true := by
  obtain ⟨word, -, hc⟩ := List.mem_flatMap.mp h
  obtain ⟨place, -, rfl⟩ := List.mem_map.mp hc
  exact isDigestDigit_hexDigit _ (Nat.mod_lt _ (by decide))

end Digest

/-! ## Dotted names -/

namespace LoadFailure

/-- The package at the top of a dotted name: what stands before its first dot. -/
def topPackage (name : String) : String := String.ofList (name.toList.takeWhile (· ≠ '.'))

/-- What lies below a name without a dot is what has it at the top. -/
theorem isWithin_iff_topPackage {name package : String} (h : '.' ∉ package.toList) :
    isWithin name package = true ↔ topPackage name = package := by
  have hall : ∀ c ∈ package.toList, decide (c ≠ '.') = true := fun c hc =>
    decide_eq_true fun heq => h (heq ▸ hc)
  rw [isWithin_iff]
  constructor
  · rintro (rfl | ⟨rest, rfl⟩)
    · rw [topPackage, List.takeWhile_eq_self_iff.mpr hall, String.ofList_toList]
    · have htext : (package ++ "." ++ rest).toList = package.toList ++ '.' :: rest.toList := by
        simp [String.toList_append]
      rw [topPackage, htext, List.takeWhile_append_of_pos hall,
        List.takeWhile_cons_of_neg (by decide), List.append_nil, String.ofList_toList]
  · rintro rfl
    have hwhole := List.takeWhile_append_dropWhile (p := fun c => decide (c ≠ '.'))
      (l := name.toList)
    -- The name is its first part alone, or goes on behind it with a dot.
    cases hrest : name.toList.dropWhile fun c => decide (c ≠ '.') with
    | nil =>
      left
      rw [hrest, List.append_nil] at hwhole
      rw [topPackage, hwhole, String.ofList_toList]
    | cons c rest =>
      right
      have hdot : c = '.' := by
        have hne : name.toList.dropWhile (fun c => decide (c ≠ '.')) ≠ [] := by rw [hrest]; simp
        have hhead := List.head_dropWhile_not _ hne
        simp only [hrest, List.head_cons] at hhead
        simpa using hhead
      rw [hrest, hdot] at hwhole
      refine ⟨String.ofList rest, String.toList_injective ?_⟩
      simp only [String.toList_append, topPackage, String.toList_ofList, List.append_assoc]
      exact hwhole.symm

end LoadFailure

/-! ## The last name of a resolved path -/

namespace FileTree

variable {F : Type} {tree : FileTree F}

/-- Pieces none of which is empty are appended as they are. -/
theorem appendPieces_of_not_mem {names pieces : List String} (h : "" ∉ pieces) :
    appendPieces names pieces = names ++ pieces := by
  unfold appendPieces
  split
  · exact absurd List.mem_cons_self h
  · rfl

/-- A name that is neither dots nor stands for a link is added as it is. -/
theorem names_realFrom_singleton {replace : LinkTable → Location → String → Progress}
    {links : LinkTable} {location : Location} {last : String} (hlast : IsEntryName last)
    (hlink : ∀ target, tree.entryAt (location ++ [last]) ≠ some (.link target)) :
    (tree.realFrom replace links location [last]).names = location ++ [last] := by
  obtain ⟨⟨hempty, hdot, -⟩, hdots⟩ := hlast
  rw [realFrom, if_neg (by simp [hempty, hdot]), if_neg hdots]
  dsimp only
  split
  next target htarget => exact absurd htarget (hlink target)
  next => rfl

/-- The first piece of a path leads on to where the pieces behind it are followed, or the way ends
there in a circle of links, and these pieces are appended. Which of the two it is and where it leads
to does not depend on the pieces behind it. -/
theorem realFrom_first (tree : FileTree F) (replace : LinkTable → Location → String → Progress)
    (links : LinkTable) (location : Location) (piece : String) :
    (∃ further next, ∀ pieces, tree.realFrom replace links location (piece :: pieces)
      = tree.realFrom replace further next pieces)
    ∨ ∃ further found, ∀ pieces, tree.realFrom replace links location (piece :: pieces)
      = ⟨appendPieces found pieces, false, further⟩ := by
  by_cases hskip : (piece = "" || piece = ".") = true
  · exact .inl ⟨links, location, fun pieces => by rw [realFrom, if_pos hskip]⟩
  by_cases hdots : piece = ".."
  · exact .inl ⟨links, location.dropLast, fun pieces => by
      rw [realFrom, if_neg hskip, if_pos hdots]⟩
  simp only [realFrom, hskip, hdots, Bool.false_eq_true, if_false]
  split
  next target _ =>
    split
    next known _ => exact .inl ⟨links, known, fun pieces => rfl⟩
    next => exact .inr ⟨links, location ++ [piece], fun pieces => rfl⟩
    next =>
      split
      · exact .inl ⟨_, _, fun pieces => rfl⟩
      · exact .inr ⟨_, _, fun pieces => rfl⟩
  next => exact .inl ⟨links, location ++ [piece], fun pieces => rfl⟩

/-- Replacing links in a path comes to its last name at the end, and adds it as it is if it is
neither dots nor stands for a link. -/
theorem names_realFrom_concat {replace : LinkTable → Location → String → Progress}
    {links : LinkTable} {location : Location} {names : List String} {last : String}
    (hnames : "" ∉ names) (hlast : IsEntryName last)
    (hlink : ∀ target, tree.entryAt ((tree.realFrom replace links location names).names ++ [last])
      ≠ some (.link target)) :
    (tree.realFrom replace links location (names ++ [last])).names
      = (tree.realFrom replace links location names).names ++ [last] := by
  induction names generalizing links location with
  | nil => exact names_realFrom_singleton hlast hlink
  | cons name names ih =>
    have hrest : "" ∉ names := List.not_mem_of_not_mem_cons hnames
    rw [List.cons_append]
    rcases tree.realFrom_first replace links location name with
      ⟨further, next, hon⟩ | ⟨further, found, hend⟩
    · rw [hon] at hlink
      rw [hon, hon]
      exact ih hrest hlink
    · have hconcat : "" ∉ names ++ [last] := by
        simpa [hrest] using Ne.symm hlast.1.1
      rw [hend, hend]
      dsimp only
      rw [appendPieces_of_not_mem hrest, appendPieces_of_not_mem hconcat, List.append_assoc]

/-- A last piece that is an entry name is collapsed to itself. -/
theorem collapse_concat {pieces : List String} {last : String} (hlast : IsEntryName last) :
    collapse (pieces ++ [last]) = collapse pieces ++ [last] := by
  obtain ⟨⟨hempty, hdot, -⟩, hdots⟩ := hlast
  rw [collapse, List.foldl_append, List.foldl_cons, List.foldl_nil, if_neg (by simp [hempty, hdot]),
    if_neg hdots]
  rfl

/-- The directory in which the last name of a path is looked up, with links replaced. -/
def directoryOf (tree : FileTree F) (working : Location) (path : Path) : Location :=
  (tree.realFrom (tree.realWithin (tree.linkCount + 1)) []
    (if path.isAbsolute then [] else working) path.parts.dropLast).names

/-- The last name of a path stands for itself: it is neither dots nor the name of a link. -/
structure NamesItself (tree : FileTree F) (working : Location) (path : Path) : Prop where
  isEntryName : IsEntryName path.name
  no_link : ∀ target,
    tree.entryAt (tree.directoryOf working path ++ [path.name]) ≠ some (.link target)

/-- Where the last name of a path stands for itself, the resolved path has it too. -/
theorem name_real {working : Location} {path : Path} (hpath : path.IsProper)
    (h : tree.NamesItself working path) : (tree.real working path).name = path.name := by
  have hlast : path.parts.getLast? = some path.name := by
    cases hparts : path.parts.getLast? with
    | none =>
      have hempty := h.isEntryName.1.1
      rw [Path.name, hparts] at hempty
      exact absurd rfl hempty
    | some last => rw [Path.name, hparts]; rfl
  have hparts : path.parts = path.parts.dropLast ++ [path.name] :=
    (List.dropLast_append_getLast? _ hlast).symm
  have hnames : "" ∉ path.parts.dropLast := fun hmem =>
    (hpath "" (List.dropLast_subset _ hmem)).1 rfl
  have hreal := names_realFrom_concat hnames h.isEntryName h.no_link
  rw [← hparts] at hreal
  rw [Path.name, real]
  dsimp only
  rw [hreal, collapse_concat h.isEntryName, List.getLast?_concat]
  rfl

end FileTree

namespace Plugin

open Digest (isDigestDigit)

variable {F : Type} {host : Host F}

/-! ## Words and names -/

/-- The word for a stem is not empty, and all of its characters can stand in a word. -/
theorem wordStem_spec (stem : String) :
    (wordStem stem).toList ≠ []
    ∧ ∀ c ∈ (wordStem stem).toList, Text.isWordCharacter c = true := by
  unfold wordStem
  dsimp only
  split
  · exact ⟨by decide, List.all_eq_true.mp (by decide)⟩
  next hword =>
    rw [String.toList_ofList]
    refine ⟨by simpa using hword, fun c hc => ?_⟩
    obtain ⟨d, -, rfl⟩ := List.mem_map.mp hc
    split
    · assumption
    · decide

/-- A name consists of the fixed part, twelve hexadecimal digits and a word, with low lines between
them. -/
structure IsPluginName (name : String) (digits word : List Char) : Prop where
  text : name.toList = "_runcheckers_plugin".toList ++ '_' :: digits ++ '_' :: word
  length_digits : digits.length = 12
  digits : ∀ c ∈ digits, isDigestDigit c = true
  nonempty : word ≠ []
  word : ∀ c ∈ word, Text.isWordCharacter c = true

/-- Such a name has no dot in it. -/
theorem IsPluginName.dotless {name : String} {digits word : List Char}
    (h : IsPluginName name digits word) : '.' ∉ name.toList := by
  rw [h.text]
  intro hmem
  rcases List.mem_append.mp hmem with hmem | hmem
  · rcases List.mem_append.mp hmem with hmem | hmem
    · exact absurd hmem (by decide)
    · rcases List.mem_cons.mp hmem with heq | hmem
      · cases heq
      · exact absurd (h.digits _ hmem) (by decide)
  · rcases List.mem_cons.mp hmem with heq | hmem
    · cases heq
    · exact absurd (h.word _ hmem) (by decide)

/-- The name that is made for a path has the shape of a plugin's name. -/
theorem nameFor_isPluginName (resolved path : Path) :
    IsPluginName (nameFor resolved path)
      ((Digest.sha1 (Text.encodeUtf8 resolved.text)).take shownDigits)
      (wordStem path.stem).toList where
  text := by
    have hfixed : namePart.toList = "_runcheckers_plugin".toList ++ ['_'] := by decide
    rw [nameFor]
    simp only [String.toList_append, String.toList_ofList, hfixed, List.append_assoc]
    rfl
  length_digits := by
    rw [List.length_take, Digest.length_sha1]
    rfl
  digits c hc := Digest.isDigestDigit_of_mem_sha1 (List.mem_of_mem_take hc)
  nonempty := (wordStem_spec path.stem).1
  word := (wordStem_spec path.stem).2

/-- Names with the same digits are the same exactly if their words are. -/
theorem nameFor_eq_iff {resolved path other : Path} :
    nameFor resolved path = nameFor resolved other ↔ wordStem path.stem = wordStem other.stem := by
  constructor
  · intro h
    have htext := congrArg String.toList h
    rw [(nameFor_isPluginName resolved path).text, (nameFor_isPluginName resolved other).text]
      at htext
    exact String.toList_injective (List.cons.inj (List.append_cancel_left htext)).2
  · intro h
    rw [nameFor, nameFor, h]

/-! ## Paths to plugins -/

/-- A path has a name if and only if it has a resolved form, from which the name is made. -/
theorem nameOf_eq_ok_iff {path : Path} {name : String} :
    nameOf host path = .ok name
      ↔ ∃ resolved, host.resolve path = .ok resolved ∧ nameFor resolved path = name :=
  map_eq_ok_iff

/-- Where the last name of a path stands for itself, the name of the plugin comes from the resolved
path alone. -/
theorem nameOf_of_namesItself {path resolved : Path} (hpath : path.IsProper)
    (hself : host.tree.NamesItself host.working path) (h : host.resolve path = .ok resolved) :
    nameOf host path = .ok (nameFor resolved resolved) := by
  have hname : path.name = resolved.name := by
    rw [← FileTree.name_real hpath hself, Host.real_of_resolve h]
  refine nameOf_eq_ok_iff.mpr ⟨resolved, h, nameFor_eq_iff.mpr ?_⟩
  rw [Path.stem, Path.stem, hname]

/-- A plugin is registered under the name for the path that its reference gives. -/
theorem nameOf_of_locatePlugin {host : Host SourceFile} {reference name : String}
    {source : PluginSource} (h : locatePlugin host reference = .ok (name, source)) :
    ∃ path, host.expandHome (Path.ofText reference) = .ok path ∧ nameOf host path = .ok name := by
  unfold locatePlugin at h
  cases hhome : host.expandHome (Path.ofText reference) with
  | error fault => simp [hhome, bind, Except.bind] at h
  | ok path =>
    cases hsource : sourceAt host reference path with
    | error fault => simp [hhome, hsource, bind, Except.bind] at h
    | ok found =>
      cases hname : nameOf host path with
      | error fault => simp [hhome, hsource, hname, bind, Except.bind] at h
      | ok found' =>
        simp only [hhome, hsource, hname, bind, Except.bind] at h
        split at h
        · cases h
          exact ⟨path, rfl, hname⟩
        · cases h

/-- **Names of plugins.** A path has a name exactly if it can be resolved, and the plugin of a
reference is registered under the name of its path. Two paths with the same resolved form have the
same name exactly if the words for their own stems are the same; where the last name of a path is
neither dots nor that of a link, its name comes from the resolved path alone, so there is one name
for all such paths to a plugin. Every name is the fixed part, twelve hexadecimal digits and a word,
with low lines between them and without a dot; an object counts as defined under it exactly if it
stands at the top of the dotted name of the object's owner, and the name of no other plugin lies
below it. -/
theorem nameOf_accounts (host : Host SourceFile) :
    (∀ path fault, nameOf host path = .error fault ↔ host.resolve path = .error fault)
    ∧ (∀ reference name source, locatePlugin host reference = .ok (name, source) →
        ∃ path, host.expandHome (Path.ofText reference) = .ok path ∧ nameOf host path = .ok name)
    ∧ (∀ path other resolved, host.resolve path = .ok resolved →
        host.resolve other = .ok resolved →
        ∃ name name', nameOf host path = .ok name ∧ nameOf host other = .ok name'
          ∧ (name = name' ↔ wordStem path.stem = wordStem other.stem))
    ∧ (∀ path resolved, path.IsProper → host.tree.NamesItself host.working path →
        host.resolve path = .ok resolved → nameOf host path = .ok (nameFor resolved resolved))
    ∧ ∀ path name, nameOf host path = .ok name →
        (∃ digits word, IsPluginName name digits word) ∧ '.' ∉ name.toList
        ∧ (∀ object, Registry.isDefinedUnder object (.text name) = true
            ↔ ∃ owner, object.owner = .text owner ∧ LoadFailure.topPackage owner = name)
        ∧ ∀ other name', nameOf host other = .ok name' →
            LoadFailure.isWithin name' name = true → name' = name := by
  have hshape {path : Path} {name : String} (h : nameOf host path = .ok name) :
      ∃ digits word, IsPluginName name digits word := by
    obtain ⟨resolved, -, rfl⟩ := nameOf_eq_ok_iff.mp h
    exact ⟨_, _, nameFor_isPluginName resolved path⟩
  refine ⟨fun path fault => ?_, fun reference name source => nameOf_of_locatePlugin,
    fun path other resolved hpath hother => ?_,
    fun path resolved hpath hself => nameOf_of_namesItself hpath hself,
    fun path name hname => ?_⟩
  · rw [nameOf]
    cases host.resolve path <;> simp [Except.map]
  · exact ⟨_, _, nameOf_eq_ok_iff.mpr ⟨resolved, hpath, rfl⟩,
      nameOf_eq_ok_iff.mpr ⟨resolved, hother, rfl⟩, nameFor_eq_iff⟩
  · obtain ⟨digits, word, hplugin⟩ := hshape hname
    have hdotless := hplugin.dotless
    refine ⟨⟨digits, word, hplugin⟩, hdotless, fun object => ?_, fun other name' hother hwithin => ?_⟩
    · cases howner : object.owner <;>
        simp [Registry.isDefinedUnder, howner, LoadFailure.isWithin_iff_topPackage hdotless]
    · obtain ⟨digits', word', hplugin'⟩ := hshape hother
      -- A name without a dot is its own top.
      have htop := (LoadFailure.isWithin_iff_topPackage hplugin'.dotless).mp
        (LoadFailure.isWithin_iff.mpr (.inl rfl))
      rw [← htop, (LoadFailure.isWithin_iff_topPackage hdotless).mp hwithin]

/-- A host with a plugin file and a link to it. -/
def aliasHost : Host SourceFile :=
  ⟨⟨[(["w"], .directory), (["w", "rules.py"], .file ⟨[], none, none⟩),
    (["w", "alias.py"], .link "rules.py")]⟩, ["w"], ⟨.root, ["w"]⟩, .standard⟩

/-- The name for a path, if it can be resolved. -/
def nameAt? (host : Host SourceFile) (path : String) : Option String :=
  (nameOf host (Path.ofText path)).toOption

/-- The resolved form of a path, if there is one. -/
def resolvedAt? (host : Host SourceFile) (path : String) : Option String :=
  (host.resolve (Path.ofText path)).toOption.map Path.text

/-- A path with a detour in it has the name of the path without it. -/
theorem detour_has_same_name :
    resolvedAt? aliasHost "/w/rules.py" = resolvedAt? aliasHost "/w/../w/rules.py"
    ∧ nameOf aliasHost (Path.ofText "/w/rules.py")
      = nameOf aliasHost (Path.ofText "/w/../w/rules.py") := by
  have hname (path : Path) (hpath : path.IsProper) (hlast : path.name = "rules.py")
      (hplace : aliasHost.tree.directoryOf ["w"] path = ["w"])
      (hresolve : aliasHost.resolve path = .ok (Path.ofText "/w/rules.py")) :
      nameOf aliasHost path
        = .ok (nameFor (Path.ofText "/w/rules.py") (Path.ofText "/w/rules.py")) := by
    have hentry : aliasHost.tree.entryAt ["w", "rules.py"] = some (.file ⟨[], none, none⟩) := rfl
    refine (nameOf_accounts aliasHost).2.2.2.1 path _ hpath ⟨by rw [hlast]; decide, ?_⟩ hresolve
    intro target htarget
    rw [hlast] at htarget
    replace htarget : aliasHost.tree.entryAt (aliasHost.tree.directoryOf ["w"] path ++ ["rules.py"])
      = some (.link target) := htarget
    rw [hplace] at htarget
    cases hentry.symm.trans htarget
  refine ⟨by decide +kernel, ?_⟩
  rw [hname (Path.ofText "/w/rules.py") (Path.ofText_isProper _) rfl rfl rfl,
    hname (Path.ofText "/w/../w/rules.py") (Path.ofText_isProper _) rfl rfl rfl]

/-- A link and the file that it leads to are one plugin and have two names. -/
theorem link_has_another_name :
    resolvedAt? aliasHost "/w/rules.py" = some "/w/rules.py"
    ∧ resolvedAt? aliasHost "/w/alias.py" = some "/w/rules.py"
    ∧ nameAt? aliasHost "/w/rules.py" = some "_runcheckers_plugin_f09a0948e5aa_rules"
    ∧ nameAt? aliasHost "/w/alias.py" = some "_runcheckers_plugin_f09a0948e5aa_alias"
    ∧ nameAt? aliasHost "/w/rules.py" ≠ nameAt? aliasHost "/w/alias.py" := by
  decide +kernel

end Plugin

end WorkspaceLint
