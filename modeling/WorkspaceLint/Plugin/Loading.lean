import WorkspaceLint.Plugin.Name
import WorkspaceLint.Plugin.Registry

/-!
# Loading plugins

A plugin is referred to by a path, to a file or to the directory of a package, or by a dotted module
name. A reference counts as a path when it holds a slash, ends like a module file, or leads to
something that is there. A plugin from a file is registered under its own name, so that it does not
take the place of any other module; when its execution fails, that name is free again.

Installed plugins come from a container of entry points besides the one that the user refers to.
They are loaded before any checker is made.
-/

namespace WorkspaceLint

namespace Plugin

/-! ## References -/

/-- The two ways to load a module. -/
inductive LoaderKind where
  | file
  | dottedName
  deriving Repr, DecidableEq, Inhabited

/-- Whether a text ends with another. -/
def endsWith (text ending : String) : Bool := ending.toList.isSuffixOf text.toList

/-- Whether a reference is one to a path. -/
def looksLikePath (host : Host SourceFile) (reference : String) : Except Fault Bool :=
  if reference.toList.contains '/' || endsWith reference moduleSuffix then .ok true
  else host.exists? (Path.ofText reference)

/-- The way to load what a reference refers to. -/
def loaderFor (host : Host SourceFile) (reference : String) : Except Fault LoaderKind :=
  (looksLikePath host reference).map fun isPath => if isPath then .file else .dottedName

/-! ## Files -/

/-- The file that is executed for a plugin, and the directories of its submodules if it is a
package. -/
structure PluginSource where
  location : Path
  search : Option (List Path)
  deriving Repr, Inhabited

/-- What is executed for the plugin at a path that a reference leads to. -/
def sourceAt (host : Host SourceFile) (reference : String) (path : Path) :
    Except Fault PluginSource := do
  if ← host.isDirectory? path then
    let location := path.child packageFile
    if ← host.isFile? location then return ⟨location, some [path]⟩
    else throw (.ofSystem 2 ("no " ++ packageFile ++ " in analyzer directory") reference)
  else if ← host.isFile? path then return ⟨path, none⟩
  else throw (.ofSystem 2 "No such file or directory" reference)

/-- The fault of a file that is not one of a module. -/
def noModuleFile (reference : String) : Fault :=
  .withMessage "ImportError" ("cannot build an import spec for " ++ reference)

/-- The name under which a plugin is registered, and what is executed for it. -/
def locatePlugin (host : Host SourceFile) (reference : String) :
    Except Fault (String × PluginSource) := do
  let path ← host.expandHome (Path.ofText reference)
  let source ← sourceAt host reference path
  let name ← nameOf host path
  if endsWith source.location.text moduleSuffix then return (name, source)
  else throw (noModuleFile reference)

/-- Loads the plugin at a path. -/
def loadFile (host : Host SourceFile) (reference : String) : Loading Nat := do
  let (name, source) ← locatePlugin host reference
  let handle ← addModule (.ofFile name source.search)
  executeRegistered name handle (runFile host (importName host) handle source.location)
  return handle

/-! ## Dotted names -/

/-- The fault of a relative name that nothing says what it is relative to. -/
def relativeReference (reference : String) : Fault :=
  .withMessage "TypeError" <|
    "the 'package' argument is required to perform a relative import for " ++ Text.quoted reference

/-- Loads the plugin of a dotted name. -/
def loadByName (host : Host SourceFile) (reference : String) : Loading Nat :=
  if reference.toList.head? = some '.' then throw (relativeReference reference)
  else importName host reference

/-! ## Faults -/

/-- What a fault of loading an artifact is for the user. -/
def loadFault (artifact : String) (fault : Fault) : PluginFault :=
  if !fault.isOrdinary then .escaped fault
  else match LoadFailure.classify fault artifact with
    | some failure => .failure failure
    | none => .escaped fault

/-- Loading with its faults as they are for the user. -/
def told {α : Type} (artifact : String) (work : Loading α) : Providing α := fun session =>
  match work session with
  | (.ok value, session) => (.ok value, session)
  | (.error fault, session) => (.error (loadFault artifact fault), session)

/-- Loads the plugin that a reference refers to. -/
def loadPlugin (host : Host SourceFile) (reference : String) : Providing Nat := do
  match loaderFor host reference with
  | .error fault => throw (.escaped fault)
  | .ok .file => told reference (loadFile host reference)
  | .ok .dottedName => told reference (loadByName host reference)

/-! ## Installed plugins -/

/-- What an entry point leads to. -/
inductive EntryTarget where
  | module (name : String) (statements : List Statement)
  | member (name : String) (statements : List Statement) (member : String)
  | value (value : Value)
  | raise (fault : Fault)
  deriving Repr, Inhabited

/-- An entry point: how it is written, and what it leads to. -/
structure EntryPoint where
  reference : String
  target : EntryTarget
  deriving Repr, Inhabited

/-- The group of the entry points for checkers. -/
def checkerGroup : String := "runcheckers.checkers"

/-- A container of installed entry points, all of one group. A sealed one cannot be asked for a
group. -/
structure Installed where
  group : String
  isSealed : Bool
  entries : List EntryPoint
  deriving Repr, Inhabited

namespace Installed

/-- The container that holds nothing. -/
def nothing : Installed := ⟨checkerGroup, false, []⟩

/-- The entry points of a group. -/
def select (installed : Installed) (group : String) : List EntryPoint :=
  if !installed.isSealed && installed.group = group then installed.entries else []

end Installed

/-- Makes a module that is not registered. -/
def makeModule (host : Host SourceFile) (name : String) (statements : List Statement) :
    Loading Nat := do
  let handle ← addModule (.fresh name)
  runModule (importName host) handle statements
  return handle

/-- Loads what an entry point leads to. -/
def loadTarget (host : Host SourceFile) : EntryTarget → Loading PluginObject
  | .module name statements => do
    return .module (← makeModule host name statements)
  | .member name statements member => do
    let handle ← makeModule host name statements
    let module ← moduleOf handle
    match module.lookup member with
    | some object => return object
    | none => throw (module.unknownMember member)
  | .value value => return .value value
  | .raise fault => throw fault

/-- Loads what entry points lead to, up to the first that cannot be loaded. -/
def loadEntries (host : Host SourceFile) : List EntryPoint → Providing (List PluginObject)
  | [] => return []
  | entry :: entries => do
    let object ← told entry.reference (loadTarget host entry.target)
    return object :: (← loadEntries host entries)

/-! ## Checkers -/

/-- Loads the plugin that a reference refers to, and those that are installed if they are asked for,
and makes their checkers. -/
def loadCheckers (host : Host SourceFile) (installed : Installed) (withInstalled : Bool)
    (reference : String) : Providing (List PluginClass) := do
  let handle ← loadPlugin host reference
  if withInstalled then
    let objects ← loadEntries host (installed.select checkerGroup)
    Registry.discoverMany (.module handle :: objects)
  else Registry.discover handle

end Plugin

end WorkspaceLint
