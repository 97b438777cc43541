import WorkspaceLint.Plugin.Given.Lookup
import WorkspaceLint.SourceFile

/-!
# Execution of plugin modules

A plugin module is executed statement by statement. Its definitions and bindings change the module,
its imports load other modules, and a fault ends it.

## Shape of an import

A module is registered under its dotted name before its file is executed and unregistered when that
fails; what its execution loaded stays loaded. Importing a dotted name loads the package that it
lies in first. An import inside a module leads to the execution of another module, so the execution
takes the importing of names as a parameter, and `importWithin` supplies it for a limited depth of
modules that import one another. A tree has only so many files, and a module that is being imported
is registered, so the limit for a tree is never reached before the tree runs out of modules.
-/

namespace WorkspaceLint

/-- Work that changes a session and may end in a fault. -/
abbrev Loading := ExceptT Fault (StateM Session)

/-- How a dotted name becomes the handle of a loaded module. -/
abbrev Importer := String → Loading Nat

namespace Plugin

/-! ## Modules of a session -/

/-- The module with a handle. -/
def moduleOf (handle : Nat) : Loading PluginModule := do
  return (← get).module handle

/-- The handle of the module that is loaded under a name. -/
def loaded? (name : String) : Loading (Option Nat) := do
  return (← get).handle? name

/-- Adds a module to the session. -/
def addModule (module : PluginModule) : Loading Nat := do
  let session ← get
  set (session.add module)
  return session.modules.length

/-- Binds a name of a module. -/
def bindName (handle : Nat) (name : String) (object : PluginObject) : Loading Unit :=
  modify fun session => session.change handle fun module => module.bind name object

/-- The number of a new class. -/
def newClassNumber : Loading Nat := do
  let session ← get
  set { session with nextClass := session.nextClass + 1 }
  return session.nextClass

/-! ## Objects -/

/-- The fault of a name that stands for nothing. -/
def unknownName (name : String) : Fault :=
  .withMessage "NameError" ("name " ++ Text.quoted name ++ " is not defined")

/-- What a name stands for in the text of a module: what the module binds, else what the name stands
for everywhere. -/
def objectOf (handle : Nat) (name : String) : Loading PluginObject := do
  match (← moduleOf handle).lookup name <|> GivenModule.commonObject? name with
  | some object => return object
  | none => throw (unknownName name)

/-- What a module provides under a name: what it binds, else the module loaded below its name. -/
def providedObject? (source : Nat) (name : String) : Loading (Option PluginObject) := do
  let module ← moduleOf source
  match module.lookup name with
  | some object => return some object
  | none => return (← loaded? (module.name ++ "." ++ name)).map .module

/-- What an object has under a name. -/
def memberOf (object : PluginObject) (name : String) : Loading PluginObject := do
  match object with
  | .module handle =>
    match ← providedObject? handle name with
    | some member => return member
    | none => throw ((← moduleOf handle).unknownMember name)
  | .unknown => return .unknown
  | .classObject type =>
    throw (PluginObject.noMember ("type object " ++ Text.quoted type.name) name)
  | object => throw (PluginObject.noMember (Text.quoted object.kindName ++ " object") name)

/-- What an object has under a path of names. -/
def memberAt (object : PluginObject) : List String → Loading PluginObject
  | [] => return object
  | name :: names => do memberAt (← memberOf object name) names

/-- What a dotted name stands for in the text of a module. -/
def dottedObject (handle : Nat) (dotted : String) : Loading PluginObject := do
  match (Text.splitAt '.' dotted.toList).map String.ofList with
  | [] => throw (unknownName dotted)
  | name :: names => memberAt (← objectOf handle name) names

/-- Calls a class without arguments, which runs its constructor if it has one. -/
def makeInstance (type : PluginClass) : Loading Unit := do
  match type.refusal? with
  | some fault => throw fault
  | none =>
    match type.init with
    | none => return
    | some (_, init) =>
      modify fun session => { session with created := session.created ++ [type.name] }
      match init.fault with
      | some fault => throw fault
      | none => return

/-- What the common classes of values make when they are called without arguments. -/
def emptyValues : List (String × Value) :=
  [("bool", .bool false), ("int", .int 0), ("str", .text ""), ("list", .list []),
    ("dict", .table [])]

/-- What a class makes when it is called without arguments. -/
def madeOf (type : PluginClass) : PluginObject :=
  if type.isCommon then
    ((emptyValues.lookup type.name).map PluginObject.value).getD (.exemplar type)
  else .exemplar type

/-- Calls an object without arguments. -/
def callObject : PluginObject → Loading PluginObject
  | .classObject type => do
    makeInstance type
    return madeOf type
  | .function _ _ => return .value .null
  | .unknown => return .unknown
  | object =>
    throw (.withMessage "TypeError" ("'" ++ object.kindName ++ "' object is not callable"))

/-- The common classes that no class can refine. -/
def finalNames : List String := ["bool", "memoryview", "range", "slice"]

/-- What is wrong with an object that is to be refined. It is treated as a class of classes, which
makes the new class from three arguments. -/
def refinementProblem : PluginObject → String
  | .value .null => "NoneType takes no arguments"
  | .value (.int _) => "int() takes at most 2 arguments (3 given)"
  | .value (.text _) => "str() argument 'encoding' must be str, not tuple"
  | .function owner name =>
    let kind := (PluginObject.function owner name).kindName
    if kind = PluginObject.commonFunctionKind then
      "cannot create " ++ Text.quoted kind ++ " instances"
    else "function() argument 'code' must be code, not str"
  | .module _ => "module() takes at most 2 arguments (3 given)"
  | .exemplar type => type.name ++ "() takes no arguments"
  | object => object.kindName ++ " expected at most 1 argument, got 3"

/-- The class that a definition refines. -/
def baseOf (handle : Nat) (definition : ClassDefinition) : Loading PluginClass := do
  match definition.base with
  | none => return .plain
  | some name =>
    match ← dottedObject handle name with
    | .classObject type =>
      if type.isCommon && finalNames.contains type.name then
        throw (.withMessage "TypeError"
          ("type " ++ Text.quoted type.name ++ " is not an acceptable base type"))
      else return type
    | .unknown => return .plain
    | object => throw (.withMessage "TypeError" (refinementProblem object))

/-! ## Statements -/

/-- The fault of a name that a module does not provide. -/
def unknownImport (module name : String) : Fault :=
  .standard "ImportError"
    [.text ("cannot import name " ++ Text.quoted name ++ " from " ++ Text.quoted module)]
    (some module)

/-- The absolute name of an import that starts with dots: one dot stands for the given package, and
each further one for the package that the one before lies in. -/
def absoluteName (package target : String) : Except Fault String :=
  let level := (target.toList.takeWhile (· = '.')).length
  if level = 0 then .ok target
  else if package = "" then
    .error (.withMessage "ImportError" "attempted relative import with no known parent package")
  else
    let names := Text.splitAt '.' package.toList
    if names.length < level then
      .error (.withMessage "ImportError" "attempted relative import beyond top-level package")
    else
      let kept := ".".intercalate ((names.take (names.length - (level - 1))).map String.ofList)
      let rest := String.ofList (target.toList.drop level)
      .ok (if rest = "" then kept else kept ++ "." ++ rest)

/-- Imports a submodule of a package in the place of a name that the package does not bind. That
there is no such submodule is found out later, when the name is looked up. -/
def importSubmodule (importer : Importer) (package name : String) : Loading Unit := do
  let full := package ++ "." ++ name
  try discard (importer full)
  catch fault =>
    if fault.isA "ModuleNotFoundError" && fault.importName == some full then return
    else throw fault

/-- Imports those of the given names that a package does not bind. -/
def importSubmodules (importer : Importer) (source : Nat) : List String → Loading Unit
  | [] => return
  | name :: names => do
    let package ← moduleOf source
    if (package.lookup name).isNone then importSubmodule importer package.name name
    importSubmodules importer source names

/-- Binds names of a module to what another module provides under them. -/
def bindImports (handle source : Nat) : List String → Loading Unit
  | [] => return
  | name :: names => do
    match ← providedObject? source name with
    | some object => bindName handle name object
    | none => throw (unknownImport (← moduleOf source).name name)
    bindImports handle source names

/-! ### Importing everything -/

/-- The sign that stands for all names that a module exports. -/
def everything : String := "*"

/-- The fault of a list of exports that holds something else than names. -/
def noExportName (module : PluginModule) (item : Value) : Fault :=
  .withMessage "TypeError" <| "Item in " ++ (module.ownName?.getD .null).displayedText ++ "."
    ++ PluginModule.exportsKey ++ " must be str, not " ++ item.kindName

/-- The items of a list of exports. A text stands for its characters. -/
def exportItems (isPackage : Bool) : PluginObject → Except Fault (List Value)
  | .value (.list items) => .ok items
  | .value (.text names) => .ok (names.toList.map fun c => .text (String.ofList [c]))
  | .value (.table _) => .error (.withMessage "TypeError" "dict is not a sequence")
  | object =>
    .error <| .withMessage "TypeError" <| "'" ++ object.kindName ++ "' object "
      ++ (if isPackage then "is not iterable" else "does not support indexing")

/-- Binds names of a module to what another module binds to them. -/
def bindExports (handle source : Nat) : List Value → Loading Unit
  | [] => return
  | .text name :: items => do
    let module ← moduleOf source
    match module.lookup name with
    | some object => bindName handle name object
    | none => throw (module.unknownMember name)
    bindExports handle source items
  | item :: _ => do throw (noExportName (← moduleOf source) item)

/-- The names among the items of a list of exports, which has to hold nothing else. -/
def exportNames (module : PluginModule) : List Value → Except Fault (List String)
  | [] => .ok []
  | .text name :: items => (exportNames module items).map (name :: ·)
  | item :: _ => .error (noExportName module item)

/-- Binds what a module exports: the names that it lists, or else its public names. Of a package,
the listed submodules are imported first. -/
def importEverything (importer : Importer) (handle source : Nat) : Loading Unit := do
  let module ← moduleOf source
  match module.lookup PluginModule.exportsKey with
  | none =>
    for binding in module.publicBindings do
      bindName handle binding.1 binding.2
  | some declared => do
    let items ← exportItems module.search.isSome declared
    if module.search.isSome then
      importSubmodules importer source (← exportNames module items)
    bindExports handle source items

/-! ### Single statements -/

/-- The fault of a module with a statement that makes no sense. -/
def malformedStatement : Fault := .withMessage "SyntaxError" "invalid syntax"

/-- Whether parameters can stand in their order: no two have the same name, and of those that take
their arguments by position none without a default stands behind one with a default. -/
def areInOrder : List Parameter → Bool
  | [] => true
  | parameter :: parameters =>
    let isPositional (other : Parameter) : Bool :=
      [ParameterKind.positional, .positionalOnly].contains other.kind
    let clashes (other : Parameter) : Bool :=
      other.name = parameter.name
        || (isPositional parameter && parameter.hasDefault && isPositional other
          && !other.hasDefault)
    !parameters.any clashes && areInOrder parameters

/-- Whether a statement keeps a module from being executed at all: a malformed one does, and so does
a choice among the features of the language, which would have to come before the class that a module
starts with. -/
def preventsExecution : Statement → Bool
  | .importNames target _ => target = "__future__"
  | .defineClass definition =>
    definition.init.any fun init => !areInOrder init.parameters
  | statement => statement.isMalformed

/-- Carries out one statement of a module. -/
def runStatement (importer : Importer) (handle : Nat) : Statement → Loading Unit
  | .defineClass definition => do
    let base ← baseOf handle definition
    let number ← newClassNumber
    let owner := (← moduleOf handle).ownName?.getD (.text PluginClass.commonOwner)
    bindName handle definition.name (.classObject (.define number owner base definition))
  | .defineFunction name => do
    bindName handle name (.function ((← moduleOf handle).ownName?.getD .null) name)
  | .declareExports names => bindName handle PluginModule.exportsKey (.value names)
  | .bindAlias name target => do bindName handle name (← dottedObject handle target)
  | .bindValue name value => bindName handle name (.value value)
  | .bindInstance name target => do
    bindName handle name (← callObject (← dottedObject handle target))
  | .unbind name => do
    if ((← moduleOf handle).lookup name).isNone then throw (unknownName name)
    modify fun session => session.change handle fun module => module.unbind name
  | .importModule target => do
    discard (importer target)
    let top := String.ofList (target.toList.takeWhile (· ≠ '.'))
    bindName handle top (.module (← importer top))
  | .importNames target names => do
    let name ← absoluteName (← moduleOf handle).package target
    let source ← importer name
    if names = [everything] then importEverything importer handle source
    else
      if (← moduleOf source).search.isSome then importSubmodules importer source names
      bindImports handle source names
  | .raise fault => throw fault
  | .malformed => throw malformedStatement

/-- Carries out the statements of a module. -/
def runStatements (importer : Importer) (handle : Nat) : List Statement → Loading Unit
  | [] => return
  | statement :: statements => do
    runStatement importer handle statement
    runStatements importer handle statements

/-- Carries out a module, which starts with the class of all checkers. -/
def runModule (importer : Importer) (handle : Nat) (statements : List Statement) :
    Loading Unit := do
  if statements.any preventsExecution then throw malformedStatement
  bindName handle Session.checkerName (.classObject PluginClass.checker)
  runStatements importer handle statements

/-! ## Files -/

/-- The problems of a parser that are faults of their own class rather than ones of the source. -/
def ownProblems : List String := ["ValueError", "MemoryError", "RecursionError"]

/-- The fault of a file that a parser has a problem with. -/
def problemFault (problem : String) : Fault :=
  match ownProblems.find? fun name => (name ++ ": ").toList.isPrefixOf problem.toList with
  | some name =>
    .withMessage name (String.ofList (problem.toList.drop (name.toList.length + 2)))
  | none => .withMessage "SyntaxError" problem

/-- Why a file cannot be executed, or its statements. -/
def statementsOf (codecs : CodecRegistry) (file : SourceFile) : Except Fault (List Statement) :=
  match SourceText.ofBytes codecs file.bytes with
  | .error _ | .ok (.illFormed _) => .error (.withMessage "SyntaxError" "undecodable source")
  | .ok (.text _) =>
    match file.parseProblem with
    | some problem => .error (problemFault problem)
    | none => .ok (file.statements.getD [])

/-- Executes the file at a path as a module. -/
def runFile (host : Host SourceFile) (importer : Importer) (handle : Nat) (path : Path) :
    Loading Unit := do
  let file ← host.readFile path
  runModule importer handle (← statementsOf host.platform.codecs file)

/-! ## Finding modules -/

/-- The name of the file that makes a directory a package. -/
def packageFile : String := "__init__.py"

/-- The suffix of files that are modules. -/
def moduleSuffix : String := ".py"

/-- Where a module is: in a file, with the directory of its submodules if it is a package, among the
given modules, or nowhere but in directories. -/
inductive ModulePlace where
  | file (path : Path) (search : Option (List Path))
  | given (module : GivenModule)
  | directories (paths : List Path)
  deriving Repr, Inhabited

/-- Whether a path leads to a file, as far as that can be told. -/
def leadsToFile (host : Host SourceFile) (path : Path) : Bool :=
  (host.isFile? path).toOption.getD false

/-- Whether a path leads to a directory, as far as that can be told. -/
def leadsToDirectory (host : Host SourceFile) (path : Path) : Bool :=
  (host.isDirectory? path).toOption.getD false

/-- The names that a directory holds; where there is no directory, none. -/
def namesAt (host : Host SourceFile) (directory : Path) : List String :=
  match host.tree.locate host.working directory with
  | .ok location => host.tree.namesIn location
  | .error _ => []

/-- Where a directory holds a module under the last part of its name: a package comes before a file,
and a file before a bare directory. -/
def placeIn (host : Host SourceFile) (directory : Path) (tail : String) : Option ModulePlace :=
  let names := namesAt host directory
  let base := directory.child tail
  let file := directory.child (tail ++ moduleSuffix)
  if names.contains tail && leadsToFile host (base.child packageFile) then
    some (.file (base.child packageFile) (some [base]))
  else if names.contains (tail ++ moduleSuffix) && leadsToFile host file then some (.file file none)
  else if names.contains tail && leadsToDirectory host base then some (.directories [base])
  else none

/-- Of two places the one that counts: the first, unless it is bare directories and the second is
more than that. Bare directories count together. -/
def ModulePlace.merge : ModulePlace → ModulePlace → ModulePlace
  | .directories bases, .directories further => .directories (bases ++ further)
  | .directories _, place => place
  | place, _ => place

/-- Where several directories hold a module: in the first of them that has a file of it. -/
def placeAmong (host : Host SourceFile) (tail : String) (directories : List Path) :
    Option ModulePlace :=
  (directories.map fun directory => placeIn host directory tail).foldr
    (Option.merge ModulePlace.merge) none

/-- Where a module is that lies in no package. -/
def topPlace (host : Host SourceFile) (name : String) : Option ModulePlace :=
  let builtIn := (GivenModule.findBuiltIn? name).map ModulePlace.given
  let provided := placeAmong host name [⟨.root, host.working⟩]
  let given := (GivenModule.find? name).map ModulePlace.given
  builtIn <|> Option.merge ModulePlace.merge provided given

/-- Where a module is that lies in a package with the given directories. A given package has none.
-/
def placeWithin (host : Host SourceFile) (directories : List Path) (name tail : String) :
    Option ModulePlace :=
  if directories.isEmpty then (GivenModule.find? name).map ModulePlace.given
  else placeAmong host tail directories

/-! ## Importing -/

/-- The fault of a module that is not found. -/
def moduleNotFound (name reason : String) : Fault :=
  .standard "ModuleNotFoundError"
    [.text ("No module named " ++ Text.quoted name ++ reason)] (some name)

/-- Where the module of a dotted name is, the last part of which is `tail`. -/
def placeOf (host : Host SourceFile) (parent : Option Nat) (name tail : String) :
    Loading ModulePlace := do
  let place ← match parent with
    | none => pure (topPlace host name)
    | some handle =>
      let package ← moduleOf handle
      match package.search with
      | some directories => pure (placeWithin host directories name tail)
      | none =>
        throw (moduleNotFound name ("; " ++ Text.quoted package.name ++ " is not a package"))
  match place with
  | some place => return place
  | none => throw (moduleNotFound name "")

/-- Executes a module that was just added under its name; when that fails the name is free again. -/
def executeRegistered (name : String) (handle : Nat) (execution : Loading Unit) : Loading Unit := do
  modify fun session => session.register name handle
  try execution
  catch fault =>
    modify fun session => session.unregister name
    throw fault

/-- Adds a module under its name, which needs no execution. -/
def addRegistered (module : PluginModule) : Loading Nat := do
  let handle ← addModule module
  modify fun session => session.register module.name handle
  return handle

/-- Loads the module of the given dotted name, the last part of which is `tail`, and binds it in the
package it lies in. -/
def loadModule (host : Host SourceFile) (importer : Importer) (parent : Option Nat)
    (name tail : String) : Loading Nat := do
  let handle ← match ← placeOf host parent name tail with
    | .given module => addRegistered module.toModule
    | .directories paths => addRegistered (.ofDirectories name paths)
    | .file path search => do
      let handle ← addModule (.ofFile name search)
      executeRegistered name handle (runFile host importer handle path)
      pure handle
  match parent with
  | none => return handle
  | some package =>
    bindName package tail (.module handle)
    return handle

/-- Imports a dotted name whose parts are given from the last to the first: what is loaded already
under the longest beginning of the name is used, and the rest is loaded part by part. -/
def importParts (host : Host SourceFile) (importer : Importer) : List String → Loading Nat
  | [] => throw (.withMessage "ValueError" "Empty module name")
  | tail :: parents => do
    let name := ".".intercalate (tail :: parents).reverse
    match ← loaded? name with
    | some handle => return handle
    | none =>
      if parents.isEmpty then loadModule host importer none name tail
      else
        let parent ← importParts host importer parents
        match ← loaded? name with
        | some handle => return handle
        | none => loadModule host importer (some parent) name tail

/-- The parts of a dotted name, from the last to the first. -/
def reversedParts (name : String) : List String :=
  ((Text.splitAt '.' name.toList).map String.ofList).reverse

/-- The importer for modules that import one another at most to the given depth. -/
def importWithin (host : Host SourceFile) : (depth : Nat) → Importer
  | 0 => fun _ => throw (.withMessage "RecursionError" "maximum recursion depth exceeded")
  | depth + 1 => fun name => importParts host (importWithin host depth) (reversedParts name)

/-- A depth that no modules of a tree reach: each file can be reached under its own name and through
the links that are followed on one path. -/
def importDepth (host : Host SourceFile) : Nat :=
  (host.tree.entries.length + 2) * (FileTree.mostLinks + 1)

/-- Imports a dotted name. -/
def importName (host : Host SourceFile) : Importer := importWithin host (importDepth host)

end Plugin

end WorkspaceLint
