import WorkspaceLint.Fault.Calling
import WorkspaceLint.Plugin.Statement

/-!
# Classes, objects and modules of plugins

Executing a plugin module gives its names objects: classes, what was made of a class, functions,
plain values and other modules. Two classes may have the same name, in one module or in several, so
a class has a number that no other class of the session has.

A session is everything that loading plugins changes: the modules there are, the table of those that
are loaded under a name, and the classes of which a constructor has run.
-/

namespace WorkspaceLint

/-! ## Classes -/

/-- A class as far as it matters here, with what it inherits. `openMethods` are those it leaves
open, so that it cannot be made, `init` is its constructor with the name of the class that defines
it, and `signature` is the signature that is defined for it, if one is. -/
structure PluginClass where
  number : Nat
  name : String
  owner : Value
  isChecker : Bool
  openMethods : List String
  script : Option CheckScript
  displayName : Option String
  init : Option (String × Constructor)
  signature : Option Signature
  deriving Repr, Inhabited

namespace PluginClass

/-- The method by which a checker checks a unit. -/
def checkMethod : String := "check"

/-- The property that gives a checker's display name. -/
def nameProperty : String := "name"

/-- The method that is a class's constructor. -/
def constructorMethod : String := "__init__"

/-- The module that provides the class of all checkers. -/
def checkerOwner : String := "runcheckers.checkers"

/-- The number of the classes that are there before any plugin is loaded. -/
def givenNumber : Nat := 0

/-- The class of all checkers, which leaves open what is checked. -/
def checker : PluginClass :=
  ⟨givenNumber, "Checker", .text checkerOwner, true, [checkMethod], none, none, none, none⟩

/-- A class of a module that is there before any plugin is loaded, and of which nothing matters but
its name. -/
def given (owner name : String) : PluginClass :=
  ⟨givenNumber, name, .text owner, false, [], none, none, none, none⟩

/-- The module that provides the names that are known everywhere. -/
def commonOwner : String := "builtins"

/-- A class that refines nothing and does nothing. -/
def plain : PluginClass := given commonOwner "object"

/-- Whether a class is one of those that are known everywhere. -/
def isCommon (type : PluginClass) : Bool :=
  type.number == givenNumber && type.owner == .text commonOwner

/-- Whether a class is one of checkers that can be made. -/
def isConcreteChecker (type : PluginClass) : Bool :=
  type.isChecker && type.number != givenNumber && type.openMethods.isEmpty

/-- The display name of a checker of a class. -/
def shownName (type : PluginClass) : String := type.displayName.getD type.name

/-- The name of a class with that of the module it belongs to. -/
def qualifiedName (type : PluginClass) : String := type.owner.displayedText ++ "." ++ type.name

/-- What a checker of a class checks. -/
def checks (type : PluginClass) : CheckScript := type.script.getD .nothing

/-! ### Definitions -/

/-- What the definition of a class defines. -/
def definedMethods (definition : ClassDefinition) : List String :=
  (if definition.script.isSome then [checkMethod] else []) ++ definition.methods
    ++ (if definition.displayName.isSome then [nameProperty] else [])
    ++ (if definition.init.isSome then [constructorMethod] else [])

/-- The script that a definition gives: a check that is named without a script does nothing. -/
def definedScript (definition : ClassDefinition) : Option CheckScript :=
  match definition.script with
  | some script => some script
  | none => if definition.methods.contains checkMethod then some .nothing else none

/-- The methods that a class with the given base and definition leaves open: those that its base or
the definition itself declares to be open and the definition does not define. -/
def openMethodsOf (base : PluginClass) (definition : ClassDefinition) : List String :=
  if !base.isChecker then []
  else
    let declared := (base.openMethods ++ definition.abstractMethods).eraseDups
    (declared.filter fun method => !(definedMethods definition).contains method).mergeSort
      fun a b => decide (a ≤ b)

/-- The constructor of a class with the given base and definition. One that is defined like any
other method asks for no arguments and does nothing. -/
def initOf (base : PluginClass) (definition : ClassDefinition) : Option (String × Constructor) :=
  match definition.init with
  | some init => some (definition.name, init)
  | none => if definition.methods.contains constructorMethod then none else base.init

/-- The class with a base and a definition, in a module of the given name. -/
def define (number : Nat) (moduleName : Value) (base : PluginClass)
    (definition : ClassDefinition) : PluginClass where
  number := number
  name := definition.name
  owner := definition.owner.getD moduleName
  isChecker := base.isChecker
  openMethods := openMethodsOf base definition
  script := definedScript definition <|> base.script
  displayName := definition.displayName <|> base.displayName
  init := initOf base definition
  signature := definition.signature <|> base.signature

/-! ### Constructors -/

/-- The parameters that a call without arguments leaves open, of the kinds that are given. -/
def openParameters (kinds : List ParameterKind) (parameters : List Parameter) : List String :=
  (parameters.filter fun parameter =>
    !parameter.hasDefault && kinds.contains parameter.kind).map Parameter.name

/-- What the signature of a class shows. One that is defined comes first, then that of the
constructor. -/
def shownSignature (type : PluginClass) : Signature :=
  match type.signature, type.init with
  | some signature, _ => signature
  | none, some (_, init) => init.signature.getD (.shown init.parameters)
  | none, none => .shown []

/-- The parameters of a class that need an argument, as its signature shows them. A class that hides
its signature shows none. -/
def requiredParameters (type : PluginClass) : List String :=
  match type.shownSignature with
  | .hidden => []
  | .shown parameters => openParameters [.positional, .positionalOnly, .named] parameters

/-- The name of the constructor that a class defines. -/
def constructorName (definer : String) : String := definer ++ "." ++ constructorMethod

/-- The fault of making something of a class that leaves methods open. -/
def openClass (type : PluginClass) : Fault :=
  .withMessage "TypeError" <| "Can't instantiate abstract class " ++ type.name
    ++ " with abstract method" ++ (if type.openMethods.length = 1 then " " else "s ")
    ++ ", ".intercalate type.openMethods

/-- Why a call without arguments does not reach the body of the constructor. -/
def refusal? (type : PluginClass) : Option Fault :=
  if !type.openMethods.isEmpty then some (openClass type)
  else match type.init with
    | none => none
    | some (definer, init) =>
      match openParameters [.positional, .positionalOnly] init.parameters,
          openParameters [.named] init.parameters with
      | [], [] => none
      | [], names => some (.missingArguments (constructorName definer) "keyword-only" names)
      | names, _ => some (.missingArguments (constructorName definer) "positional" names)

end PluginClass

/-! ## Objects and modules -/

/-- What a name of a plugin module stands for. A module is known by its place among the modules of
the session. Of an object of no other kind, `unknown`, nothing is known but that it is there. -/
inductive PluginObject where
  | classObject (type : PluginClass)
  | exemplar (type : PluginClass)
  | function (owner : Value) (name : String)
  | value (value : Value)
  | module (handle : Nat)
  | unknown
  deriving Repr, Inhabited

namespace PluginObject

/-- The module that an object says it belongs to. -/
def owner : PluginObject → Value
  | .classObject type => type.owner
  | .exemplar type => type.owner
  | .function owner _ => owner
  | .value _ => .null
  | .module _ => .null
  | .unknown => .null

/-- The name of the kind of the functions that are known everywhere. -/
def commonFunctionKind : String := "builtin_function_or_method"

/-- The name of an object's kind. -/
def kindName : PluginObject → String
  | .classObject type => if type.isChecker then "ABCMeta" else "type"
  | .exemplar type => type.name
  | .function (.text owner) _ =>
    if owner = PluginClass.commonOwner then commonFunctionKind else "function"
  | .function _ _ => "function"
  | .value content => content.kindName
  | .module _ => "module"
  | .unknown => "object"

/-- How an error message describes an object. -/
def description : PluginObject → String
  | .classObject type => type.qualifiedName
  | .exemplar type => "<" ++ type.qualifiedName ++ " object>"
  | .function _ name => "<function " ++ name ++ ">"
  | .value content => content.quotedText
  | .module _ => "<module>"
  | .unknown => "<object>"

/-- The parameters of an object that need an argument, as its signature shows them. -/
def requiredParameters : PluginObject → List String
  | .classObject type => type.requiredParameters
  | _ => []

/-- The fault of an object that has nothing under a name. -/
def noMember (described name : String) : Fault :=
  .withMessage "AttributeError" (described ++ " has no attribute " ++ Text.quoted name)

/-- The display name of an object, which only checkers and objects of classes that define one
have. -/
def shownName : PluginObject → Except Fault String
  | .exemplar type =>
    if type.isChecker || type.displayName.isSome then .ok type.shownName
    else .error (noMember (Text.quoted type.name ++ " object") PluginClass.nameProperty)
  | object => .error (noMember (Text.quoted object.kindName ++ " object") PluginClass.nameProperty)

/-- The class that an object is, if it is one of checkers that can be made. -/
def concreteChecker? : PluginObject → Option PluginClass
  | .classObject type => if type.isConcreteChecker then some type else none
  | _ => none

end PluginObject

/-- A module: the name under which it is made, the directories of its submodules if it is a package,
and what its names stand for, in the order in which they were first bound. -/
structure PluginModule where
  name : String
  search : Option (List Path)
  bindings : List (String × PluginObject)
  deriving Repr, Inhabited

namespace PluginModule

/-- The name that a module has for its own name. -/
def nameKey : String := "__name__"

/-- The name that a module has for the list of its exports. -/
def exportsKey : String := "__all__"

/-- What every module binds before it is executed. -/
def ownBindings (name : String) : List (String × PluginObject) :=
  (nameKey, .value (.text name))
    :: ["__doc__", "__package__", "__loader__", "__spec__"].map fun key => (key, .value .null)

/-- A module that is made without a file, before it is executed. -/
def fresh (name : String) : PluginModule := ⟨name, none, ownBindings name⟩

/-- The name that a package has for the directories of its submodules. -/
def searchKey : String := "__path__"

/-- The name that a module has for its file. -/
def fileKey : String := "__file__"

/-- A module that is in a file, before it is executed. -/
def ofFile (name : String) (search : Option (List Path)) : PluginModule :=
  let placeKeys := [fileKey, "__cached__"] ++ (if search.isSome then [searchKey] else [])
  ⟨name, search, ownBindings name ++ placeKeys.map fun key => (key, .unknown)⟩

/-- A package that is nothing but directories, and so is in no file. -/
def ofDirectories (name : String) (paths : List Path) : PluginModule :=
  ⟨name, some paths, ownBindings name ++ [(fileKey, .value .null), (searchKey, .unknown)]⟩

/-- What a name stands for in a module. -/
def lookup (module : PluginModule) (name : String) : Option PluginObject :=
  List.lookup name module.bindings

/-- Bindings with one of them set: in its old place where the name is bound already, else at the
end. -/
def setBinding (name : String) (object : PluginObject) :
    List (String × PluginObject) → List (String × PluginObject)
  | [] => [(name, object)]
  | binding :: bindings =>
    if binding.1 = name then (name, object) :: bindings
    else binding :: setBinding name object bindings

/-- A module with a name bound. -/
def bind (module : PluginModule) (name : String) (object : PluginObject) : PluginModule :=
  { module with bindings := setBinding name object module.bindings }

/-- A module without a name. -/
def unbind (module : PluginModule) (name : String) : PluginModule :=
  { module with bindings := module.bindings.filter fun binding => binding.1 != name }

/-- The name that a module has for itself, which its execution can change or take away. -/
def ownName? (module : PluginModule) : Option Value :=
  match module.lookup nameKey with
  | none => none
  | some (.value name) => some name
  | some _ => some .null

/-- The fault of a name that a module does not bind. -/
def unknownMember (module : PluginModule) (name : String) : Fault :=
  let described := match module.ownName? with
    | some (.text own) => "module " ++ Text.quoted own
    | _ => "module"
  PluginObject.noMember described name

/-- Whether a name is public. -/
def isPublic (name : String) : Bool := name.toList.head? != some '_'

/-- What a module binds to public names. -/
def publicBindings (module : PluginModule) : List (String × PluginObject) :=
  module.bindings.filter fun binding => isPublic binding.1

/-- The package that the relative imports of a module start at: the module itself if it is a
package, else the one that its name lies in. -/
def package (module : PluginModule) : String :=
  if module.search.isSome then module.name
  else
    let names := Text.splitAt '.' module.name.toList
    ".".intercalate (names.dropLast.map String.ofList)

end PluginModule

/-! ## Sessions -/

/-- What loading plugins changes. `created` names the classes whose constructors have run, in order.
-/
structure Session where
  modules : List PluginModule
  registered : List (String × Nat)
  nextClass : Nat
  created : List String
  deriving Repr, Inhabited

namespace Session

/-- The module with a handle. -/
def module (session : Session) (handle : Nat) : PluginModule :=
  session.modules[handle]?.getD default

/-- The handle of the module that is loaded under a name. -/
def handle? (session : Session) (name : String) : Option Nat := session.registered.lookup name

/-- A session with a changed module. -/
def change (session : Session) (handle : Nat) (f : PluginModule → PluginModule) : Session :=
  { session with modules := session.modules.modify handle f }

/-- A session with one more module, whose handle is the number of those before. -/
def add (session : Session) (module : PluginModule) : Session :=
  { session with modules := session.modules ++ [module] }

/-- A session with a module loaded under a name, in the place of any other. -/
def register (session : Session) (name : String) (handle : Nat) : Session :=
  { session with
    registered := (session.registered.filter fun entry => entry.1 != name) ++ [(name, handle)] }

/-- A session with no module loaded under a name. -/
def unregister (session : Session) (name : String) : Session :=
  { session with registered := session.registered.filter fun entry => entry.1 != name }

end Session

end WorkspaceLint
