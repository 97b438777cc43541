import WorkspaceLint.Plugin.Execution
import WorkspaceLint.Plugin.LoadFailure

/-!
# Checkers of loaded modules

A module exports objects: those it lists, or, where it lists nothing, those it binds to public names
and defines itself or in one of its submodules. The exported classes of checkers that can be made
are the checkers it provides, each once, in the order in which they are exported; each is made
without arguments.

## Shape of the errors

`PluginFault.configuration` is what the caller is told to expect of a checker that cannot be made,
and `PluginFault.failure` of a plugin that cannot be loaded. Other faults pass through as they are:
`PluginFault.escaped` holds them.
-/

namespace WorkspaceLint

/-- Why checkers could not be provided. -/
inductive PluginFault where
  | failure (failure : LoadFailure)
  | configuration (checker reason : String)
  | escaped (fault : Fault)
  deriving Repr, Inhabited

/-- The account of a checker that could not be made. -/
def configurationMessage (checker reason : String) : String :=
  "Checker " ++ checker ++ " could not be instantiated: " ++ reason

/-- Work on plugins that changes a session and may end in a fault. -/
abbrev Providing := ExceptT PluginFault (StateM Session)

namespace Registry

/-! ## Exports -/

/-- The fault of exporting an object that holds no names. -/
def notIterable (object : PluginObject) : Fault :=
  .withMessage "TypeError" ("'" ++ object.kindName ++ "' object is not iterable")

/-- The common classes of containers without a value to stand for what they make. -/
def containerNames : List String := ["bytearray", "bytes", "frozenset", "set", "tuple", "zip"]

/-- The items of an object that stands for several. What a call of a class of containers without
arguments makes is empty. -/
def itemsOf? : PluginObject → Option (List Value)
  | .value declared => Fault.itemsOf? declared
  | .exemplar type => if type.isCommon && containerNames.contains type.name then some [] else none
  | _ => none

/-- What a list of exports holds: the items of an object that stands for several. -/
def listedItems (declared : PluginObject) : Except Fault (List Value) :=
  match itemsOf? declared with
  | some items => .ok items
  | none => .error (notIterable declared)

/-- The fault of looking for what a module binds under something else than a name. -/
def noMemberName (item : Value) : Fault :=
  .withMessage "TypeError" ("attribute name must be string, not '" ++ item.kindName ++ "'")

/-- The objects of a module under listed names; names that it does not bind are passed over. -/
def listedObjects (module : PluginModule) : List Value → Except Fault (List PluginObject)
  | [] => .ok []
  | .text name :: names =>
    (listedObjects module names).map fun objects => (module.lookup name).toList ++ objects
  | item :: _ => .error (noMemberName item)

/-- Whether an object belongs to the module with the given name for itself or to one below it. -/
def isDefinedUnder (object : PluginObject) (name : Value) : Bool :=
  match object.owner, name with
  | .text owner, .text module => LoadFailure.isWithin owner module
  | .text owner, other => (other.displayedText ++ ".").toList.isPrefixOf owner.toList
  | _, _ => false

/-- The objects that a module defines and binds to public names, in the order of its bindings. A
module with public names has to have a name for itself. -/
def publicObjects (module : PluginModule) : Except Fault (List PluginObject) :=
  match module.publicBindings.map (·.2), module.ownName? with
  | [], _ => .ok []
  | objects, some name => .ok (objects.filter fun object => isDefinedUnder object name)
  | _, none => .error (module.unknownMember PluginModule.nameKey)

/-- The objects that a module exports, in the order of its exports. -/
def exportedObjects (module : PluginModule) : Except Fault (List PluginObject) :=
  match module.lookup PluginModule.exportsKey with
  | none => publicObjects module
  | some (.value .null) => publicObjects module
  | some declared => (listedItems declared).bind (listedObjects module)

/-- Classes without repetitions; of equal ones the first stays. -/
def distinct : List PluginClass → List PluginClass
  | [] => []
  | type :: types => type :: (distinct types).filter fun other => other.number != type.number

/-- The classes of checkers that a module provides. -/
def checkerClasses (module : PluginModule) : Except Fault (List PluginClass) :=
  (exportedObjects module).map fun objects =>
    distinct (objects.filterMap PluginObject.concreteChecker?)

/-! ## Making checkers -/

/-- Makes something of an object by calling it without arguments. When its signature shows a
parameter without an argument, it is not called at all. -/
def makeOf (object : PluginObject) : Providing PluginObject := fun session =>
  match object.requiredParameters with
  | [] =>
    match Plugin.callObject object session with
    | (.ok made, session) => (.ok made, session)
    | (.error fault, session) =>
      if fault.isOrdinary then (.error (.configuration object.description fault.summary), session)
      else (.error (.escaped fault), session)
  | required =>
    (.error (.configuration object.description
      ("constructor requires arguments: " ++ ", ".intercalate required)), session)

/-- Makes a checker of a class. -/
def makeChecker (type : PluginClass) : Providing PluginClass := do
  discard (makeOf (.classObject type))
  return type

/-- Makes checkers of classes, up to the first that cannot be made. -/
def makeCheckers : List PluginClass → Providing (List PluginClass)
  | [] => return []
  | type :: types => do
    let checker ← makeChecker type
    return checker :: (← makeCheckers types)

/-- Makes the checkers that a module provides. -/
def discover (handle : Nat) : Providing (List PluginClass) := do
  match checkerClasses ((← get).module handle) with
  | .error fault => throw (.escaped fault)
  | .ok types => makeCheckers types

/-! ## Several sources -/

/-- Why an object provides no checkers. -/
def noCheckerReason : String := "entry point does not provide a concrete Checker"

/-- The classes of checkers that several objects provide: those of a module, and those that are
given themselves. -/
def sourceClasses (session : Session) : List PluginObject → Except PluginFault (List PluginClass)
  | [] => .ok []
  | .module handle :: sources =>
    match checkerClasses (session.module handle) with
    | .error fault => .error (.escaped fault)
    | .ok types => (sourceClasses session sources).map (types ++ ·)
  | source :: sources =>
    match source.concreteChecker? with
    | some type => (sourceClasses session sources).map (type :: ·)
    | none => .error (.configuration source.description noCheckerReason)

/-- Makes the checkers that several objects provide, each class once. -/
def discoverMany (sources : List PluginObject) : Providing (List PluginClass) := do
  match sourceClasses (← get) sources with
  | .error fault => throw fault
  | .ok types => makeCheckers (distinct types)

/-! ## Checkers for a run -/

/-- The checkers of classes for a run: each has a number of its own. -/
def runnable (types : List PluginClass) : List (Checker Counters) :=
  types.zipIdx.map fun (type, number) => .ofScript number type.shownName type.checks

end Registry

end WorkspaceLint
