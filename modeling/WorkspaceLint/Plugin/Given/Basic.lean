import WorkspaceLint.Plugin.Object

/-!
# Given modules

A plugin may import modules that no file of the tree provides: those of the standard library and
those of this program. Little of them matters: the names that they provide, and whether a name is
that of a class, of a function or of something else. The tables of the given modules stand in the
modules beside this one.

## Shape of a table

The names of one kind are the words of a text. A word may go on, after a colon, with the module in
which the object is defined and, after another colon, with the name that it has there; without them
the object is defined by the module itself under the same name.
-/

namespace WorkspaceLint

/-- A module that is there without a file, with the names that it provides: those of classes, those
of functions, and all others. -/
structure GivenModule where
  name : String
  isPackage : Bool
  classes : String
  functions : String
  others : String
  deriving Repr, DecidableEq, Inhabited

namespace GivenModule

/-- The words of a text. -/
def words (text : String) : List String :=
  ((Text.splitAt ' ' text.toList).filter fun word => !word.isEmpty).map String.ofList

/-- A provided name with the module that defines its object and the name there. -/
structure Provision where
  name : String
  owner : String
  definedName : String
  deriving Repr, DecidableEq, Inhabited

/-- What a word of a module says. -/
def provisionOf (module word : String) : Provision :=
  match (Text.splitAt ':' word.toList).map String.ofList with
  | [name, owner] => ⟨name, owner, name⟩
  | [name, owner, definedName] => ⟨name, owner, definedName⟩
  | _ => ⟨word, module, word⟩

/-- The class that a module defines under a name: that of all checkers, or one of which nothing
matters. -/
def classOf (owner name : String) : PluginClass :=
  if owner = PluginClass.checkerOwner && name = PluginClass.checker.name then PluginClass.checker
  else .given owner name

/-- What a given module binds. -/
def bindings (module : GivenModule) : List (String × PluginObject) :=
  let provisions (text : String) : List Provision := (words text).map (provisionOf module.name)
  (provisions module.classes).map (fun provision =>
      (provision.name, .classObject (classOf provision.owner provision.definedName)))
    ++ (provisions module.functions).map (fun provision =>
      (provision.name, .function (.text provision.owner) provision.definedName))
    ++ (words module.others).map (fun name => (name, .unknown))

/-- A given module as plugins see it. As a package it has no directories, so that the only modules
below it are given ones. -/
def toModule (module : GivenModule) : PluginModule :=
  let start := PluginModule.ofFile module.name (if module.isPackage then some [] else none)
  { start with bindings := start.bindings ++ module.bindings }

end GivenModule

end WorkspaceLint
