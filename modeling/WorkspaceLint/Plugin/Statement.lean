import WorkspaceLint.Checker.Script

/-!
# Plugin modules

A plugin is a module that defines checker classes. A module is written here as the statements that
its execution carries out, as far as they matter for which checkers it provides: definitions,
bindings of names, imports, and faults.
-/

namespace WorkspaceLint

/-- How a parameter of a constructor takes its argument. -/
inductive ParameterKind where
  | positional
  | positionalOnly
  | variadic
  | variadicNamed
  | named
  deriving Repr, DecidableEq, Inhabited

/-- A parameter of a constructor. -/
structure Parameter where
  name : String
  kind : ParameterKind
  hasDefault : Bool
  deriving Repr, DecidableEq, Inhabited

/-- What the signature of something that can be called shows: nothing, if it is hidden, or
parameters. -/
inductive Signature where
  | hidden
  | shown (parameters : List Parameter)
  deriving Repr, DecidableEq, Inhabited

/-- A constructor: its parameters, the fault that it raises, if it does, and its signature, if that
shows anything else than its parameters. -/
structure Constructor where
  parameters : List Parameter
  fault : Option Fault
  signature : Option Signature
  deriving Repr, Inhabited

/-- The definition of a class. Without a base the class is no checker; `script` defines what it
checks, `abstractMethods` and `methods` name what it leaves open and what it defines besides. A
signature that is defined stands before that of any constructor. -/
structure ClassDefinition where
  name : String
  base : Option String
  script : Option CheckScript
  abstractMethods : List String
  methods : List String
  displayName : Option String
  owner : Option Value
  init : Option Constructor
  signature : Option Signature
  deriving Repr, Inhabited

/-- One statement of a plugin module. -/
inductive Statement where
  | defineClass (definition : ClassDefinition)
  | defineFunction (name : String)
  | declareExports (names : Value)
  | bindAlias (name target : String)
  | bindValue (name : String) (value : Value)
  | bindInstance (name target : String)
  | unbind (name : String)
  | importModule (target : String)
  | importNames (target : String) (names : List String)
  | raise (fault : Fault)
  | malformed
  deriving Repr, Inhabited

end WorkspaceLint
