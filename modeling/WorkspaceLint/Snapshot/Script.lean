import WorkspaceLint.Plugin.Statement
import WorkspaceLint.Snapshot.Value

/-!
# Check scripts and plugin modules in a snapshot

A plugin module is a list of objects, one for each statement, and a check script an object with its
actions and the way in which it hands over what they yield.
-/

namespace WorkspaceLint.Snapshot

/-! ## Check scripts -/

/-- The place that an object names: by a pair of numbers or by the attributes of a syntax node. -/
def spotOf (json : Json) : Spot :=
  match json.get? "node" with
  | some node => .node ((node.get? "lineno").map valueOf) ((node.get? "col_offset").map valueOf)
  | none => .pair (valuesOf (json.get "at").items)

/-- What an action does, by the word for it. -/
def deedOf (json : Json) : Deed :=
  match json.textAt "do" with
  | "raw" => .raw (entriesOf (json.get "finding").members)
  | "grep" => .search (json.textAt "needle")
  | "lines" => .eachLine (json.get "reverse").isTrue
  | "count" => .count
  | "yield" => .yieldValue (valueAt json "value")
  | "raise" => .raise (faultOf (json.get "error"))
  | _ => .emit (spotOf json)

/-- The text of a member, or a standard text where there is none. -/
def textOr (json : Json) (key standard : String) : String := ((json.get key).text?).getD standard

/-- The value of a member, or a standard text where there is none. -/
def valueOr (json : Json) (key standard : String) : Value :=
  ((json.get? key).map valueOf).getD (.text standard)

/-- The action that an object describes. -/
def actionOf (json : Json) : Action :=
  ⟨(json.get "when").text?, valueOr json "code" "C1", valueOr json "message" "msg", deedOf json⟩

/-- The check script that an object describes. -/
def scriptOf (json : Json) : CheckScript :=
  let actions := (json.get "do").items.map actionOf
  match textOr json "return" "generator" with
  | "list" => .allAtOnce actions
  | "none" => .nothing
  | "value" => .value (valueAt json "value")
  | "raise" => .raise (faultOf (json.get "error"))
  | _ => .oneByOne actions

/-! ## Plugin modules -/

/-- The kind of a parameter, by the word for it. -/
def parameterKindOf : String → ParameterKind
  | "posonly_last" => .positionalOnly
  | "args" => .variadic
  | "kwargs" => .variadicNamed
  | "kwonly" => .named
  | _ => .positional

/-- The parameter that an object describes. -/
def parameterOf (json : Json) : Parameter :=
  ⟨json.textAt "name", parameterKindOf (json.textAt "kind"), (json.get "default").isTrue⟩

/-- The constructor that the definition of a class describes, if there is one. -/
def constructorOf (json : Json) : Option Constructor :=
  if (json.get? "params").isSome || (json.get? "raises").isSome then
    some ⟨(json.get "params").items.map parameterOf,
      (json.get? "raises").bind fun error => if error.isNull then none else some (faultOf error),
      none⟩
  else none

/-- The signature that the definition of a class describes, if there is one: a hidden one, as is one
that is defined like a method. -/
def signatureOf (json : Json) : Option Signature :=
  if (json.get "bad_signature").isTrue || (json.textsAt "methods").contains "__signature__" then
    some .hidden
  else none

/-- The name of the base of a class: a checker unless it says otherwise, none for a plain class. -/
def baseOf (json : Json) : Option String :=
  match json.get? "base" with
  | none => some "Checker"
  | some (.text name) => if name = "object" then none else some name
  | some _ => none

/-- The class definition that an object describes. -/
def classOf (json : Json) : ClassDefinition :=
  ⟨json.textAt "name", baseOf json, (json.get? "check").map scriptOf, json.textsAt "abstract",
    json.textsAt "methods", (json.get "display").text?, (json.get? "module").map valueOf,
    constructorOf json, signatureOf json⟩

/-- The statement that an object describes. -/
def statementOf (json : Json) : Statement :=
  match json.textAt "st" with
  | "class" => .defineClass (classOf json)
  | "function" => .defineFunction (json.textAt "name")
  | "all" => .declareExports (valueAt json "names")
  | "alias" => .bindAlias (json.textAt "name") (json.textAt "of")
  | "assign" => .bindValue (json.textAt "name") (valueAt json "value")
  | "instance" => .bindInstance (json.textAt "name") (json.textAt "of")
  | "del" => .unbind (json.textAt "name")
  | "import" => .importModule (json.textAt "module")
  | "from" => .importNames (json.textAt "module") (json.textsAt "names")
  | "raise" => .raise (faultOf (json.get "error"))
  | _ => .malformed

/-- The statements of a plugin module. -/
def statementsOf (json : Json) : List Statement := json.items.map statementOf

end WorkspaceLint.Snapshot
