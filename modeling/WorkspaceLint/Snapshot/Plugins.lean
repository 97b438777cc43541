import WorkspaceLint.Plugin.Loading
import WorkspaceLint.Snapshot.Script

/-!
# Installed plugins in a snapshot

The installed entry points are an object with a list of entries, the group they belong to, and the
kind of the container. An entry holds a module, a module and the name of one of its members, a plain
value, or the fault that loading it raises.
-/

namespace WorkspaceLint.Snapshot

open WorkspaceLint.Plugin (EntryPoint EntryTarget Installed)

/-- What the entry point that an object describes leads to. -/
def targetOf (json : Json) : EntryTarget :=
  match json.get? "module", json.get? "raise" with
  | some module, _ =>
    let name := module.textAt "name"
    let statements := statementsOf (module.get "body")
    match (json.get "attr").text? with
    | some member => .member name statements member
    | none => .module name statements
  | none, some error => .raise (faultOf error)
  | none, none => .value (valueAt json "object")

/-- The entry point that an object describes. -/
def entryPointOf (json : Json) : EntryPoint := ⟨json.textAt "value", targetOf json⟩

/-- The container of entry points that an object describes. -/
def installedOf (json : Json) : Installed :=
  ⟨textOr json "group" Plugin.checkerGroup, (json.get "container").text? = some "opaque",
    (json.get "entries").items.map entryPointOf⟩

/-- The container of entry points that a member describes, if there is one. -/
def installedAt (json : Json) : Installed :=
  ((json.get? "installed").map installedOf).getD .nothing

end WorkspaceLint.Snapshot
