import WorkspaceLint.Analysis.Pool
import WorkspaceLint.CommandLine.Run
import WorkspaceLint.Snapshot.Plugins
import WorkspaceLint.Snapshot.Tree

/-!
# Environments in a snapshot

A snapshot holds all that a command finds around it: the file tree and the installed plugins. The
units of a project complete in the order in which a pool of workers completes them.
-/

namespace WorkspaceLint.Snapshot

/-- The environment that a snapshot describes, in a base directory. -/
def environmentOf (base : Location) (json : Json) : CommandLine.Environment :=
  ⟨hostOf base (json.get "tree"), installedAt json, Pool.order⟩

end WorkspaceLint.Snapshot
