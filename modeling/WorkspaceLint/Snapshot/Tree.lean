import WorkspaceLint.Snapshot.Script
import WorkspaceLint.SourceFile

/-!
# File trees in a snapshot

A file tree is an object with an entry for each path below the base directory. The directories on
the way to an entry need no entries of their own. The base directory is the working directory and
the home directory as well.
-/

namespace WorkspaceLint.Snapshot

/-- The entry that an object or a text describes. -/
def entryOf (json : Json) : Entry SourceFile :=
  match json with
  | .text contents => .file ⟨Text.encodeUtf8 contents, none, none⟩
  | json =>
    if (json.get "dir").isTrue then .directory
    else match (json.get "link").text? with
      | some target => .link target
      | none =>
        let problem := (json.get "parse").text?
        match json.get? "module", json.get? bytesKey with
        | some body, _ => .file ⟨[], problem, some (statementsOf body)⟩
        | none, some digits =>
          .file ⟨bytesOfDigits (digits.text?.getD "").toList, problem, none⟩
        | none, none => .file ⟨Text.encodeUtf8 (json.textAt "text"), problem, none⟩

/-- The locations of the directories on the way to a location. -/
def waysTo (location : Location) : List Location :=
  (List.range (location.length - 1)).map fun count => location.take (count + 1)

/-- The file tree that an object describes, below a base directory. -/
def treeOf (base : Location) (json : Json) : FileTree SourceFile :=
  let entries := json.members.map fun member =>
    (base ++ (Path.ofText member.1).parts, entryOf member.2)
  let ways := (base :: entries.flatMap fun entry => waysTo entry.1).eraseDups
  let missing := ways.filter fun way => !entries.any fun entry => entry.1 == way
  ⟨missing.map (fun way => (way, .directory)) ++ entries⟩

/-- The host with a file tree below a base directory, on the standard platform. -/
def hostOf (base : Location) (tree : Json) : Host SourceFile :=
  ⟨treeOf base tree, base, ⟨.root, base⟩, .standard⟩

end WorkspaceLint.Snapshot
