import WorkspaceLint.Digest.Sha1
import WorkspaceLint.FileTree.Host
import WorkspaceLint.Text.Utf8
import WorkspaceLint.Text.WordCharacter

/-!
# Names of plugin modules

A plugin that is loaded from a file is registered under a name made of a fixed part, the beginning
of the digest of its resolved path, and the stem of its path. The digest tells plugins with the same
stem apart and is the same for every path to one file; the name is a word without dots, so no other
module lies below it but those of the plugin itself.
-/

namespace WorkspaceLint.Plugin

/-- The fixed part of the names. -/
def namePart : String := "_runcheckers_plugin_"

/-- A stem with a low line in the place of every character that cannot stand in a word. -/
def wordStem (stem : String) : String :=
  let word := stem.toList.map fun c => if Text.isWordCharacter c then c else '_'
  if word.isEmpty then "module" else String.ofList word

/-- The number of digits of the digest that a name shows. -/
def shownDigits : Nat := 12

/-- The name for the plugin at a path with the given resolved form. -/
def nameFor (resolved path : Path) : String :=
  let digest := (Digest.sha1 (Text.encodeUtf8 resolved.text)).take shownDigits
  namePart ++ String.ofList digest ++ "_" ++ wordStem path.stem

/-- The name for the plugin at a path. -/
def nameOf {F : Type} (host : Host F) (path : Path) : Except Fault String :=
  (host.resolve path).map fun resolved => nameFor resolved path

end WorkspaceLint.Plugin
