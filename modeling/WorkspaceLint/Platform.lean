import WorkspaceLint.Codec.Standard
import WorkspaceLint.Path.Basic

/-!
# Platforms

A platform is what a run takes from the system that it runs on, files apart: the home directories of
the users, the codecs, and how many calls may be made inside one another. The last is a limit that
no document and no file tree can be told from outside to keep to, so work that goes deeper ends in a
fault of its own.
-/

namespace WorkspaceLint

/-- Work on files that is done by calls inside one another: as many as a path has links that lead to
links, a pattern has parts, or a directory has levels below it. -/
inductive NestedWork where
  | resolving (path : Path)
  | matching (directory : Path) (pattern : String)
  | walking (directory : Path)
  deriving Repr, DecidableEq

/-- What a run takes from its system. `room` is the number of calls that may be made inside one
another while a document is read, and `shortage?` tells of other work that goes too deep, and in
which words. -/
structure Platform where
  homeOf : String → Option String
  codecs : CodecRegistry
  room : Nat
  shortage? : NestedWork → Option String

/-- The fault of calls that go too deep. -/
def shortageFault (message : String) : Fault := .withMessage "RecursionError" message

/-- The words for calls that go too deep. -/
def shortageText : String := "maximum recursion depth exceeded"

namespace Platform

/-- The room that the standard platform gives. -/
def standardRoom : Nat := 960

/-- The calls that each part of a pattern takes while it is matched. -/
def partCalls : Nat := 5

/-- What the standard platform finds too deep: patterns of many parts. No file tree is. -/
def standardShortage? : NestedWork → Option String
  | .matching _ pattern =>
    let path := Path.ofText pattern
    if !path.isAbsolute && standardRoom < partCalls * path.parts.length then some shortageText
    else none
  | .resolving _ | .walking _ => none

/-- The standard platform. It knows of no other users. -/
def standard : Platform := ⟨fun _ => none, .standard, standardRoom, standardShortage?⟩

end Platform

end WorkspaceLint
