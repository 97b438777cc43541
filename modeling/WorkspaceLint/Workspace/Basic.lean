import WorkspaceLint.Fault.Calling
import WorkspaceLint.Finding
import WorkspaceLint.Path.Basic
import WorkspaceLint.Text.Lines

/-!
# Workspaces

A workspace is a descriptor file with its projects, and a project a member's descriptor with its
source units. A unit turns the places that a checker names into locations: a mapper shifts them, for
sources that were generated from other files, and the identity mapper leaves them alone.
-/

namespace WorkspaceLint

/-! ## Places and mappers -/

/-- A place as a checker names it: a pair of numbers, or the position of a syntax node, whose line
counts from one and whose offset counts from zero. Neither part of a node need be known. -/
inductive Spot where
  | pair (numbers : List Value)
  | node (line offset : Option Value)
  deriving Repr, Inhabited

/-- How the places of a source file are mapped to where its author looks for them. -/
inductive PositionMapper where
  | identity
  | shift (lines columns : Int) (path : Option String)
  deriving Repr, DecidableEq, Inhabited

/-- A number moved by a distance; what is no number stays. -/
def shiftBy (distance : Int) : Value → Value
  | .int number => .int (number + distance)
  | .bool value => .int ((if value then 1 else 0) + distance)
  | value => value

namespace PositionMapper

/-- The location of a line and a column of a path. -/
def locate (mapper : PositionMapper) (path : String) (line column : Value) :
    Validated SourceLocation :=
  match mapper with
  | .identity => SourceLocation.ofPosition path line column
  | .shift lines columns other =>
    SourceLocation.ofPosition (other.getD path) (shiftBy lines line) (shiftBy columns column)

end PositionMapper

namespace Spot

/-- Why a place has no line and column. -/
def pairFault (count : Nat) : Fault :=
  Fault.withMessage "ValueError" <|
    if count < 2 then "not enough values to unpack (expected 2, got " ++ toString count ++ ")"
    else "too many values to unpack (expected 2)"

/-- The column at an offset: one more. -/
def columnAfter : Value → Except Fault Value
  | .int offset => .ok (.int (offset + 1))
  | .bool offset => .ok (.int ((if offset then 1 else 0) + 1))
  | .text _ => .error (.withMessage "TypeError" "can only concatenate str (not \"int\") to str")
  | .list _ => .error (.withMessage "TypeError" "can only concatenate list (not \"int\") to list")
  | .float offset => .ok (.float (offset.addInt 1))
  | offset => .error <| .withMessage "TypeError" <|
    "unsupported operand type(s) for +: '" ++ offset.kindName ++ "' and 'int'"

/-- The line and the column of a place. -/
def position : Spot → Except Fault (Value × Value)
  | .pair [line, column] => .ok (line, column)
  | .pair numbers => .error (pairFault numbers.length)
  | .node line offset =>
    match columnAfter (offset.getD (.int 0)) with
    | .error fault => .error fault
    | .ok column => .ok (line.getD (.int 1), column)

end Spot

/-- Why there is no location of a place in a unit, or no finding at it: a fault, or issues with a
record. -/
inductive PlaceFault where
  | raised (fault : Fault)
  | invalid (issues : List Issue) (record : String)
  deriving Repr, Inhabited

/-- The fault that a place without a location or a finding amounts to. -/
def PlaceFault.toFault : PlaceFault → Fault
  | .raised fault => fault
  | .invalid issues record => Fault.ofIssues issues record

namespace PositionMapper

/-- The name of the function by which the identity mapper maps a place. -/
def identityFunction : String := "IdentityPositionMapper.map"

/-- What a mapper is asked about a place, in this order. -/
def parameters : List String := ["path", "line", "column"]

/-- What the identity mapper makes of any arguments: the location of a path, a line and a column.
The mapper itself counts as one more argument. -/
def identityCall : List Value → Except PlaceFault SourceLocation
  | [path, line, column] =>
    (SourceLocation.ofEntries [("path", path), ("line", line), ("column", column)]).mapError
      fun issues => .invalid issues SourceLocation.recordName
  | arguments =>
    .error <| .raised <|
      if arguments.length < parameters.length then
        .missingArguments identityFunction "positional" (parameters.drop arguments.length)
      else .surplusArguments identityFunction (parameters.length + 1) (arguments.length + 1)

end PositionMapper

/-! ## Units, projects, workspaces -/

/-- One source file. -/
structure SourceUnit where
  path : String
  source : List Char
  mapper : PositionMapper
  deriving Repr, DecidableEq, Inhabited

namespace SourceUnit

/-- The location of a place in a unit. -/
def locate (unit : SourceUnit) (spot : Spot) : Except PlaceFault SourceLocation :=
  match spot.position with
  | .error fault => .error (.raised fault)
  | .ok (line, column) =>
    (unit.mapper.locate unit.path line column).mapError fun issues =>
      .invalid issues SourceLocation.recordName

/-- A finding at a place in a unit. -/
def finding (unit : SourceUnit) (spot : Spot) (code message : Value) :
    Except PlaceFault Finding :=
  (unit.locate spot).bind fun location =>
    (Finding.ofLocation location code message).mapError fun issues =>
      .invalid issues Finding.recordName

/-- The lines of a unit's source, as they are displayed. -/
def lines (unit : SourceUnit) : List (List Char) := Text.displayedLines unit.source

end SourceUnit

/-- A member of a workspace: the path of its descriptor, its directory and its units. -/
structure Project where
  path : String
  root : String
  units : List SourceUnit
  deriving Repr, DecidableEq, Inhabited

namespace Project

/-- The name of a project's directory. -/
def name (project : Project) : String := (Path.ofText project.root).name

/-- The paths of the units that a project owns. -/
def unitPaths (project : Project) : List String := project.units.map (·.path)

/-- Whether a path is that of a unit that the project owns. -/
def owns (project : Project) (path : String) : Bool := project.unitPaths.contains path

/-- The distinct paths of a project's units in order. -/
def sortedUnitPaths (project : Project) : List String :=
  (project.unitPaths.mergeSort fun a b => decide (a ≤ b)).eraseDups

end Project

/-- The scope of a run: a descriptor, its directory and its projects in order. -/
structure Workspace where
  path : String
  root : String
  projects : List Project
  deriving Repr, DecidableEq, Inhabited

end WorkspaceLint
