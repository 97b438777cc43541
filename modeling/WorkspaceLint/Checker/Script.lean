import WorkspaceLint.Checker.Basic

/-!
# Check scripts

A check script describes what a checker does on a visit: a list of actions, each of which yields
findings, raises a fault or yields something else. An action may be confined to units by the end of
their path. The script also says in which way the checker hands over what it yields: one by one, in
which case nothing after a stray value is carried out, or in a list that is complete before anyone
looks at it.
-/

namespace WorkspaceLint

/-- What one action of a script does. -/
inductive Deed where
  | emit (spot : Spot)
  | raw (entries : List (String × Value))
  | search (needle : String)
  | eachLine (reversed : Bool)
  | count
  | yieldValue (value : Value)
  | raise (fault : Fault)
  deriving Repr, Inhabited

/-- One action of a script: what it does, on the units whose path ends in `pathEnd` if that is
given, with the code and the message of its findings, which have to be texts when it comes to a
finding. -/
structure Action where
  pathEnd : Option String
  code : Value
  message : Value
  deed : Deed
  deriving Repr, Inhabited

/-- How a checker hands over what its script yields. -/
inductive Delivery where
  | oneByOne (actions : List Action)
  | allAtOnce (actions : List Action)
  | nothing
  | value (value : Value)
  | raise (fault : Fault)
  deriving Repr, Inhabited

/-- A check script. -/
abbrev CheckScript := Delivery

/-- How often each checker, which is known by its number, has carried out a counting action. The
counting actions of one script share the count of its checker. -/
abbrev Counters := List (Nat × Nat)

namespace Counters

/-- How often a checker has counted. -/
def timesOf (counters : Counters) (checker : Nat) : Nat := (List.lookup checker counters).getD 0

/-- Counts once more for a checker. -/
def tick (counters : Counters) (checker : Nat) : Counters :=
  (checker, counters.timesOf checker + 1) :: counters.filter fun entry => entry.1 != checker

end Counters

/-! ## Searching lines -/

/-- The position at which a text first occurs in another, counted from the given one. -/
def positionFrom (needle : List Char) (position : Nat) (input : List Char) : Option Nat :=
  if needle.isPrefixOf input then some position
  else match input with
    | [] => none
    | _ :: rest => positionFrom needle (position + 1) rest

/-- The numbers and the characters of a unit's lines. -/
def numberedLines (unit : SourceUnit) : List (Nat × List Char) :=
  (unit.lines.zipIdx 1).map fun entry => (entry.2, entry.1)

/-! ## Actions -/

/-- Findings made one after another, up to the first that cannot be made. -/
def visitOf : List (Except Fault Finding) → Visit
  | [] => .empty
  | .error fault :: _ => .raising fault
  | .ok finding :: rest => (Visit.mk [finding] .finished).followedBy (visitOf rest)

/-- A finding at a line and a column of a unit. -/
def findingAt (unit : SourceUnit) (line column : Nat) (code message : Value) :
    Except Fault Finding :=
  (unit.finding (.pair [.int line, .int column]) code message).mapError PlaceFault.toFault

namespace Action

/-- Whether an action is carried out on a unit. -/
def concerns (action : Action) (unit : SourceUnit) : Bool :=
  match action.pathEnd with
  | none => true
  | some pathEnd => pathEnd.toList.isSuffixOf unit.path.toList

/-- The fault that an action's fault arrives as: within an iteration, the request to stop iterating
is an error. -/
def arrivingFault (fault : Fault) : Fault :=
  if fault.isA "StopIteration" then .withMessage "RuntimeError" "generator raised StopIteration"
  else fault

/-- What an action yields on a unit, when its checker has counted up to the given number. -/
def perform (action : Action) (unit : SourceUnit) (times : Nat) : Visit :=
  match action.deed with
  | .emit spot =>
    visitOf [(unit.finding spot action.code action.message).mapError PlaceFault.toFault]
  | .raw entries =>
    visitOf [(Finding.ofEntries entries).mapError fun issues =>
      Fault.ofIssues issues Finding.recordName]
  | .search needle =>
    visitOf <| (numberedLines unit).filterMap fun (number, line) =>
      (positionFrom needle.toList 1 line).map fun column =>
        findingAt unit number column action.code action.message
  | .eachLine reversed =>
    let numbers := (numberedLines unit).map (·.1)
    visitOf <| (if reversed then numbers.reverse else numbers).map fun number =>
      findingAt unit number 1 action.code (.text ("line " ++ toString number))
  | .count => visitOf [findingAt unit 1 1 action.code (.text ("visit " ++ toString times))]
  | .yieldValue value => ⟨[], .strayed value.kindName⟩
  | .raise fault => .raising (arrivingFault fault)

/-- The counters after an action of a checker. -/
def counted (action : Action) (checker : Nat) (counters : Counters) : Counters :=
  match action.deed with
  | .count => Counters.tick counters checker
  | _ => counters

end Action

/-! ## Scripts -/

/-- Carries out the actions of a checker. With `whole`, a stray value does not keep the later
actions from being carried out. -/
def performAll (whole : Bool) (checker : Nat) (unit : SourceUnit) :
    List Action → Counters → Visit × Counters
  | [], counters => (.empty, counters)
  | action :: actions, counters =>
    if !action.concerns unit then performAll whole checker unit actions counters
    else
      let counters := action.counted checker counters
      let visit := action.perform unit (Counters.timesOf counters checker)
      match visit.ending with
      | .raised _ => (visit, counters)
      | .strayed kind =>
        if !whole then (visit, counters)
        else
          let (rest, counters) := performAll whole checker unit actions counters
          match rest.ending with
          | .raised fault => (.raising fault, counters)
          | _ => (⟨visit.findings, .strayed kind⟩, counters)
      | .finished =>
        let (rest, counters) := performAll whole checker unit actions counters
        (visit.followedBy rest, counters)

/-- What a checker yields that hands over a plain value: nothing where the value counts as false, a
stray item where it can be iterated. -/
def visitOfValue (value : Value) : Visit :=
  if !value.isTruthy then .empty
  else match value with
    | .text _ => ⟨[], .strayed "str"⟩
    | .table _ => ⟨[], .strayed "str"⟩
    | .list (item :: _) => ⟨[], .strayed item.kindName⟩
    | value =>
      .raising (.withMessage "TypeError" ("'" ++ value.kindName ++ "' object is not iterable"))

/-- One visit of the checker with the given number whose script this is. -/
def CheckScript.visit (script : CheckScript) (checker : Nat) (unit : SourceUnit)
    (counters : Counters) : Visit × Counters :=
  match script with
  | .oneByOne actions => performAll false checker unit actions counters
  | .allAtOnce actions => performAll true checker unit actions counters
  | .nothing => (.empty, counters)
  | .value value => (visitOfValue value, counters)
  | .raise fault => (.raising fault, counters)

/-- The checker with the given number and name that follows a script. -/
def Checker.ofScript (number : Nat) (name : String) (script : CheckScript) : Checker Counters :=
  ⟨name, script.visit number⟩

end WorkspaceLint
