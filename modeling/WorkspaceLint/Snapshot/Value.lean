import WorkspaceLint.Fault.Text
import WorkspaceLint.Json.Reader

/-!
# Values and faults in a snapshot

A snapshot is a JSON description of what a run finds around it. Its values are JSON values; in some
places, a number with a fraction may be given as an object with the text of the number. A fault is
an object with the name of its class and its arguments, among which bytes are given by their
hexadecimal digits.
-/

namespace WorkspaceLint.Snapshot

open WorkspaceLint.Number (Binary64)

/-- The key of an object that gives the text of a floating point number. -/
def floatKey : String := "$float"

/-- The floating point number with the given text. -/
def floatOf (input : String) : Binary64 :=
  if input = "inf" then .infinite false
  else if input = "-inf" then .infinite true
  else match Json.readNumber input.toList with
    | some (.int value, []) => .ofDecimal (input.toList.head? = some '-') value.natAbs 0
    | some (.real negative digits exponent, []) => .ofDecimal negative digits exponent
    | _ => .nan

/-! ## Values -/

mutual

/-- The value that a JSON value describes. -/
def valueOf : Json → Value
  | .null => .null
  | .bool value => .bool value
  | .int value => .int value
  | .real negative digits exponent => .float (.ofDecimal negative digits exponent)
  | .text value => .text value
  | .list items => .list (valuesOf items)
  | .object members => .table (entriesOf members)

/-- The values that JSON values describe. -/
def valuesOf : List Json → List Value
  | [] => []
  | item :: items => valueOf item :: valuesOf items

/-- The entries that the members of a JSON object describe. -/
def entriesOf : List (String × Json) → List (String × Value)
  | [] => []
  | (key, item) :: members => (key, valueOf item) :: entriesOf members

end

mutual

/-- A value with floating point numbers in the place of the tables that give their texts. -/
def withFloats : Value → Value
  | .table [(key, .text number)] =>
    if key = floatKey then .float (floatOf number) else .table [(key, .text number)]
  | .table entries => .table (entriesWithFloats entries)
  | .list items => .list (itemsWithFloats items)
  | value => value

/-- Items with floating point numbers in the place of the tables that give their texts. -/
def itemsWithFloats : List Value → List Value
  | [] => []
  | item :: items => withFloats item :: itemsWithFloats items

/-- Entries with floating point numbers in the place of the tables that give their texts. -/
def entriesWithFloats : List (String × Value) → List (String × Value)
  | [] => []
  | (key, value) :: entries => (key, withFloats value) :: entriesWithFloats entries

end

/-- The value of a member, or null where there is none. -/
def valueAt (json : Json) (key : String) : Value := valueOf (json.get key)

/-- The entries of a member that is an object, in which floating point numbers may be given by their
texts. -/
def entriesAt (json : Json) (key : String) : List (String × Value) :=
  entriesWithFloats (entriesOf (json.get key).members)

/-! ## Faults -/

/-- The bytes that pairs of hexadecimal digits describe. -/
def bytesOfDigits : List Char → List UInt8
  | high :: low :: rest =>
    ((Json.hexValue? high).getD 0 * 16 + (Json.hexValue? low).getD 0).toUInt8 :: bytesOfDigits rest
  | _ => []

/-- The key of an object that gives bytes by their hexadecimal digits. -/
def bytesKey : String := "hex"

/-- An argument of a fault. -/
def argumentOf (json : Json) : Value :=
  match json.get? bytesKey with
  | some (.text digits) => .bytes (bytesOfDigits digits.toList)
  | _ => valueOf json

/-- The fault that a JSON object describes, or the fault of making it. -/
def faultOf? (json : Json) : Except Fault Fault :=
  let arguments := (json.get "args").items.map argumentOf
  let importName := (json.get "name").text?
  match json.get? "bases" with
  | some (.list (base :: bases)) =>
    Fault.derive (json.textAt "type") ((base :: bases).filterMap Json.text?) arguments importName
  | _ => Fault.make (json.textAt "type") arguments importName

/-- The fault that code raises which is to raise the one that a JSON object describes: the fault of
making it where it cannot be made. -/
def faultOf (json : Json) : Fault :=
  match faultOf? json with
  | .ok fault => fault
  | .error fault => fault

end WorkspaceLint.Snapshot
