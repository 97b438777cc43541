/-!
# JSON values

A JSON value keeps what its text says and no more: the members of an object stay in document order,
and a number with a fraction or an exponent stays a decimal. Reading and writing are the subjects of
the two modules beside this one.
-/

namespace WorkspaceLint

/-- A JSON value. A real number is `digits * 10 ^ exponent`, negated when `negative`. -/
inductive Json where
  | null
  | bool (value : Bool)
  | int (value : Int)
  | real (negative : Bool) (digits : Nat) (exponent : Int)
  | text (value : String)
  | list (items : List Json)
  | object (members : List (String × Json))
  deriving Repr, Inhabited, BEq

namespace Json

/-- The members of an object; other values have none. -/
def members : Json → List (String × Json)
  | .object members => members
  | _ => []

/-- The value of a member. -/
def get? (json : Json) (key : String) : Option Json :=
  (json.members.find? fun member => member.1 == key).map (·.2)

/-- The value of a member, or null where there is none. -/
def get (json : Json) (key : String) : Json := (json.get? key).getD .null

/-- The items of a list; other values have none. -/
def items : Json → List Json
  | .list items => items
  | _ => []

/-- The text of a text value. -/
def text? : Json → Option String
  | .text value => some value
  | _ => none

/-- The number of an integer value. -/
def int? : Json → Option Int
  | .int value => some value
  | _ => none

/-- The truth of a boolean value; other values count as false. -/
def isTrue : Json → Bool
  | .bool value => value
  | _ => false

/-- Whether a value is null. -/
def isNull : Json → Bool
  | .null => true
  | _ => false

/-- A member read as a text, empty where there is none. -/
def textAt (json : Json) (key : String) : String := ((json.get key).text?).getD ""

/-- A member read as a list of texts. -/
def textsAt (json : Json) (key : String) : List String := (json.get key).items.filterMap text?

end Json

end WorkspaceLint
