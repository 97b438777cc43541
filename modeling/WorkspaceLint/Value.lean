import WorkspaceLint.Number.Binary64
import WorkspaceLint.Text.Quoted

/-!
# Dynamic values

A workspace descriptor is a document of tables, lists and scalars, and a plugin may put a value of
any kind where a checker, a finding or a list of names belongs. `Value` is the one type for both.
Its two texts are the *displayed* one, where a text stands for itself, and the *quoted* one, where
it stands between quotes as it does inside a list.
-/

namespace WorkspaceLint

open WorkspaceLint.Number (Binary64)

/-- A dynamic value. A `moment` is a date, a time or both; nothing here depends on which one. -/
inductive Value where
  | null
  | bool (value : Bool)
  | int (value : Int)
  | float (value : Binary64)
  | text (value : String)
  | bytes (value : List UInt8)
  | moment
  | list (items : List Value)
  | table (entries : List (String × Value))
  deriving Repr, Inhabited, BEq

namespace Value

/-- The name of a value's kind, as error messages give it. -/
def kindName : Value → String
  | .null => "NoneType"
  | .bool _ => "bool"
  | .int _ => "int"
  | .float _ => "float"
  | .text _ => "str"
  | .bytes _ => "bytes"
  | .moment => "datetime"
  | .list _ => "list"
  | .table _ => "dict"

/-- Whether a value is a table. -/
def isTable : Value → Bool
  | .table _ => true
  | _ => false

/-- The entries of a table; other values have none. -/
def entries : Value → List (String × Value)
  | .table entries => entries
  | _ => []

/-- The entry of a table under a key. -/
def get? (value : Value) (key : String) : Option Value :=
  (value.entries.find? fun entry => entry.1 == key).map (·.2)

/-- Entries with one of them set: in its old place where the key is there already, else at the end.
-/
def put (entries : List (String × Value)) (key : String) (value : Value) : List (String × Value) :=
  match entries with
  | [] => [(key, value)]
  | entry :: rest => if entry.1 == key then (key, value) :: rest else entry :: put rest key value

/-- The texts of a list that holds nothing else. -/
def texts? : Value → Option (List String)
  | .list items => items.mapM fun
    | .text value => some value
    | _ => none
  | _ => none

/-- Whether a value counts as true where a condition is expected: zero, the empty text, the empty
list and the empty table do not. -/
def isTruthy : Value → Bool
  | .null => false
  | .bool value => value
  | .int value => value != 0
  | .float value => value.toInt? != some 0
  | .text value => value != ""
  | .bytes value => !value.isEmpty
  | .moment => true
  | .list items => !items.isEmpty
  | .table entries => !entries.isEmpty

mutual

/-- The text of a value as it stands inside a list. -/
def quotedText : Value → String
  | .null => "None"
  | .bool value => if value then "True" else "False"
  | .int value => toString value
  | .float value => value.text
  | .text value => Text.quoted value
  | .bytes value => Text.quotedBytes value
  | .moment => "datetime"
  | .list items => "[" ++ quotedItems true items ++ "]"
  | .table entries => "\x7b" ++ quotedEntries true entries ++ "\x7d"

/-- The quoted texts of the items of a list, with commas between them. -/
def quotedItems (isFirst : Bool) : List Value → String
  | [] => ""
  | item :: items =>
    (if isFirst then "" else ", ") ++ quotedText item ++ quotedItems false items

/-- The quoted entries of a table, with commas between them. -/
def quotedEntries (isFirst : Bool) : List (String × Value) → String
  | [] => ""
  | (key, value) :: entries =>
    (if isFirst then "" else ", ") ++ Text.quoted key ++ ": " ++ quotedText value
      ++ quotedEntries false entries

end

/-- The text of a value that stands alone. -/
def displayedText : Value → String
  | .text value => value
  | value => quotedText value

/-- The text of several values given together, between parentheses. -/
def quotedTuple : List Value → String
  | [] => "()"
  | [value] => "(" ++ quotedText value ++ ",)"
  | values => "(" ++ quotedItems true values ++ ")"

end Value

end WorkspaceLint
