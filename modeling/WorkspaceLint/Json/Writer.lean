import WorkspaceLint.Json.Basic
import WorkspaceLint.Text.Quoted

/-!
# Writing JSON

A value is written on one line without blanks, or with one item a line and a given number of blanks
for each level. Inside a text the quote, the backslash and the control characters below U+0020 are
escaped, five of the controls by a letter and the others by their code point; every other character
stands for itself.
-/

namespace WorkspaceLint.Json

open WorkspaceLint.Text (hexDigits)

/-- How one character is written inside a text. -/
def writeCharacter (c : Char) : List Char :=
  if c = '"' then ['\\', '"']
  else if c = '\\' then ['\\', '\\']
  else if c.toNat = 0x8 then ['\\', 'b']
  else if c.toNat = 0xC then ['\\', 'f']
  else if c = '\n' then ['\\', 'n']
  else if c = '\r' then ['\\', 'r']
  else if c = '\t' then ['\\', 't']
  else if c.toNat < 0x20 then '\\' :: 'u' :: hexDigits 4 c.toNat
  else [c]

/-- A text between its quotes. -/
def writeText (text : String) : List Char :=
  '"' :: text.toList.flatMap writeCharacter ++ ['"']

/-- A decimal number with an explicit exponent. -/
def writeReal (negative : Bool) (digits : Nat) (exponent : Int) : List Char :=
  (if negative then ['-'] else []) ++ (toString digits).toList ++ 'e' :: (toString exponent).toList

/-- The line break and the blanks before an item at a depth, when items stand on lines of their
own. -/
def lineAt (indent : Option Nat) (depth : Nat) : List Char :=
  match indent with
  | none => []
  | some width => '\n' :: List.replicate (width * depth) ' '

/-- What stands between a key and its value. -/
def keySeparator (indent : Option Nat) : List Char :=
  match indent with
  | none => [':']
  | some _ => [':', ' ']

mutual

/-- The text of a value that stands at a depth. -/
def writeAt (indent : Option Nat) (depth : Nat) : Json → List Char
  | .null => ['n', 'u', 'l', 'l']
  | .bool true => ['t', 'r', 'u', 'e']
  | .bool false => ['f', 'a', 'l', 's', 'e']
  | .int value => (toString value).toList
  | .real negative digits exponent => writeReal negative digits exponent
  | .text value => writeText value
  | .list [] => ['[', ']']
  | .list (item :: items) =>
    '[' :: lineAt indent (depth + 1) ++ writeAt indent (depth + 1) item
      ++ writeItems indent (depth + 1) items ++ lineAt indent depth ++ [']']
  | .object [] => ['\x7b', '\x7d']
  | .object ((key, value) :: members) =>
    '\x7b' :: lineAt indent (depth + 1) ++ writeText key ++ keySeparator indent
      ++ writeAt indent (depth + 1) value ++ writeMembers indent (depth + 1) members
      ++ lineAt indent depth ++ ['\x7d']

/-- The items of a list after its first one. -/
def writeItems (indent : Option Nat) (depth : Nat) : List Json → List Char
  | [] => []
  | item :: items =>
    ',' :: lineAt indent depth ++ writeAt indent depth item ++ writeItems indent depth items

/-- The members of an object after its first one. -/
def writeMembers (indent : Option Nat) (depth : Nat) : List (String × Json) → List Char
  | [] => []
  | (key, value) :: members =>
    ',' :: lineAt indent depth ++ writeText key ++ keySeparator indent
      ++ writeAt indent depth value ++ writeMembers indent depth members

end

/-- The text of a value: on one line without blanks, or with the given number of blanks for each
level. -/
def write (indent : Option Nat) (json : Json) : String := String.ofList (writeAt indent 0 json)

end WorkspaceLint.Json
