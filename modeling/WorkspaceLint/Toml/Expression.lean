import WorkspaceLint.Toml.Scalar

/-!
# Keys and values in a descriptor document

A key is one name or several joined by dots, each bare or quoted. A value is a text, a truth value,
a moment, a number, a list or a table between braces. A list may go over several lines and hold
comments; a table between braces may not, and none of its names may be given twice. Once a value is
complete nothing may be added to it: a table between braces refuses a dotted name that leads into a
value that has been given whole.

Values are read by calls inside one another, for which there is only so much room. A list takes two
of them and a table between braces three, so that values cannot lie inside one another without end.
-/

namespace WorkspaceLint.Toml

/-- The names of a key, outermost first. -/
abbrev Key := List String

/-- Whether a character may stand in a bare name. -/
def isBareCharacter (c : Char) : Bool := c.isAlphanum || c = '-' || c = '_'

/-- Reads one name. -/
def readName (input : List Char) : Reading String :=
  match input with
  | '\'' :: rest => (readPlain rest).map fun read => (String.ofList read.1, read.2)
  | '"' :: rest => (readEscaped false rest).map fun read => (String.ofList read.1, read.2)
  | _ =>
    let name := input.takeWhile isBareCharacter
    if name.isEmpty then .error .invalid
    else .ok (String.ofList name, input.dropWhile isBareCharacter)

/-- Reads a key and the blanks after it; `fuel` bounds the number of its names. -/
def readKeyWithin : (fuel : Nat) → List Char → Reading Key
  | 0, _ => .error .invalid
  | fuel + 1, input =>
    match readName input with
    | .error fault => .error fault
    | .ok (name, rest) =>
      match skipBlanks rest with
      | '.' :: rest =>
        match readKeyWithin fuel (skipBlanks rest) with
        | .error fault => .error fault
        | .ok (names, rest) => .ok (name :: names, rest)
      | rest => .ok ([name], rest)

/-- Reads a key and the blanks after it. -/
def readKey (input : List Char) : Reading Key := readKeyWithin (input.length + 1) input

/-- Checks the comment at the front, if there is one, and gives the characters from the end of its
line on. -/
def skipComment (input : List Char) : Except Fault (List Char) :=
  match input with
  | '#' :: rest =>
    if (rest.takeWhile (· ≠ '\n')).any isForbidden then .error .invalid
    else .ok (rest.dropWhile (· ≠ '\n'))
  | _ => .ok input

/-- Skips blanks, line breaks and comments; `fuel` bounds the number of comments. -/
def skipGapsWithin : (fuel : Nat) → List Char → Except Fault (List Char)
  | 0, _ => .error .invalid
  | fuel + 1, input =>
    match skipBlanksAndBreaks input with
    | '#' :: rest =>
      match skipComment ('#' :: rest) with
      | .error fault => .error fault
      | .ok rest => skipGapsWithin fuel rest
    | rest => .ok rest

/-- Skips blanks, line breaks and comments. -/
def skipGaps (input : List Char) : Except Fault (List Char) :=
  skipGapsWithin (input.length + 1) input

/-- Changes the table that a key leads to, creating the tables on the way that do not exist. A list
on the way stands for its last item when `intoLists` holds; any other value on the way is an
obstacle. -/
def changeTable (intoLists : Bool)
    (change : List (String × Value) → Option (List (String × Value))) :
    Key → List (String × Value) → Option (List (String × Value))
  | [], entries => change entries
  | name :: names, entries =>
    match entries.find? fun entry => entry.1 == name with
    | none => (changeTable intoLists change names []).map fun created =>
      entries ++ [(name, .table created)]
    | some (_, held) =>
      let replace (value : Value) : List (String × Value) :=
        entries.map fun entry => if entry.1 == name then (name, value) else entry
      match held with
      | .table inner => (changeTable intoLists change names inner).map fun changed =>
        replace (.table changed)
      | .list items =>
        match intoLists, items.getLast? with
        | true, some (.table inner) => (changeTable intoLists change names inner).map fun changed =>
          replace (.list (items.dropLast ++ [.table changed]))
        | _, _ => none
      | _ => none

/-- Adds an entry under a name that is not taken. -/
def addEntry (name : String) (value : Value) (entries : List (String × Value)) :
    Option (List (String × Value)) :=
  if entries.any fun entry => entry.1 == name then none else some (entries ++ [(name, value)])

/-- Whether a value is a list or a table. -/
def isComposite : Value → Bool
  | .list _ | .table _ => true
  | _ => false

/-- Reads a text, if one is at the front. -/
def readTextValue? (input : List Char) : Option (Reading (List Char)) :=
  match input with
  | '"' :: '"' :: '"' :: rest =>
    some (takeClosingQuotes '"' (readEscaped true (skipFirstBreak rest)))
  | '"' :: rest => some (readEscaped false rest)
  | '\'' :: '\'' :: '\'' :: rest =>
    some (takeClosingQuotes '\'' (readPlainLines (skipFirstBreak rest)))
  | '\'' :: rest => some (readPlain rest)
  | _ => none

/-- Reads a value that is neither a list nor a table. -/
def readScalar (input : List Char) : Reading Value :=
  match readTextValue? input with
  | some read => read.map fun read => (.text (String.ofList read.1), read.2)
  | none =>
    match Json.expect? ['t', 'r', 'u', 'e'] input, Json.expect? ['f', 'a', 'l', 's', 'e'] input with
    | some rest, _ => .ok (.bool true, rest)
    | none, some rest => .ok (.bool false, rest)
    | none, none =>
      match readMoment? input with
      | some read => read
      | none =>
        match readNumber? input with
        | some read => read
        | none =>
          match readSpecial? input with
          | some read => .ok read
          | none => .error .invalid

/-- The calls that a list takes while it is read. -/
def listCalls : Nat := 2

/-- The calls that a table between braces takes while it is read. -/
def tableCalls : Nat := 3

mutual

/-- Reads a value; `room` is the number of calls that may be made inside one another for it. -/
def readValue : (fuel room : Nat) → List Char → Reading Value
  | 0, _, _ => .error .invalid
  | fuel + 1, room, input =>
    match input with
    | '[' :: rest =>
      if room < listCalls then .error .tooDeep
      else match skipGaps rest with
        | .error fault => .error fault
        | .ok (']' :: rest) => .ok (.list [], rest)
        | .ok rest =>
          (readItems fuel (room - listCalls) rest).map fun read => (.list read.1, read.2)
    | '\x7b' :: rest =>
      if room < tableCalls then .error .tooDeep
      else match skipBlanks rest with
        | '\x7d' :: rest => .ok (.table [], rest)
        | rest =>
          (readPairs fuel (room - tableCalls) [] [] rest).map fun read => (.table read.1, read.2)
    | _ => readScalar input

/-- Reads the items of a list, one at least, and its end. -/
def readItems : (fuel room : Nat) → List Char → Reading (List Value)
  | 0, _, _ => .error .invalid
  | fuel + 1, room, input =>
    match readValue fuel room input with
    | .error fault => .error fault
    | .ok (item, rest) =>
      match skipGaps rest with
      | .error fault => .error fault
      | .ok (']' :: rest) => .ok ([item], rest)
      | .ok (',' :: rest) =>
        match skipGaps rest with
        | .error fault => .error fault
        | .ok (']' :: rest) => .ok ([item], rest)
        | .ok rest => (readItems fuel room rest).map fun read => (item :: read.1, read.2)
      | .ok _ => .error .invalid

/-- Reads the pairs of a table between braces, one at least, and its end. The keys in `complete`
were given a list or a table whole. -/
def readPairs : (fuel room : Nat) → (complete : List Key) → List (String × Value) → List Char →
    Reading (List (String × Value))
  | 0, _, _, _, _ => .error .invalid
  | fuel + 1, room, complete, entries, input =>
    match readPair fuel room input with
    | .error fault => .error fault
    | .ok ((key, value), rest) =>
      if complete.any fun whole => whole.isPrefixOf key then .error .invalid
      else
        match changeTable false (addEntry (key.getLast?.getD "") value) key.dropLast entries with
        | none => .error .invalid
        | some entries =>
          match skipBlanks rest with
          | '\x7d' :: rest => .ok (entries, rest)
          | ',' :: rest =>
            let complete := if isComposite value then key :: complete else complete
            readPairs fuel room complete entries (skipBlanks rest)
          | _ => .error .invalid

/-- Reads a key, the equals sign and a value. -/
def readPair : (fuel room : Nat) → List Char → Reading (Key × Value)
  | 0, _, _ => .error .invalid
  | fuel + 1, room, input =>
    match readKey input with
    | .error fault => .error fault
    | .ok (key, '=' :: rest) =>
      (readValue fuel room (skipBlanks rest)).map fun read => ((key, read.1), read.2)
    | .ok _ => .error .invalid

end

end WorkspaceLint.Toml
