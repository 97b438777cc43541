import WorkspaceLint.Toml.Expression

/-!
# Descriptor documents

A document is a sequence of lines: pairs of a key and a value, headers that open a table, and
headers that add a table to a list. A pair belongs to the table of the header before it.

## Shape of the rules on repetition

No name is given twice, and no table is opened twice. Two sets of keys say what may still be done. A
key that is *opened* has had its header, or lies on the way of a dotted key of an earlier section;
no header opens it again and no dotted key passes through it. A key that is *complete* was given a
list or a table whole; nothing at or below it may change. A header that adds a table to a list
starts a fresh item, so it forgets both for the keys at and below its own.
-/

namespace WorkspaceLint.Toml

/-- What has been read of a document: its entries, the opened and the complete keys, the keys that
the dotted keys of the current section pass through, and the key of the section's header. -/
structure Draft where
  entries : List (String × Value)
  opened : List Key
  complete : List Key
  passed : List Key
  header : Key
  deriving Inhabited

namespace Draft

/-- The draft of an empty document. -/
def empty : Draft := ⟨[], [], [], [], []⟩

/-- Whether a key lies at or below a complete one. -/
def isComplete (draft : Draft) (key : Key) : Bool :=
  draft.complete.any fun whole => whole.isPrefixOf key

/-- Ends the current section: what its dotted keys passed through counts as opened. -/
def endSection (draft : Draft) : Draft :=
  { draft with opened := draft.opened ++ draft.passed, passed := [] }

/-- Forgets what is known of the keys at and below a key. -/
def forget (draft : Draft) (key : Key) : Draft :=
  { draft with
    opened := draft.opened.filter fun other => !key.isPrefixOf other
    complete := draft.complete.filter fun other => !key.isPrefixOf other }

/-- Opens the table of a header. -/
def openTable (draft : Draft) (key : Key) : Option Draft :=
  if draft.opened.contains key || draft.isComplete key then none
  else (changeTable true some key draft.entries).map fun entries =>
    { draft with entries := entries, opened := key :: draft.opened, header := key }

/-- Adds an empty table to the list under a name, or starts the list. -/
def appendTable (name : String) (entries : List (String × Value)) :
    Option (List (String × Value)) :=
  match entries.find? fun entry => entry.1 == name with
  | none => some (entries ++ [(name, .list [.table []])])
  | some (_, .list items) => some <| entries.map fun entry =>
    if entry.1 == name then (name, .list (items ++ [.table []])) else entry
  | some _ => none

/-- Adds a table to the list of a header. -/
def openItem (draft : Draft) (key : Key) : Option Draft :=
  if draft.isComplete key then none
  else
    let draft := draft.forget key
    (changeTable true (appendTable (key.getLast?.getD "")) key.dropLast draft.entries).map
      fun entries => { draft with entries := entries, opened := key :: draft.opened, header := key }

/-- The keys that lead through the tables on the way of a dotted key, outermost first. -/
def keysOnTheWay (header key : Key) : List Key :=
  (List.range (key.length - 1)).map fun count => header ++ key.take (count + 1)

/-- Adds a pair to the table of the current header. -/
def addPair (draft : Draft) (key : Key) (value : Value) : Option Draft :=
  let onTheWay := keysOnTheWay draft.header key
  let parent := draft.header ++ key.dropLast
  if onTheWay.any draft.opened.contains || (!parent.isEmpty && draft.isComplete parent) then none
  else (changeTable true (addEntry (key.getLast?.getD "") value) parent draft.entries).map
    fun entries =>
      { draft with
        entries := entries
        passed := draft.passed ++ onTheWay
        complete :=
          if isComposite value then (draft.header ++ key) :: draft.complete else draft.complete }

end Draft

/-- The next draft, or a fault where there is none. -/
def orInvalid (draft? : Option Draft) (rest : List Char) : Reading Draft :=
  match draft? with
  | some draft => .ok (draft, rest)
  | none => .error .invalid

/-- Reads a header and its closing brackets. A header that contradicts the draft is a fault,
whatever follows it. -/
def readHeader (draft : Draft) (rest : List Char) : Reading Draft :=
  match rest with
  | '[' :: rest =>
    match readKey (skipBlanks rest) with
    | .error fault => .error fault
    | .ok (key, ']' :: ']' :: rest) => orInvalid (draft.endSection.openItem key) rest
    | .ok _ => .error .invalid
  | _ =>
    match readKey (skipBlanks rest) with
    | .error fault => .error fault
    | .ok (key, ']' :: rest) => orInvalid (draft.endSection.openTable key) rest
    | .ok _ => .error .invalid

/-- Reads what a line holds before its comment. -/
def readStatement (room : Nat) (draft : Draft) (input : List Char) : Reading Draft :=
  match input with
  | [] => .ok (draft, [])
  | '\n' :: rest => .ok (draft, '\n' :: rest)
  | '#' :: rest => .ok (draft, '#' :: rest)
  | '[' :: rest => (readHeader draft rest).map fun read => (read.1, skipBlanks read.2)
  | _ =>
    match readPair (2 * input.length + 2) room input with
    | .error fault => .error fault
    | .ok ((key, value), rest) => orInvalid (draft.addPair key value) (skipBlanks rest)

/-- Reads the remaining lines of a document; `fuel` bounds their number. -/
def readLines (room : Nat) : (fuel : Nat) → Draft → List Char → Except Fault Draft
  | 0, _, _ => .error .invalid
  | fuel + 1, draft, input =>
    match readStatement room draft (skipBlanks input) with
    | .error fault => .error fault
    | .ok (draft, rest) =>
      match skipComment rest with
      | .error fault => .error fault
      | .ok [] => .ok draft
      | .ok ('\n' :: rest) => readLines room fuel draft rest
      | .ok _ => .error .invalid

/-- A text with a line feed for each carriage return that is followed by one. Other carriage returns
stay, and the grammar refuses them. -/
def joinLineEndings : List Char → List Char
  | [] => []
  | '\r' :: '\n' :: rest => '\n' :: joinLineEndings rest
  | c :: rest => c :: joinLineEndings rest

/-- The entries of the document that a text describes. Each of its values is read with the given
room for calls inside one another. -/
def readDocument (room : Nat) (text : List Char) : Except Fault (List (String × Value)) :=
  let input := joinLineEndings text
  match readLines room (input.length + 1) Draft.empty input with
  | .ok draft => .ok draft.entries
  | .error fault => .error fault

end WorkspaceLint.Toml
