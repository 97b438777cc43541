/-!
# Name patterns

A pattern is compared with a whole text. An asterisk stands for any run of characters, a question
mark for any one character, and a class between brackets for one of its characters; slashes and
leading dots are characters like any other. A class that starts with an exclamation mark stands for
one character not in it. A closing bracket that comes first in a class is one of its characters, and
a bracket that is never closed stands for itself.

## Shape of a class

A hyphen between two characters makes a range. A hyphen that cannot, because it comes first or last
or within two places of the hyphen before, is one of the characters. A range whose ends are in the
wrong order is dropped together with its ends; what is left of the class then closes up.

## Shape of the matching

A pattern is matched with all ends of a text at once, its last element first. An element turns the
ends that the elements behind it match into those that it matches together with them, so the work
grows with the length of the pattern and that of the text, and never with the number of ways in
which asterisks could share a text.
-/

namespace WorkspaceLint

/-- One item of a class. -/
inductive ClassItem where
  | single (c : Char)
  | range (low high : Char)
  deriving Repr, DecidableEq

/-- Whether an item of a class holds a character. -/
def ClassItem.holds (c : Char) : ClassItem → Bool
  | .single d => c == d
  | .range low high => low.toNat ≤ c.toNat && c.toNat ≤ high.toNat

/-- One element of a pattern. -/
inductive PatternElement where
  | anyRun
  | anyOne
  | literal (c : Char)
  | oneOf (negated : Bool) (items : List ClassItem)
  deriving Repr, DecidableEq

/-- A pattern for a whole text. -/
abbrev Pattern := List PatternElement

namespace Pattern

/-! ## Reading a class -/

/-- Cuts the body of a class at the hyphens that make ranges. The first `guarded` characters cannot
be such a hyphen, and after a cut neither can the next two. -/
def cutAtHyphens (piece : List Char) : (guarded : Nat) → List Char → List (List Char)
  | _, [] => [piece.reverse]
  | 0, '-' :: rest => piece.reverse :: cutAtHyphens [] 2 rest
  | guarded, c :: rest => cutAtHyphens (c :: piece) (guarded - 1) rest

/-- The pieces of a class, where a last piece that is empty leaves a hyphen at the end of the piece
before it. -/
def closeLastPiece : List (List Char) → List (List Char)
  | [] => []
  | [piece] => [piece]
  | [piece, []] => [piece ++ ['-']]
  | piece :: pieces => piece :: closeLastPiece pieces

/-- Puts a piece before the others and drops the range between them if its ends are in the wrong
order. -/
def joinPiece (piece : List Char) : List (List Char) → List (List Char)
  | [] => [piece]
  | next :: pieces =>
    match piece.getLast?, next.head? with
    | some low, some high =>
      if low.toNat > high.toNat then (piece.dropLast ++ next.drop 1) :: pieces
      else piece :: next :: pieces
    | _, _ => piece :: next :: pieces

/-- The characters of a class in order, with `none` for a hyphen that makes a range. -/
def classMarks : List (List Char) → List (Option Char)
  | [] => []
  | [piece] => piece.map some
  | piece :: pieces => piece.map some ++ none :: classMarks pieces

/-- The items that marks describe. -/
def classItems : List (Option Char) → List ClassItem
  | [] => []
  | some low :: none :: some high :: rest => .range low high :: classItems rest
  | some c :: rest => .single c :: classItems rest
  | none :: rest => .single '-' :: classItems rest

/-- The element for a class with the given body. -/
def ofClass (body : List Char) : PatternElement :=
  let guarded := if body.head? = some '!' then 2 else 1
  let pieces := (closeLastPiece (cutAtHyphens [] guarded body)).foldr joinPiece []
  match classMarks pieces with
  | [] => .oneOf false []
  | [some '!'] => .anyOne
  | some '!' :: rest => .oneOf true (classItems rest)
  | marks => .oneOf false (classItems marks)

/-- Splits the characters after an opening bracket at the bracket that closes the class. The first
character, or the first one after an exclamation mark, cannot close it. -/
def splitClass? (rest : List Char) : Option (List Char × List Char) :=
  let (start, rest) :=
    match rest with
    | '!' :: rest => (['!'], rest)
    | rest => ([], rest)
  let (start, rest) :=
    match rest with
    | ']' :: rest => (start ++ [']'], rest)
    | rest => (start, rest)
  match rest.dropWhile (· ≠ ']') with
  | [] => none
  | _ :: after => some (start ++ rest.takeWhile (· ≠ ']'), after)

/-- Reads a pattern; `fuel` bounds the number of its elements. -/
def read : (fuel : Nat) → List Char → Pattern
  | 0, _ => []
  | _, [] => []
  | fuel + 1, '*' :: rest => .anyRun :: read fuel rest
  | fuel + 1, '?' :: rest => .anyOne :: read fuel rest
  | fuel + 1, '[' :: rest =>
    match splitClass? rest with
    | some (body, after) => ofClass body :: read fuel after
    | none => .literal '[' :: read fuel rest
  | fuel + 1, c :: rest => .literal c :: read fuel rest

/-- The pattern that a text describes. -/
def ofText (text : String) : Pattern := read text.toList.length text.toList

/-! ## Matching -/

/-- Whether an element that stands for one character stands for this one. -/
def takes (c : Char) : PatternElement → Bool
  | .anyRun => false
  | .anyOne => true
  | .literal d => c == d
  | .oneOf negated items => items.any (ClassItem.holds c) != negated

/-- For each place in a list, whether there is a true item at it or behind it. -/
def anyFrom : List Bool → List Bool
  | [] => []
  | item :: items =>
    let later := anyFrom items
    (item || later.head?.getD false) :: later

/-- For each end of a text, from the whole text down to the empty one, whether a pattern matches it.
-/
def matchesEnds : Pattern → List Char → List Bool
  | [], text => text.map (fun _ => false) ++ [true]
  | .anyRun :: pattern, text => anyFrom (matchesEnds pattern text)
  | element :: pattern, text =>
    let later := (matchesEnds pattern text).tail
    text.zipWith (fun c rest => takes c element && rest) later ++ [false]

/-- Whether a pattern matches a whole text. -/
def matchesText (pattern : Pattern) (text : List Char) : Bool :=
  (matchesEnds pattern text).head? == some true

end Pattern

/-- Whether a text matches a pattern given as text. -/
def matchesPattern (pattern text : String) : Bool :=
  Pattern.matchesText (Pattern.ofText pattern) text.toList

end WorkspaceLint
