import WorkspaceLint.Text.CellWidth

/-!
# Styled text

A message to the user is a text each character of which has a style. It is shown line by line: tabs
become blanks up to the next stop, and where styles are shown at all, each run of characters in one
style stands between the sequences that switch the style on and off. A tab ends a run even where the
style goes on behind it.
-/

namespace WorkspaceLint.Log

/-- The styles of messages: warnings, failures, and the parts of a debug message. -/
inductive Style where
  | warning
  | failure
  | mark
  | key
  | value
  deriving Repr, DecidableEq, Inhabited

/-- The terminal's numbers for a style: a colour, and for the parts of a debug message bold type. -/
def Style.codes : Style → String
  | .warning => "33"
  | .failure => "31"
  | .mark => "1;36"
  | .key => "1;35"
  | .value => "1;32"

/-- A text with styles. -/
abbrev StyledText := List (Style × Char)

namespace StyledText

/-- Whether a character moves the cursor in a way that would spoil a message. -/
def isDropped (c : Char) : Bool := [0x7, 0x8, 0xB, 0xC, 0xD].contains c.toNat

/-- A text in one style, without the characters that would spoil a message. -/
def of (style : Style) (text : String) : StyledText :=
  (text.toList.filter fun c => !isDropped c).map fun c => (style, c)

/-- The characters of a styled text. -/
def characters (text : StyledText) : List Char := text.map (·.2)

/-! ## Lines and tabs -/

/-- The lines of a text; a line break at its end is followed by an empty line. -/
def lines : StyledText → List StyledText
  | [] => [[]]
  | item :: rest =>
    if item.2 = '\n' then [] :: lines rest
    else match lines rest with
      | [] => [[item]]
      | line :: lines => (item :: line) :: lines

/-- The pieces of a line, each of which but the last ends with a tab. -/
def pieces : StyledText → List StyledText
  | [] => []
  | item :: rest =>
    if item.2 = '\t' then [item] :: pieces rest
    else match pieces rest with
      | [] => [[item]]
      | piece :: pieces => (item :: piece) :: pieces

/-- The distance between tab stops in cells. -/
def tabDistance : Nat := 8

/-- The number of blanks from a column to the next tab stop, none where the column is one. -/
def blanksFrom (column : Nat) : Nat := (tabDistance - column % tabDistance) % tabDistance

/-- A piece that begins at a column, with blanks in the place of a tab at its end, and the column
behind it. A tab is one blank at least, and this blank is measured with the piece: behind a joiner
it takes no cell. -/
def expandPiece (column : Nat) (piece : StyledText) : StyledText × Nat :=
  match piece.getLast? with
  | some (style, '\t') =>
    let text : StyledText := piece.dropLast ++ [(style, ' ')]
    let stop := column + Text.cells text.characters
    (text ++ List.replicate (blanksFrom stop) (style, ' '), stop + blanksFrom stop)
  | _ => (piece, column + Text.cells piece.characters)

/-- Pieces that begin at a column, with blanks in the place of tabs. -/
def expandFrom (column : Nat) : List StyledText → List StyledText
  | [] => []
  | piece :: pieces =>
    (expandPiece column piece).1 :: expandFrom (expandPiece column piece).2 pieces

/-! ## Rendering -/

/-- The runs of a piece: neighbouring characters in one style belong together. -/
def runs : StyledText → List (Style × List Char)
  | [] => []
  | (style, c) :: rest =>
    match runs rest with
    | [] => [(style, [c])]
    | (next, text) :: others =>
      if style = next then (style, c :: text) :: others else (style, [c]) :: (next, text) :: others

/-- What switches a style on. -/
def openingOf (style : Style) : List Char := '\x1b' :: '[' :: style.codes.toList ++ ['m']

/-- What switches all styles off. -/
def closing : List Char := ['\x1b', '[', '0', 'm']

/-- A run between the sequences for its style. -/
def renderRun (run : Style × List Char) : List Char := openingOf run.1 ++ run.2 ++ closing

/-- A piece of a line, with or without styles. -/
def renderPiece (styled : Bool) (piece : StyledText) : List Char :=
  if styled then (runs piece).flatMap renderRun else piece.characters

/-- A line, with or without styles, and its line break. -/
def renderLine (styled : Bool) (line : StyledText) : List Char :=
  (expandFrom 0 (pieces line)).flatMap (renderPiece styled) ++ ['\n']

/-- A text as it is shown. -/
def render (styled : Bool) (text : StyledText) : String :=
  String.ofList ((lines text).flatMap (renderLine styled))

end StyledText

end WorkspaceLint.Log
