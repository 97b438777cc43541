/-!
# Lines of a text

Three notions of line meet in this library. A *physical* line ends at a line feed and nowhere else;
it is what a position in a source file counts. Decoding a file turns the other two line endings in
use, a carriage return alone and one followed by a line feed, into a line feed. A *displayed* line
ends at any of the ten characters that a text viewer breaks a line at.
-/

namespace WorkspaceLint.Text

/-- The pieces of a text between the occurrences of a separator: always one more than there are
separators. -/
def splitAt (separator : Char) : List Char → List (List Char)
  | [] => [[]]
  | c :: rest =>
    if c = separator then [] :: splitAt separator rest
    else match splitAt separator rest with
      | [] => [[c]]
      | piece :: pieces => (c :: piece) :: pieces

/-- A text with every line ending written as a line feed. -/
def unifyLineEndings : List Char → List Char
  | [] => []
  | '\r' :: '\n' :: rest => '\n' :: unifyLineEndings rest
  | c :: rest => (if c = '\r' then '\n' else c) :: unifyLineEndings rest

/-- Whether a character ends a displayed line: line feed, vertical tab, form feed, carriage return,
the file, group and record separators, next line, and the line and paragraph separators. -/
def isLineBreak (c : Char) : Bool :=
  let code := c.toNat
  (0xA ≤ code && code ≤ 0xD) || (0x1C ≤ code && code ≤ 0x1E) || code == 0x85 || code == 0x2028
    || code == 0x2029

/-- The displayed lines of a text whose first line has begun with `line`, held in reverse. -/
def displayedLinesAfter (line : List Char) : List Char → List (List Char)
  | [] => if line.isEmpty then [] else [line.reverse]
  | '\r' :: '\n' :: rest => line.reverse :: displayedLinesAfter [] rest
  | c :: rest =>
    if isLineBreak c then line.reverse :: displayedLinesAfter [] rest
    else displayedLinesAfter (c :: line) rest

/-- The displayed lines of a text, without their line breaks. A break at the end of the text starts
no further line, and a carriage return with the line feed after it is one break. -/
def displayedLines (text : List Char) : List (List Char) := displayedLinesAfter [] text

end WorkspaceLint.Text
