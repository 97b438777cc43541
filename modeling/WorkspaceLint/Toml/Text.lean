import WorkspaceLint.Json.Reader

/-!
# Texts in a descriptor document

A descriptor document writes texts between single quotes, where nothing is escaped, or between
double quotes with escapes, and each kind also between three quotes, where line breaks may stand.
Control characters other than the tab never stand in a text, nor in a comment. The readers here take
the characters after the opening quotes and give the text and the characters after the closing ones.
-/

namespace WorkspaceLint.Toml

/-- Why a document cannot be read: it breaks the grammar or contradicts itself, it holds a whole
number with more digits than can be read, or its values lie too deep inside one another. -/
inductive Fault where
  | invalid
  | tooManyDigits (count : Nat)
  | tooDeep
  deriving Repr, DecidableEq, Inhabited

/-- The outcome of a reader: what it read, and the characters after it. -/
abbrev Reading (α : Type) := Except Fault (α × List Char)

/-- Whether a character is a blank inside a line. -/
def isBlankInLine (c : Char) : Bool := c = ' ' || c = '\t'

/-- The characters after the blanks at the front. -/
def skipBlanks (input : List Char) : List Char := input.dropWhile isBlankInLine

/-- The characters after the blanks and line breaks at the front. -/
def skipBlanksAndBreaks (input : List Char) : List Char :=
  input.dropWhile fun c => isBlankInLine c || c = '\n'

/-- Whether a character may not stand in a text or a comment on one line. -/
def isForbidden (c : Char) : Bool := (c.toNat < 0x20 && c != '\t') || c.toNat = 0x7F

/-- Whether a character may not stand in a text, which may or may not go over several lines. -/
def isForbiddenIn (multiline : Bool) (c : Char) : Bool :=
  isForbidden c && !(multiline && c = '\n')

/-- Puts characters before the text read after them. -/
def prependText (characters : List Char) (reading : Reading (List Char)) : Reading (List Char) :=
  match reading with
  | .ok (text, rest) => .ok (characters ++ text, rest)
  | .error fault => .error fault

/-- The character of a code point, unless it is half of a surrogate pair or none at all. -/
def scalar? (code : Nat) : Option Char :=
  if code < 0xD800 || (0xE000 ≤ code && code < 0x110000) then some (Char.ofNat code) else none

/-- The character that hexadecimal digits give. -/
def hexScalar? (digits : List Char) : Option Char :=
  match digits.mapM Json.hexValue? with
  | some values => scalar? (values.foldl (fun code value => code * 16 + value) 0)
  | none => none

/-- The character that a letter after a backslash stands for. -/
def escapedLetter? (letter : Char) : Option Char :=
  if letter = 'b' then some (Char.ofNat 0x8)
  else if letter = 't' then some '\t'
  else if letter = 'n' then some '\n'
  else if letter = 'f' then some (Char.ofNat 0xC)
  else if letter = 'r' then some '\r'
  else if letter = '"' || letter = '\\' then some letter
  else none

/-- Skipping blanks leaves no more than there was. -/
theorem length_skipBlanks_le (input : List Char) : (skipBlanks input).length ≤ input.length :=
  (List.dropWhile_sublist _).length_le

/-- Skipping blanks and breaks leaves no more than there was. -/
theorem length_skipBlanksAndBreaks_le (input : List Char) :
    (skipBlanksAndBreaks input).length ≤ input.length :=
  (List.dropWhile_sublist _).length_le

/-- What follows a line that a backslash ends: the characters after optional blanks, a line break,
and all the blanks and breaks after it. -/
def continuation? (input : List Char) : Option { rest : List Char // rest.length ≤ input.length } :=
  match found : skipBlanks input with
  | '\n' :: after =>
    some ⟨skipBlanksAndBreaks after, by
      have outer := length_skipBlanks_le input
      have inner := length_skipBlanksAndBreaks_le after
      rw [found, List.length_cons] at outer
      omega⟩
  | _ => none

/-- Reads a text between double quotes. A backslash at the end of a line, blanks aside, stands for
nothing and swallows the blanks and breaks that follow. -/
def readEscaped (multiline : Bool) : List Char → Reading (List Char)
  | [] => .error .invalid
  | '"' :: rest =>
    if !multiline then .ok ([], rest)
    else if rest.take 2 = ['"', '"'] then .ok ([], rest.drop 2)
    else prependText ['"'] (readEscaped multiline rest)
  | '\\' :: 'u' :: a :: b :: c :: d :: rest =>
    match hexScalar? [a, b, c, d] with
    | some character => prependText [character] (readEscaped multiline rest)
    | none => .error .invalid
  | '\\' :: 'U' :: a :: b :: c :: d :: e :: f :: g :: h :: rest =>
    match hexScalar? [a, b, c, d, e, f, g, h] with
    | some character => prependText [character] (readEscaped multiline rest)
    | none => .error .invalid
  | '\\' :: letter :: rest =>
    if multiline && (isBlankInLine letter || letter = '\n') then
      match continuation? (letter :: rest) with
      | some ⟨after, _bound⟩ => readEscaped multiline after
      | none => .error .invalid
    else match escapedLetter? letter with
      | some character => prependText [character] (readEscaped multiline rest)
      | none => .error .invalid
  | c :: rest =>
    if c = '\\' || isForbiddenIn multiline c then .error .invalid
    else prependText [c] (readEscaped multiline rest)
termination_by input => input.length
decreasing_by all_goals simp only [List.length_cons] at *; omega

/-- Reads a text between single quotes. -/
def readPlain (input : List Char) : Reading (List Char) :=
  let text := input.takeWhile (· ≠ '\'')
  match input.dropWhile (· ≠ '\'') with
  | [] => .error .invalid
  | _ :: rest => if text.any isForbidden then .error .invalid else .ok (text, rest)

/-- Reads a text between three single quotes on each side. -/
def readPlainLines : List Char → Reading (List Char)
  | [] => .error .invalid
  | '\'' :: '\'' :: '\'' :: rest => .ok ([], rest)
  | c :: rest =>
    if isForbiddenIn true c then .error .invalid else prependText [c] (readPlainLines rest)

/-- Up to two further quotes right after three closing ones belong to the text. -/
def takeClosingQuotes (quote : Char) : Reading (List Char) → Reading (List Char)
  | .error fault => .error fault
  | .ok (text, rest) =>
    let extra := (rest.take 2).takeWhile (· = quote)
    .ok (text ++ extra, rest.drop extra.length)

/-- A line break right after three opening quotes does not belong to the text. -/
def skipFirstBreak : List Char → List Char
  | '\n' :: rest => rest
  | rest => rest

end WorkspaceLint.Toml
