import WorkspaceLint.Json.Basic

/-!
# Reading JSON

The reader follows the grammar of JSON and accepts nothing else. It works on the characters of the
text and bounds its recursion by their number, since every step of it consumes one.
-/

namespace WorkspaceLint.Json

/-- The characters that may stand between tokens. -/
def isGap (c : Char) : Bool := c = ' ' || c = '\n' || c = '\r' || c = '\t'

/-- The rest of a text after its leading blanks. -/
def skipGap (input : List Char) : List Char := input.dropWhile isGap

/-- The rest of a text after an expected beginning. -/
def expect? : (expected input : List Char) → Option (List Char)
  | [], input => some input
  | _ :: _, [] => none
  | e :: expected, c :: input => if e = c then expect? expected input else none

/-- The value of a hexadecimal digit. -/
def hexValue? (c : Char) : Option Nat :=
  let code := c.toNat
  if 48 ≤ code && code ≤ 57 then some (code - 48)
  else if 97 ≤ code && code ≤ 102 then some (code - 87)
  else if 65 ≤ code && code ≤ 70 then some (code - 55)
  else none

/-- The number that four hexadecimal digits give. -/
def hexValue4? (a b c d : Char) : Option Nat := do
  let a ← hexValue? a
  let b ← hexValue? b
  let c ← hexValue? c
  let d ← hexValue? d
  pure (((a * 16 + b) * 16 + c) * 16 + d)

/-- The character that a letter after a backslash stands for. -/
def escaped? (letter : Char) : Option Char :=
  if letter = '"' || letter = '\\' || letter = '/' then some letter
  else if letter = 'b' then some (Char.ofNat 0x8)
  else if letter = 'f' then some (Char.ofNat 0xC)
  else if letter = 'n' then some '\n'
  else if letter = 'r' then some '\r'
  else if letter = 't' then some '\t'
  else none

/-- Puts a character before the text read after it. -/
def prepend (c : Char) : Option (List Char × List Char) → Option (List Char × List Char)
  | some (characters, rest) => some (c :: characters, rest)
  | none => none

/-- Reads a text after its opening quote. Two escapes of the halves of a surrogate pair give one
character. -/
def readText : List Char → Option (List Char × List Char)
  | [] => none
  | '"' :: rest => some ([], rest)
  | '\\' :: 'u' :: a :: b :: c :: d :: '\\' :: 'u' :: e :: f :: g :: h :: rest =>
    match hexValue4? a b c d, hexValue4? e f g h with
    | some high, some low =>
      if 0xD800 ≤ high && high < 0xDC00 && 0xDC00 ≤ low && low < 0xE000 then
        prepend (Char.ofNat (0x10000 + (high - 0xD800) * 0x400 + (low - 0xDC00))) (readText rest)
      else prepend (Char.ofNat high) (readText ('\\' :: 'u' :: e :: f :: g :: h :: rest))
    | some high, none =>
      prepend (Char.ofNat high) (readText ('\\' :: 'u' :: e :: f :: g :: h :: rest))
    | none, _ => none
  | '\\' :: 'u' :: a :: b :: c :: d :: rest =>
    match hexValue4? a b c d with
    | some code => prepend (Char.ofNat code) (readText rest)
    | none => none
  | '\\' :: letter :: rest =>
    match escaped? letter with
    | some c => prepend c (readText rest)
    | none => none
  | c :: rest => if c.toNat < 0x20 || c = '\\' then none else prepend c (readText rest)
termination_by input => input.length

/-- The number that a run of decimal digits gives. -/
def decimalValue (digits : List Char) : Nat :=
  digits.foldl (fun value digit => value * 10 + (digit.toNat - 48)) 0

/-- Reads the digits of an exponent, with an optional sign. -/
def readExponent (input : List Char) : Option (Int × List Char) :=
  let (negative, unsigned) :=
    match input with
    | '-' :: rest => (true, rest)
    | '+' :: rest => (false, rest)
    | rest => (false, rest)
  let digits := unsigned.takeWhile Char.isDigit
  if digits.isEmpty then none
  else
    let value : Int := decimalValue digits
    some (if negative then -value else value, unsigned.dropWhile Char.isDigit)

/-- Reads a number. -/
def readNumber (input : List Char) : Option (Json × List Char) :=
  let (negative, unsigned) :=
    match input with
    | '-' :: rest => (true, rest)
    | rest => (false, rest)
  let whole := unsigned.takeWhile Char.isDigit
  let afterWhole := unsigned.dropWhile Char.isDigit
  if whole.isEmpty || (whole.length > 1 && whole.head? = some '0') then none
  else
    let fraction? : Option (List Char × List Char) :=
      match afterWhole with
      | '.' :: rest =>
        let digits := rest.takeWhile Char.isDigit
        if digits.isEmpty then none else some (digits, rest.dropWhile Char.isDigit)
      | rest => some ([], rest)
    match fraction? with
    | none => none
    | some (fraction, afterFraction) =>
      let digits := decimalValue (whole ++ fraction)
      match afterFraction with
      | c :: rest =>
        if c = 'e' || c = 'E' then
          match readExponent rest with
          | some (exponent, rest) => some (.real negative digits (exponent - fraction.length), rest)
          | none => none
        else if fraction.isEmpty then
          some (.int (if negative then -(digits : Int) else digits), c :: rest)
        else some (.real negative digits (-fraction.length), c :: rest)
      | [] =>
        if fraction.isEmpty then some (.int (if negative then -(digits : Int) else digits), [])
        else some (.real negative digits (-fraction.length), [])

mutual

/-- Reads a value. -/
def readValue : (fuel : Nat) → List Char → Option (Json × List Char)
  | 0, _ => none
  | fuel + 1, input =>
    match skipGap input with
    | 'n' :: rest => (expect? ['u', 'l', 'l'] rest).map fun rest => (.null, rest)
    | 't' :: rest => (expect? ['r', 'u', 'e'] rest).map fun rest => (.bool true, rest)
    | 'f' :: rest => (expect? ['a', 'l', 's', 'e'] rest).map fun rest => (.bool false, rest)
    | '"' :: rest => (readText rest).map fun read => (.text (String.ofList read.1), read.2)
    | '[' :: rest =>
      match skipGap rest with
      | ']' :: rest => some (.list [], rest)
      | rest => (readItems fuel rest).map fun read => (.list read.1, read.2)
    | '\x7b' :: rest =>
      match skipGap rest with
      | '\x7d' :: rest => some (.object [], rest)
      | rest => (readMembers fuel rest).map fun read => (.object read.1, read.2)
    | rest => readNumber rest

/-- Reads the items of a list, one at least, and its end. -/
def readItems : (fuel : Nat) → List Char → Option (List Json × List Char)
  | 0, _ => none
  | fuel + 1, input =>
    match readValue fuel input with
    | none => none
    | some (item, rest) =>
      match skipGap rest with
      | ',' :: rest => (readItems fuel rest).map fun read => (item :: read.1, read.2)
      | ']' :: rest => some ([item], rest)
      | _ => none

/-- Reads the members of an object, one at least, and its end. -/
def readMembers : (fuel : Nat) → List Char → Option (List (String × Json) × List Char)
  | 0, _ => none
  | fuel + 1, input =>
    match skipGap input with
    | '"' :: rest =>
      match readText rest with
      | none => none
      | some (key, rest) =>
        match skipGap rest with
        | ':' :: rest =>
          match readValue fuel rest with
          | none => none
          | some (value, rest) =>
            let member := (String.ofList key, value)
            match skipGap rest with
            | ',' :: rest => (readMembers fuel rest).map fun read => (member :: read.1, read.2)
            | '\x7d' :: rest => some ([member], rest)
            | _ => none
        | _ => none
    | _ => none

end

/-- Reads a whole text as one value. -/
def read? (input : String) : Option Json :=
  let characters := input.toList
  match readValue (2 * characters.length + 2) characters with
  | some (json, rest) => if (skipGap rest).isEmpty then some json else none
  | none => none

end WorkspaceLint.Json
