import WorkspaceLint.Toml.Text
import WorkspaceLint.Value

/-!
# Numbers and moments in a descriptor document

A number is whole or has a fraction or an exponent; single low lines may stand between its digits,
and a whole number may be written in base sixteen, eight or two. A moment is a date of the calendar,
a time of day, or both with an optional offset. A reader gives nothing where the characters do not
begin with what it reads, so that the next one can be tried.
-/

namespace WorkspaceLint.Toml

open WorkspaceLint.Number (Binary64)

/-! ## Moments -/

/-- The number that two digits give, when it does not exceed a bound. -/
def twoDigits? (bound : Nat) (a b : Char) : Option Nat :=
  if a.isDigit && b.isDigit then
    let value := Json.decimalValue [a, b]
    if value ≤ bound then some value else none
  else none

/-- The characters after a time of day at the front. -/
def skipTime? : List Char → Option (List Char)
  | a :: b :: ':' :: c :: d :: ':' :: e :: f :: rest => do
    let _ ← twoDigits? 23 a b
    let _ ← twoDigits? 59 c d
    let _ ← twoDigits? 59 e f
    match rest with
    | '.' :: digit :: after =>
      if digit.isDigit then pure (after.dropWhile Char.isDigit) else pure rest
    | _ => pure rest
  | _ => none

/-- The characters after an offset at the front, or all of them where there is no offset. -/
def skipOffset : List Char → List Char
  | 'Z' :: rest => rest
  | 'z' :: rest => rest
  | sign :: a :: b :: ':' :: c :: d :: rest =>
    if (sign = '+' || sign = '-') && (twoDigits? 23 a b).isSome && (twoDigits? 59 c d).isSome
    then rest
    else sign :: a :: b :: ':' :: c :: d :: rest
  | rest => rest

/-- The number of days of a month. -/
def daysOfMonth (year month : Nat) : Nat :=
  if month = 2 then
    if (year % 4 = 0 && year % 100 != 0) || year % 400 = 0 then 29 else 28
  else if month = 4 || month = 6 || month = 9 || month = 11 then 30
  else 31

/-- Reads a date, with a time and an offset if they follow, or a time alone. A date that has the
form of one and is not in the calendar is a fault. -/
def readMoment? (input : List Char) : Option (Reading Value) :=
  match input with
  | a :: b :: c :: d :: '-' :: e :: f :: '-' :: g :: h :: rest =>
    match twoDigits? 12 e f, twoDigits? 31 g h with
    | some month, some day =>
      if !([a, b, c, d].all Char.isDigit) || month = 0 || day = 0 then none
      else
        let year := Json.decimalValue [a, b, c, d]
        if year = 0 || day > daysOfMonth year month then some (.error .invalid)
        else match rest with
          | separator :: after =>
            if separator = 'T' || separator = 't' || separator = ' ' then
              match skipTime? after with
              | some after => some (.ok (.moment, skipOffset after))
              | none => some (.ok (.moment, rest))
            else some (.ok (.moment, rest))
          | [] => some (.ok (.moment, []))
    | _, _ => none
  | _ => (skipTime? input).map fun rest => .ok (.moment, rest)

/-! ## Numbers -/

/-- The digits at the front that follow a first digit, without the low lines between them, and the
characters after them. -/
def moreDigits (isDigit : Char → Bool) : List Char → List Char × List Char
  | [] => ([], [])
  | '_' :: c :: rest =>
    if isDigit c then
      let (digits, after) := moreDigits isDigit rest
      (c :: digits, after)
    else ([], '_' :: c :: rest)
  | c :: rest =>
    if isDigit c then
      let (digits, after) := moreDigits isDigit rest
      (c :: digits, after)
    else ([], c :: rest)

/-- The run of digits at the front, at least one of them. -/
def digits? (isDigit : Char → Bool) : List Char → Option (List Char × List Char)
  | [] => none
  | c :: rest =>
    if isDigit c then
      let (digits, after) := moreDigits isDigit rest
      some (c :: digits, after)
    else none

/-- Whether a character is a digit in the given base. -/
def isDigitIn (base : Nat) (c : Char) : Bool :=
  match Json.hexValue? c with
  | some value => value < base
  | none => false

/-- The number that digits give in a base. -/
def valueIn (base : Nat) (digits : List Char) : Nat :=
  digits.foldl (fun value c => value * base + (Json.hexValue? c).getD 0) 0

/-- Reads a whole number in base sixteen, two or eight. -/
def readBased? : List Char → Option (Value × List Char)
  | '0' :: mark :: rest =>
    let base := if mark = 'x' then 16 else if mark = 'b' then 2 else if mark = 'o' then 8 else 0
    match digits? (isDigitIn base) rest with
    | some (digits, after) => some (.int (valueIn base digits), after)
    | none => none
  | _ => none

/-- The sign at the front, negative or not, and the characters after it. -/
def splitSign : List Char → Bool × List Char
  | '-' :: rest => (true, rest)
  | '+' :: rest => (false, rest)
  | rest => (false, rest)

/-- The whole part of a decimal number: a zero alone, or digits that do not begin with a zero. -/
def wholePart? : List Char → Option (List Char × List Char)
  | '0' :: rest => some (['0'], rest)
  | rest => digits? Char.isDigit rest

/-- The digits of a fraction at the front, none where there is no fraction. -/
def fractionPart : List Char → List Char × List Char
  | '.' :: rest => (digits? Char.isDigit rest).getD ([], '.' :: rest)
  | rest => ([], rest)

/-- The exponent at the front, if there is one. -/
def exponentPart : List Char → Option Int × List Char
  | mark :: rest =>
    if mark = 'e' || mark = 'E' then
      let (negative, unsigned) := splitSign rest
      match digits? Char.isDigit unsigned with
      | some (digits, after) =>
        let value : Int := Json.decimalValue digits
        (some (if negative then -value else value), after)
      | none => (none, mark :: rest)
    else (none, mark :: rest)
  | [] => (none, [])

/-- The most decimal digits that a whole number may have. -/
def mostDigits : Nat := 4300

/-- Reads a number. -/
def readNumber? (input : List Char) : Option (Reading Value) :=
  match readBased? input with
  | some read => some (.ok read)
  | none =>
    let (negative, unsigned) := splitSign input
    match wholePart? unsigned with
    | none => none
    | some (whole, rest) =>
      let (fraction, rest) := fractionPart rest
      let (exponent, rest) := exponentPart rest
      if fraction.isEmpty && exponent.isNone then
        if whole.length > mostDigits then some (.error (.tooManyDigits whole.length))
        else
          let value : Int := Json.decimalValue whole
          some (.ok (.int (if negative then -value else value), rest))
      else
        let digits := Json.decimalValue (whole ++ fraction)
        let exponent := exponent.getD 0 - fraction.length
        some (.ok (.float (Binary64.ofDecimal negative digits exponent), rest))

/-- Reads an infinity or the value that is not a number. -/
def readSpecial? (input : List Char) : Option (Value × List Char) :=
  let (negative, rest) := splitSign input
  match rest with
  | 'i' :: 'n' :: 'f' :: after => some (.float (.infinite negative), after)
  | 'n' :: 'a' :: 'n' :: after => some (.float .nan, after)
  | _ => none

end WorkspaceLint.Toml
