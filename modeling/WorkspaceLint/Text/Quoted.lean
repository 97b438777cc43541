import WorkspaceLint.Text.Printable

/-!
# Quoted text

A quoted text stands between single quotes, or between double quotes when it holds a single quote
and no double one. Inside, the quote in use and the backslash are escaped by a backslash, the three
common blanks have letters of their own, and any other character that is not printable is given by
its code point with two, four or eight hexadecimal digits. Quoted bytes follow the same rules with
every byte beyond the printable characters of ASCII given by two digits.
-/

namespace WorkspaceLint.Text

/-- One hexadecimal digit, in lower case. -/
def hexDigit (n : Nat) : Char :=
  if n < 10 then Char.ofNat (48 + n) else Char.ofNat (87 + n)

/-- The last `width` hexadecimal digits of a number. -/
def hexDigits : (width n : Nat) → List Char
  | 0, _ => []
  | width + 1, n => hexDigits width (n / 16) ++ [hexDigit (n % 16)]

/-- The quote that a text is written between. -/
def quoteFor (text : List Char) : Char :=
  if text.contains '\'' && !text.contains '"' then '"' else '\''

/-- How one character is written between quotes of the given kind. -/
def quoteCharacter (quote : Char) (c : Char) : List Char :=
  if c = quote || c = '\\' then ['\\', c]
  else if c = '\n' then ['\\', 'n']
  else if c = '\r' then ['\\', 'r']
  else if c = '\t' then ['\\', 't']
  else if isPrintable c then [c]
  else if c.toNat < 0x100 then '\\' :: 'x' :: hexDigits 2 c.toNat
  else if c.toNat < 0x10000 then '\\' :: 'u' :: hexDigits 4 c.toNat
  else '\\' :: 'U' :: hexDigits 8 c.toNat

/-- A text between quotes, with escapes for what cannot stand there as it is. -/
def quoted (text : String) : String :=
  let quote := quoteFor text.toList
  String.ofList (quote :: text.toList.flatMap (quoteCharacter quote) ++ [quote])

/-- How one byte is written between quotes of the given kind. -/
def quoteByte (quote : Char) (byte : UInt8) : List Char :=
  let c := Char.ofNat byte.toNat
  if byte < 0x80 then quoteCharacter quote c else '\\' :: 'x' :: hexDigits 2 byte.toNat

/-- A sequence of bytes between quotes, marked by the letter b. -/
def quotedBytes (bytes : List UInt8) : String :=
  let quote := quoteFor (bytes.map fun byte => Char.ofNat byte.toNat)
  String.ofList ('b' :: quote :: bytes.flatMap (quoteByte quote) ++ [quote])

end WorkspaceLint.Text
