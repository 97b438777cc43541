import WorkspaceLint.Text.Ranges

/-!
# Blank characters

The characters that separate words and nothing else have the Unicode property of white space.
-/

namespace WorkspaceLint.Text

/-- The characters with the property of white space. -/
private def whiteSpace : Ranges := [
    (0x9, 0xD), (0x20, 0x20), (0x85, 0x85), (0xA0, 0xA0), (0x1680, 0x1680), (0x2000, 0x200A),
    (0x2028, 0x2029), (0x202F, 0x202F), (0x205F, 0x205F), (0x3000, 0x3000)]

/-- Whether a character has the property of white space. -/
def isWhiteSpace (c : Char) : Bool := whiteSpace.contains c.toNat

/-- A text without the characters of a class at its two ends. -/
def trim (drop : Char → Bool) (text : List Char) : List Char :=
  ((text.dropWhile drop).reverse.dropWhile drop).reverse

end WorkspaceLint.Text
