import WorkspaceLint.Codec.CodePage
import WorkspaceLint.Fault.Basic
import WorkspaceLint.Text.Lines

/-!
# Codecs

A text encoding turns bytes into code points, or it fails with a fault of decoding, which often says
which bytes are to blame. Code points need not be characters: a few encodings let surrogates
through, and a text with surrogates is none that a parser takes. Codecs of other kinds turn bytes
into bytes, or text into text, and cannot decode a file.
-/

namespace WorkspaceLint

/-! ## Decoded text -/

/-- What decoding gives: characters, or code points some of which are no characters, with the
problem that a parser has with such a text. -/
inductive Decoded where
  | text (characters : List Char)
  | illFormed (problem : String)
  deriving Repr, DecidableEq, Inhabited

namespace Decoded

/-- Whether a code point is that of a character. -/
def isCharacter (code : Nat) : Bool := code < 0xD800 || (0xE000 ≤ code && code < 0x110000)

/-- Code points with every line ending written as a line feed. -/
def unifyEndings : List Nat → List Nat
  | [] => []
  | 13 :: 10 :: rest => 10 :: unifyEndings rest
  | code :: rest => (if code = 13 then 10 else code) :: unifyEndings rest

/-- What a parser has to say against a text with surrogates: the first run of them cannot be
encoded. -/
def surrogateProblem (codes : List Nat) : String :=
  let codes := unifyEndings codes
  let start := (codes.takeWhile isCharacter).length
  let run := (codes.drop start).takeWhile fun code => !isCharacter code
  let place := match run with
    | [code] =>
      "character '\\u" ++ String.ofList (Text.hexDigits 4 code) ++ "' in position " ++ toString start
    | run => "characters in position " ++ toString start ++ "-" ++ toString (start + run.length - 1)
  "UnicodeEncodeError: 'utf-8' codec can't encode " ++ place ++ ": surrogates not allowed"

/-- The text with the given code points. -/
def ofCodePoints (codes : List Nat) : Decoded :=
  if codes.all isCharacter then .text (codes.map Char.ofNat) else .illFormed (surrogateProblem codes)

/-- What is decoded with every line ending written as a line feed. -/
def unifyLineEndings : Decoded → Decoded
  | .text characters => .text (Text.unifyLineEndings characters)
  | .illFormed problem => .illFormed problem

end Decoded

/-! ## Text encodings -/

/-- A way of decoding bytes as text. What it raises is a fault of decoding. -/
structure Decoder where
  decode : List UInt8 → Except Fault Decoded
  isA_of_error : ∀ bytes fault, decode bytes = .error fault → fault.isA "UnicodeError" = true

namespace Decoder

/-- The fault of bytes that cannot be decoded for a reason of their own. -/
def problemFault (problem : String) : Fault := .withMessage "UnicodeError" problem

/-- A decoder that fails where some bytes are to blame. -/
def ofBlaming (decode : List UInt8 → Except Text.DecodeFault (List Char)) : Decoder where
  decode bytes :=
    match decode bytes with
    | .ok text => .ok (.text text)
    | .error fault => .error (.ofDecoding bytes fault)
  isA_of_error bytes fault h := by
    split at h
    · cases h
    · cases h
      rfl

/-- The decoder of UTF-8. -/
def utf8 : Decoder := ofBlaming Text.decodeUtf8

/-- The decoder of Latin-1, which every sequence of bytes is a text of. -/
def latin1 : Decoder := ofBlaming fun bytes => .ok (Text.decodeLatin1 bytes)

/-- The decoder of ASCII. -/
def ascii : Decoder := ofBlaming (Text.decodeAsciiFrom 0)

/-- The decoder of a code page. -/
def ofPage (page : CodePage) : Decoder := ofBlaming page.decode

/-- The decoder that takes nothing for a text. -/
def undefined : Decoder where
  decode _ := .error (problemFault "undefined encoding")
  isA_of_error _ _ h := by
    cases h
    rfl

end Decoder

/-! ## Registries -/

/-- What a name of a codec stands for: a text encoding, or a codec of another kind. -/
inductive Codec where
  | text (decoder : Decoder)
  | other

/-- The codecs that are known, under their names. -/
abbrev CodecRegistry := String → Option Codec

end WorkspaceLint
