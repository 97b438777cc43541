import WorkspaceLint.Codec.Basic

/-!
# Encodings of Unicode

Besides UTF-8 there are encodings of Unicode that no source file can be declared in with profit, as
the declaration itself is read as UTF-8. They are known all the same. UTF-16 and UTF-32 come in two
orders of bytes each, and where the order is not part of the name, a byte order mark has to tell it.
Punycode writes a text as its ASCII characters, a hyphen, and numbers that say which other
characters go where.
-/

namespace WorkspaceLint.Unicode

open WorkspaceLint.Text (DecodeFault)

/-! ## Units of several bytes -/

/-- The order of the bytes of a unit. -/
inductive ByteOrder where
  | little
  | big
  deriving Repr, DecidableEq, Inhabited

/-- The unit that bytes make up, the most significant one first. -/
def unitOf (order : ByteOrder) (bytes : List UInt8) : Nat :=
  let bytes := match order with
    | .little => bytes.reverse
    | .big => bytes
  bytes.foldl (fun unit byte => unit * 256 + byte.toNat) 0

/-- The ending of a name that tells the order of bytes. -/
def ByteOrder.ending : ByteOrder → String
  | .little => "-le"
  | .big => "-be"

/-- A character in front of what is decoded after it. -/
def consCharacter (code : Nat) (rest : Except DecodeFault (List Char)) :
    Except DecodeFault (List Char) :=
  rest.map (Char.ofNat code :: ·)

/-- Decodes UTF-16 from the given position on. -/
def decodeUtf16From (order : ByteOrder) (position : Nat) :
    List UInt8 → Except DecodeFault (List Char)
  | [] => .ok []
  | [byte] =>
    .error ⟨"utf-16" ++ order.ending, byte, position, position + 1, "truncated data"⟩
  | first :: second :: rest =>
    let name := "utf-16" ++ order.ending
    let unit := unitOf order [first, second]
    if unit < 0xD800 || 0xE000 ≤ unit then
      consCharacter unit (decodeUtf16From order (position + 2) rest)
    else if 0xDC00 ≤ unit then
      .error ⟨name, first, position, position + 2, "illegal encoding"⟩
    else
      match rest with
      | third :: fourth :: rest =>
        let low := unitOf order [third, fourth]
        if 0xDC00 ≤ low && low < 0xE000 then
          consCharacter (0x10000 + (unit - 0xD800) * 0x400 + (low - 0xDC00))
            (decodeUtf16From order (position + 4) rest)
        else .error ⟨name, first, position, position + 2, "illegal UTF-16 surrogate"⟩
      | rest =>
        .error ⟨name, first, position, position + 2 + rest.length, "unexpected end of data"⟩

/-- Decodes UTF-32 from the given position on. -/
def decodeUtf32From (order : ByteOrder) (position : Nat) :
    List UInt8 → Except DecodeFault (List Char)
  | [] => .ok []
  | first :: second :: third :: fourth :: rest =>
    let name := "utf-32" ++ order.ending
    let code := unitOf order [first, second, third, fourth]
    if Decoded.isCharacter code then
      consCharacter code (decodeUtf32From order (position + 4) rest)
    else
      let reason := if code < 0x110000 then "code point in surrogate code point range(0xd800, 0xe000)"
        else "code point not in range(0x110000)"
      .error ⟨name, first, position, position + 4, reason⟩
  | first :: rest =>
    .error ⟨"utf-32" ++ order.ending, first, position, position + 1 + rest.length, "truncated data"⟩

/-! ## Byte order marks -/

/-- An encoding with units of several bytes: its name, the length of a unit, and its decoding. -/
structure WideEncoding where
  name : String
  width : Nat
  decodeFrom : ByteOrder → Nat → List UInt8 → Except DecodeFault (List Char)

namespace WideEncoding

/-- UTF-16. -/
def utf16 : WideEncoding := ⟨"UTF-16", 2, decodeUtf16From⟩

/-- UTF-32. -/
def utf32 : WideEncoding := ⟨"UTF-32", 4, decodeUtf32From⟩

/-- The order that the byte order mark at the front of some bytes tells. -/
def markedOrder? (encoding : WideEncoding) (bytes : List UInt8) : Option ByteOrder :=
  if bytes.length < encoding.width then none
  else [ByteOrder.little, .big].find? fun order =>
    unitOf order (bytes.take encoding.width) = 0xFEFF

/-- The decoder for an order of bytes that the name tells. -/
def ordered (encoding : WideEncoding) (order : ByteOrder) : Decoder :=
  .ofBlaming (encoding.decodeFrom order 0)

/-- The decoder for an order of bytes that a mark has to tell. Without a mark the bytes are decoded
in the usual order, and a text that is found that way is refused. -/
def marked (encoding : WideEncoding) : Decoder where
  decode bytes :=
    match encoding.markedOrder? bytes with
    | some order =>
      match encoding.decodeFrom order encoding.width (bytes.drop encoding.width) with
      | .ok found => .ok (.text found)
      | .error fault => .error (.ofDecoding bytes fault)
    | none =>
      match encoding.decodeFrom .little 0 bytes with
      | .error fault => .error (.ofDecoding bytes fault)
      | .ok found =>
        if bytes.isEmpty then .ok (.text found)
        else .error (Decoder.problemFault (encoding.name ++ " stream does not start with BOM"))
  isA_of_error bytes fault h := by
    split at h
    · split at h <;> cases h
      rfl
    · split at h
      · cases h
        rfl
      · split at h <;> cases h
        rfl

end WideEncoding

/-! ## Punycode -/

namespace Punycode

/-- The number that a digit stands for. -/
def digitOf? (c : Char) : Option Nat :=
  if c.isUpper then some (c.toNat - 65)
  else if c.isDigit then some (c.toNat - 48 + 26)
  else none

/-- The least number that a digit at a place cannot end a number with. -/
def threshold (bias place : Nat) : Nat := min 26 (max 1 (36 * (place + 1) - bias))

/-- Reads a number from its digits, of which the least significant one comes first. -/
def readNumber (bias : Nat) : (place weight number : Nat) → List Char →
    Except String (Nat × List Char)
  | _, _, _, [] => .error "incomplete punicode string"
  | place, weight, number, c :: rest =>
    match digitOf? c with
    | none => .error ("Invalid extended code point '" ++ String.ofList [c] ++ "'")
    | some digit =>
      let number := number + digit * weight
      if digit < threshold bias place then .ok (number, rest)
      else readNumber bias (place + 1) (weight * (36 - threshold bias place)) number rest

/-- A distance divided until it is small, with what the divisions amount to; `steps` bounds their
number. -/
def scaled : (steps : Nat) → Nat → Nat
  | 0, distance => 36 * distance / (distance + 38)
  | steps + 1, distance =>
    if distance > 455 then 36 + scaled steps (distance / 35) else 36 * distance / (distance + 38)

/-- The bias for the number after one with the given distance. -/
def adapted (distance : Nat) (isFirst : Bool) (count : Nat) : Nat :=
  let distance := if isFirst then distance / 700 else distance / 2
  scaled distance (distance + distance / count)

/-- Inserts the characters that the numbers in a text stand for; `fuel` bounds how many there are.
The next one has at least the given code and stands at the given place or behind it. -/
def insertAll : (fuel : Nat) → (isFirst : Bool) → (bias code place : Nat) → List Nat → List Char →
    Except String (List Nat)
  | 0, _, _, _, _, codes, _ => .ok codes
  | _, _, _, _, _, codes, [] => .ok codes
  | fuel + 1, isFirst, bias, code, place, codes, numbers =>
    match readNumber bias 0 1 0 numbers with
    | .error problem => .error problem
    | .ok (distance, rest) =>
      let count := codes.length + 1
      let code := code + (place + distance) / count
      let place := (place + distance) % count
      if code < 0x110000 then
        insertAll fuel false (adapted distance isFirst count) code (place + 1)
          (codes.take place ++ code :: codes.drop place) rest
      else .error ("Invalid character U+" ++ String.ofList (Nat.toDigits 16 code))

/-- The bytes before the last hyphen and after it. Without a hyphen all are after it. -/
def splitAtHyphen (bytes : List UInt8) : List UInt8 × List UInt8 :=
  let numbers := (bytes.reverse.takeWhile (· ≠ 45)).reverse
  (bytes.take (bytes.length - numbers.length - 1), numbers)

/-- The decoder of punycode. -/
def decoder : Decoder where
  decode bytes :=
    let (base, numbers) := splitAtHyphen bytes
    match Text.decodeAsciiFrom 0 base, Text.decodeAsciiFrom 0 numbers with
    | .error fault, _ => .error (.ofDecoding base fault)
    | _, .error fault => .error (.ofDecoding numbers fault)
    | .ok base, .ok numbers =>
      let numbers := numbers.map Char.toUpper
      match insertAll numbers.length true 72 128 0 (base.map Char.toNat) numbers with
      | .ok codes => .ok (.ofCodePoints codes)
      | .error problem => .error (Decoder.problemFault problem)
  isA_of_error bytes fault h := by
    dsimp only at h
    split at h
    · cases h
      rfl
    · cases h
      rfl
    · split at h <;> cases h
      rfl

end Punycode

end WorkspaceLint.Unicode
