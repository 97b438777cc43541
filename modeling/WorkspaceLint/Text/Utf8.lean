import WorkspaceLint.Text.Quoted

/-!
# Decoding bytes

Bytes are decoded as UTF-8, as ASCII or as Latin-1. A failed decoding says which bytes are to blame
and why, in the words that a diagnostic shows. In UTF-8 the blame falls on the longest run of bytes
that begins a character and cannot be continued by what follows.
-/

namespace WorkspaceLint.Text

/-- Why bytes could not be decoded: the bytes from position `start` up to position `stop`, the first
of which is `byte`, and the reason. -/
structure DecodeFault where
  codec : String
  byte : UInt8
  start : Nat
  stop : Nat
  reason : String
  deriving Repr, DecidableEq, Inhabited

/-- The one-line account of a failed decoding. -/
def DecodeFault.message (fault : DecodeFault) : String :=
  let place :=
    if fault.stop = fault.start + 1 then
      "byte 0x" ++ String.ofList (hexDigits 2 fault.byte.toNat) ++ " in position "
        ++ toString fault.start
    else "bytes in position " ++ toString fault.start ++ "-" ++ toString (fault.stop - 1)
  "'" ++ fault.codec ++ "' codec can't decode " ++ place ++ ": " ++ fault.reason

/-- Whether a byte continues a character begun before it. -/
def isContinuation (byte : UInt8) : Bool := 0x80 ≤ byte && byte < 0xC0

/-- How many continuation bytes a first byte asks for; none when no character begins with it. -/
def continuationCount (first : UInt8) : Option Nat :=
  if first < 0x80 then some 0
  else if 0xC2 ≤ first && first < 0xE0 then some 1
  else if 0xE0 ≤ first && first < 0xF0 then some 2
  else if 0xF0 ≤ first && first < 0xF5 then some 3
  else none

/-- Whether a byte may follow a first byte. Some first bytes narrow the range, which rules out
overlong forms, surrogates and code points beyond the last one. -/
def continues (first second : UInt8) : Bool :=
  isContinuation second
    && (first != 0xE0 || 0xA0 ≤ second) && (first != 0xED || second < 0xA0)
    && (first != 0xF0 || 0x90 ≤ second) && (first != 0xF4 || second < 0x90)

/-- The six payload bits of a continuation byte put below the bits read so far. -/
private def addPayload (code : Nat) (byte : UInt8) : Nat := code * 64 + byte.toNat % 64

/-- How many of the bytes after `first` continue its character, out of the `wanted` ones. -/
private def continuedRun (first : UInt8) (wanted : Nat) (rest : List UInt8) : List UInt8 :=
  match rest with
  | [] => []
  | second :: more =>
    if wanted = 0 || !continues first second then []
    else second :: (more.take (wanted - 1)).takeWhile isContinuation

/-- The number of values that the first byte can contribute when the given number of bytes follow.
-/
def leadCapacity (wanted : Nat) : Nat := if wanted = 0 then 128 else 64 >>> wanted

/-- Decodes UTF-8 from the given position on. -/
def decodeUtf8From (position : Nat) (bytes : List UInt8) : Except DecodeFault (List Char) :=
  match bytes with
  | [] => .ok []
  | first :: rest =>
    match continuationCount first with
    | none => .error ⟨"utf-8", first, position, position + 1, "invalid start byte"⟩
    | some wanted =>
      let run := continuedRun first wanted rest
      if run.length = wanted then
        let lead := first.toNat % leadCapacity wanted
        let c := Char.ofNat (run.foldl addPayload lead)
        match decodeUtf8From (position + 1 + wanted) (rest.drop wanted) with
        | .ok text => .ok (c :: text)
        | .error fault => .error fault
      else if run.length = rest.length then
        .error ⟨"utf-8", first, position, position + 1 + run.length, "unexpected end of data"⟩
      else
        .error ⟨"utf-8", first, position, position + 1 + run.length, "invalid continuation byte"⟩
termination_by bytes.length
decreasing_by simp only [List.length_cons, List.length_drop]; omega

/-- Decodes UTF-8. -/
def decodeUtf8 (bytes : List UInt8) : Except DecodeFault (List Char) := decodeUtf8From 0 bytes

/-- Decodes ASCII from the given position on. -/
def decodeAsciiFrom (position : Nat) : List UInt8 → Except DecodeFault (List Char)
  | [] => .ok []
  | byte :: rest =>
    if byte < 0x80 then
      match decodeAsciiFrom (position + 1) rest with
      | .ok text => .ok (Char.ofNat byte.toNat :: text)
      | .error fault => .error fault
    else .error ⟨"ascii", byte, position, position + 1, "ordinal not in range(128)"⟩

/-- Decodes Latin-1, where every byte is the character of its code point. -/
def decodeLatin1 (bytes : List UInt8) : List Char := bytes.map fun byte => Char.ofNat byte.toNat

/-- The UTF-8 bytes of a text. -/
def encodeUtf8 (text : String) : List UInt8 := text.toUTF8.toList

end WorkspaceLint.Text
