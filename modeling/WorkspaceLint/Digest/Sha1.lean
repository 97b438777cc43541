/-!
# The digest SHA-1

The digest of a message is worked out block by block. The message is padded to whole blocks of 64
bytes, the last eight of which hold its length in bits; each block is spread to 80 words, and 80
rounds stir the words into a state of five. The digest is the text of the final state in hexadecimal
digits.
-/

namespace WorkspaceLint.Digest

/-- The state of the digest: five words. -/
structure Sha1State where
  a : UInt32
  b : UInt32
  c : UInt32
  d : UInt32
  e : UInt32
  deriving Repr, DecidableEq, Inhabited

namespace Sha1State

/-- The state before the first block. -/
def initial : Sha1State := ⟨0x67452301, 0xEFCDAB89, 0x98BADCFE, 0x10325476, 0xC3D2E1F0⟩

/-- Two states added word by word. -/
def add (s t : Sha1State) : Sha1State := ⟨s.a + t.a, s.b + t.b, s.c + t.c, s.d + t.d, s.e + t.e⟩

/-- The words of a state. -/
def words (s : Sha1State) : List UInt32 := [s.a, s.b, s.c, s.d, s.e]

end Sha1State

/-- A word with its bits moved up by a number of places, those that leave coming back below. -/
def rotateUp (places : UInt32) (word : UInt32) : UInt32 :=
  (word <<< places) ||| (word >>> (32 - places))

/-! ## Blocks -/

/-- The last `count` bytes of a number, highest first. -/
def bigEndian : (count n : Nat) → List UInt8
  | 0, _ => []
  | count + 1, n => bigEndian count (n / 256) ++ [(n % 256).toUInt8]

/-- What follows a message of the given number of bytes up to the end of its last block. -/
def padding (length : Nat) : List UInt8 :=
  0x80 :: List.replicate ((119 - length % 64) % 64) 0 ++ bigEndian 8 (8 * length)

/-- The words that bytes form, four bytes to a word. -/
def wordsOf : List UInt8 → List UInt32
  | a :: b :: c :: d :: rest =>
    ((a.toUInt32 <<< 24) ||| (b.toUInt32 <<< 16) ||| (c.toUInt32 <<< 8) ||| d.toUInt32)
      :: wordsOf rest
  | _ => []

/-- The blocks of a sequence of words, sixteen words to a block. -/
def blocksOf : (count : Nat) → List UInt32 → List (List UInt32)
  | 0, _ => []
  | count + 1, words => words.take 16 :: blocksOf count (words.drop 16)

/-- Words, the latest first, with a number of further ones, each made of four before it. -/
def extend : (count : Nat) → List UInt32 → List UInt32
  | 0, latest => latest
  | count + 1, latest =>
    let word := latest.getD 2 0 ^^^ latest.getD 7 0 ^^^ latest.getD 13 0 ^^^ latest.getD 15 0
    extend count (rotateUp 1 word :: latest)

/-- The 80 words that a block is spread to. -/
def schedule (block : List UInt32) : List UInt32 := (extend 64 block.reverse).reverse

/-! ## Rounds -/

/-- The function and the constant of a round. -/
def roundTerms (round : Nat) (s : Sha1State) : UInt32 × UInt32 :=
  if round < 20 then ((s.b &&& s.c) ||| (~~~s.b &&& s.d), 0x5A827999)
  else if round < 40 then (s.b ^^^ s.c ^^^ s.d, 0x6ED9EBA1)
  else if round < 60 then ((s.b &&& s.c) ||| (s.b &&& s.d) ||| (s.c &&& s.d), 0x8F1BBCDC)
  else (s.b ^^^ s.c ^^^ s.d, 0xCA62C1D6)

/-- One round. -/
def stir (s : Sha1State) (word : UInt32 × Nat) : Sha1State :=
  let (value, constant) := roundTerms word.2 s
  ⟨rotateUp 5 s.a + value + s.e + constant + word.1, s.a, rotateUp 30 s.b, s.c, s.d⟩

/-- The state after a block. -/
def compress (s : Sha1State) (block : List UInt32) : Sha1State :=
  s.add ((schedule block).zipIdx.foldl stir s)

/-- The state after a message. -/
def sha1State (message : List UInt8) : Sha1State :=
  let padded := message ++ padding message.length
  (blocksOf (padded.length / 64) (wordsOf padded)).foldl compress .initial

/-- One hexadecimal digit, in lower case. -/
def hexDigit (n : Nat) : Char := if n < 10 then Char.ofNat (48 + n) else Char.ofNat (87 + n)

/-- The eight hexadecimal digits of a word. -/
def wordDigits (word : UInt32) : List Char :=
  [7, 6, 5, 4, 3, 2, 1, 0].map fun place => hexDigit ((word.toNat >>> (4 * place)) % 16)

/-- The digest of a message in 40 hexadecimal digits. -/
def sha1 (message : List UInt8) : List Char := (sha1State message).words.flatMap wordDigits

end WorkspaceLint.Digest
