import WorkspaceLint.Codec.Standard

/-!
# The text of a source file

A source file is decoded as UTF-8 unless one of its first two lines is a comment that declares
another encoding. A byte order mark at the front settles for UTF-8 and is not part of the text; a
declaration that says otherwise contradicts it. The name of a declared encoding is looked up in a
registry, where it may be that of a codec which is no text encoding. After decoding, every line
ending is a line feed.
-/

namespace WorkspaceLint.SourceText

/-- An encoding as it is reported, with what its name stands for. -/
structure Encoding where
  name : String
  codec : Codec

/-- The encoding of files that declare none. -/
def Encoding.utf8 : Encoding := ⟨"utf-8", .text .utf8⟩

/-- Why a source file has no text. -/
inductive Fault where
  | undecodableDeclaration
  | unknownEncoding (name : String)
  | contradictsMark
  | notText (name : String)
  | undecodable (fault : WorkspaceLint.Fault)
  deriving Repr, Inhabited

/-- The fault that reading the file at a path ends in. -/
def Fault.toFault (path : String) : Fault → WorkspaceLint.Fault
  | .undecodableDeclaration =>
    .withMessage "SyntaxError" ("invalid or missing encoding declaration for " ++ Text.quoted path)
  | .unknownEncoding name =>
    .withMessage "SyntaxError" ("unknown encoding for " ++ Text.quoted path ++ ": " ++ name)
  | .contradictsMark =>
    .withMessage "SyntaxError" ("encoding problem for " ++ Text.quoted path ++ ": utf-8")
  | .notText name =>
    .withMessage "LookupError"
      (Text.quoted name ++ " is not a text encoding; use codecs.open() to handle arbitrary codecs")
  | .undecodable fault => fault

/-! ## Encoding declarations -/

/-- Whether a character may stand before a comment on its line. -/
def isIndentation (c : Char) : Bool := c = ' ' || c = '\t' || c = '\x0c'

/-- Whether a character may stand in the name of an encoding. -/
def isNameCharacter (c : Char) : Bool := c.isAlphanum || c = '_' || c = '-' || c = '.'

/-- The name after the word that declares an encoding, if the text begins with that word. -/
def nameAfterWord? : List Char → Option (List Char)
  | 'c' :: 'o' :: 'd' :: 'i' :: 'n' :: 'g' :: mark :: rest =>
    if mark = ':' || mark = '=' then
      let name := (rest.dropWhile fun c => c = ' ' || c = '\t').takeWhile isNameCharacter
      if name.isEmpty then none else some name
    else none
  | _ => none

/-- The name that the first declaration in a comment gives. -/
def declaredIn? : List Char → Option (List Char)
  | [] => none
  | '\n' :: _ => none
  | c :: rest =>
    match nameAfterWord? (c :: rest) with
    | some name => some name
    | none => declaredIn? rest

/-- The name of the encoding that a line declares, if it is a comment that does. -/
def declaredName? (line : List Char) : Option (List Char) :=
  match line.dropWhile isIndentation with
  | '#' :: comment => declaredIn? comment
  | _ => none

/-- Whether a line holds nothing but blanks or a comment. -/
def isBlankLine (line : List Char) : Bool :=
  match line.dropWhile isIndentation with
  | [] => true
  | c :: _ => c = '#' || c = '\r' || c = '\n'

/-- Whether a text is one of the given words or starts with one of them and a hyphen. -/
def isVariantOf (words : List String) (name : String) : Bool :=
  words.any fun word => name == word || (word ++ "-").toList.isPrefixOf name.toList

/-- The name of an encoding as it is reported: the usual spellings of UTF-8 and Latin-1 become one
each, any other name stays as it was declared. -/
def reportedName (name : List Char) : String :=
  let folded := String.ofList <| (name.take 12).map fun c => if c = '_' then '-' else c.toLower
  if isVariantOf ["utf-8"] folded then "utf-8"
  else if isVariantOf ["latin-1", "iso-8859-1", "iso-latin-1"] folded then "iso-8859-1"
  else String.ofList name

/-- The encoding that a name stands for. UTF-8 is one whatever the registry holds. -/
def encodingOf? (codecs : CodecRegistry) (name : String) : Option Encoding :=
  if name = Encoding.utf8.name then some .utf8 else (codecs name).map fun codec => ⟨name, codec⟩

/-- The encoding that a line declares, if it does. -/
def declared? (codecs : CodecRegistry) (hasMark : Bool) (line : List UInt8) :
    Except Fault (Option Encoding) :=
  match Text.decodeUtf8 line with
  | .error _ => .error .undecodableDeclaration
  | .ok line =>
    match declaredName? line with
    | none => .ok none
    | some name =>
      match encodingOf? codecs (reportedName name) with
      | none => .error (.unknownEncoding (reportedName name))
      | some encoding =>
        if hasMark && encoding.name != Encoding.utf8.name then .error .contradictsMark
        else .ok (some encoding)

/-! ## Decoding -/

/-- The bytes of the first line, with its line feed, and the bytes after it. -/
def firstLine : List UInt8 → List UInt8 × List UInt8
  | [] => ([], [])
  | byte :: rest =>
    if byte = 10 then ([byte], rest)
    else
      let (line, after) := firstLine rest
      (byte :: line, after)

/-- The bytes after a byte order mark, and whether there was one. -/
def splitMark : List UInt8 → Bool × List UInt8
  | 0xEF :: 0xBB :: 0xBF :: rest => (true, rest)
  | bytes => (false, bytes)

/-- The encoding of a file's bytes, given without a byte order mark. -/
def encodingOf (codecs : CodecRegistry) (hasMark : Bool) (bytes : List UInt8) :
    Except Fault Encoding :=
  let (first, rest) := firstLine bytes
  match declared? codecs hasMark first with
  | .error fault => .error fault
  | .ok (some encoding) => .ok encoding
  | .ok none =>
    if !isBlankLine (Text.decodeLatin1 first) then .ok .utf8
    else match declared? codecs hasMark (firstLine rest).1 with
      | .error fault => .error fault
      | .ok encoding => .ok (encoding.getD .utf8)

/-- Decodes bytes. -/
def decodeAs (encoding : Encoding) (bytes : List UInt8) : Except Fault Decoded :=
  match encoding.codec with
  | .text decoder => (decoder.decode bytes).mapError .undecodable
  | .other => .error (.notText encoding.name)

/-- The text of a source file. -/
def ofBytes (codecs : CodecRegistry) (bytes : List UInt8) : Except Fault Decoded :=
  let (hasMark, bytes) := splitMark bytes
  match encodingOf codecs hasMark bytes with
  | .error fault => .error fault
  | .ok encoding => (decodeAs encoding bytes).map Decoded.unifyLineEndings

end WorkspaceLint.SourceText
