import WorkspaceLint.Codec.Unicode

/-!
# The standard registry

A codec answers to its proper name and to further names. Letter case does not matter, nor which
hyphens and low lines stand between the parts of a name. Known here are the encodings of Unicode,
the code pages and the codecs that are no text encodings. The encodings of East Asian languages,
those of domain names and of mail, and the escapes of string literals are left to other registries.
-/

namespace WorkspaceLint

/-! ## Names -/

/-- The parts of a name between its hyphens and low lines. -/
def nameParts (name : List Char) : List (List Char) :=
  (Text.splitAt '_' (name.map fun c => if c = '-' then '_' else c)).filter fun part => !part.isEmpty

/-- A name in lower case, with one low line between its parts. -/
def foldedName (name : String) : List Char :=
  (((nameParts name.toList).intersperse ['_']).flatten).map Char.toLower

/-- What is known of a codec: its proper name and further names, in their folded form. -/
structure CodecEntry where
  name : String
  aliases : List String
  codec : Codec

namespace CodecEntry

/-- Whether a folded name is one of a codec. A further name may have dots in the place of its low
lines, a proper name may not. -/
def answersTo (entry : CodecEntry) (folded : List Char) : Bool :=
  let name := String.ofList folded
  entry.name == name || entry.aliases.contains name
    || entry.aliases.contains (String.ofList (folded.map fun c => if c = '.' then '_' else c))

/-- A text encoding under its names. -/
def ofDecoder (name : String) (aliases : List String) (decoder : Decoder) : CodecEntry :=
  ⟨name, aliases, .text decoder⟩

/-- A codec under its names that is no text encoding. -/
def ofOther (name : String) (aliases : List String) : CodecEntry := ⟨name, aliases, .other⟩

/-- A code page under its names. -/
def ofPage (page : CodePage) : CodecEntry := .ofDecoder page.name page.aliases (.ofPage page)

end CodecEntry

/-! ## Known codecs -/

namespace CodecRegistry

open Unicode (WideEncoding)

/-- The encodings of Unicode and of its first blocks. -/
def unicodeEntries : List CodecEntry := [
    .ofDecoder "utf_8" ["u8", "utf", "utf8", "utf8_ucs2", "utf8_ucs4", "cp65001"] .utf8,
    .ofDecoder "utf_8_sig" [] .utf8,
    .ofDecoder "utf_16" ["u16", "utf16"] WideEncoding.utf16.marked,
    .ofDecoder "utf_16_be" ["unicodebigunmarked", "utf_16be"] (WideEncoding.utf16.ordered .big),
    .ofDecoder "utf_16_le" ["unicodelittleunmarked", "utf_16le"]
      (WideEncoding.utf16.ordered .little),
    .ofDecoder "utf_32" ["u32", "utf32"] WideEncoding.utf32.marked,
    .ofDecoder "utf_32_be" ["utf_32be"] (WideEncoding.utf32.ordered .big),
    .ofDecoder "utf_32_le" ["utf_32le"] (WideEncoding.utf32.ordered .little),
    .ofDecoder "punycode" [] Unicode.Punycode.decoder,
    .ofDecoder "latin_1"
      ["8859", "cp819", "csisolatin1", "ibm819", "iso8859", "iso8859_1", "iso_8859_1",
        "iso_8859_1_1987", "iso_ir_100", "l1", "latin", "latin1"] .latin1,
    .ofDecoder "iso8859_1" [] .latin1,
    .ofDecoder "charmap" [] .latin1,
    .ofDecoder "ascii"
      ["646", "ansi_x3.4_1968", "ansi_x3.4_1986", "ansi_x3_4_1968", "cp367", "csascii", "ibm367",
        "iso646_us", "iso_646.irv_1991", "iso_ir_6", "us", "us_ascii"] .ascii,
    .ofDecoder "undefined" [] .undefined]

/-- The codecs that are no text encodings. -/
def otherEntries : List CodecEntry := [
    .ofOther "base64_codec" ["base64", "base_64"],
    .ofOther "bz2_codec" ["bz2"],
    .ofOther "hex_codec" ["hex"],
    .ofOther "quopri_codec" ["quopri", "quoted_printable", "quotedprintable"],
    .ofOther "rot_13" ["rot13"],
    .ofOther "uu_codec" ["uu"],
    .ofOther "zlib_codec" ["zip", "zlib"]]

/-- The registry of the given codecs. The first that answers to a name is the one it stands for. -/
def ofEntries (entries : List CodecEntry) : CodecRegistry := fun name =>
  (entries.find? fun entry => entry.answersTo (foldedName name)).map CodecEntry.codec

/-- The standard registry. -/
def standard : CodecRegistry :=
  ofEntries (unicodeEntries ++ CodePage.standard.map CodecEntry.ofPage ++ otherEntries)

end CodecRegistry

end WorkspaceLint
