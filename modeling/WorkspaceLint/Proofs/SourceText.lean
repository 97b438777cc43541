import WorkspaceLint.Proofs.Outcome
import WorkspaceLint.SourceText

/-!
# What source files decode to

The text of a source file holds no line ending but line feeds, whatever its encoding,
`exists_eq_unifyLineEndings_of_ofBytes`. Where there is no text, the fault is of one of three
classes: a fault of the declaration, of a codec that is no text encoding, or of decoding,
`isAnyOf_toFault`.
-/

namespace WorkspaceLint

/-- No bytes are no characters. -/
theorem Text.decodeUtf8_nil : Text.decodeUtf8 [] = .ok [] := by
  rw [decodeUtf8, decodeUtf8From]

namespace SourceText

variable {codecs : CodecRegistry} {bytes : List UInt8}

/-- A file without bytes has the empty text. -/
theorem ofBytes_nil (codecs : CodecRegistry) : ofBytes codecs [] = .ok (.text []) := by
  have hdeclared : declared? codecs false [] = .ok none := by
    rw [declared?, Text.decodeUtf8_nil]
    rfl
  have hencoding : encodingOf codecs false [] = .ok .utf8 := by
    simp only [encodingOf, firstLine, hdeclared]
    rfl
  have hdecoded : decodeAs .utf8 [] = .ok (.text []) := by
    change ((Decoder.utf8.decode []).mapError Fault.undecodable) = _
    simp only [Decoder.utf8, Decoder.ofBlaming, Text.decodeUtf8_nil]
    rfl
  simp only [ofBytes, splitMark, hencoding, hdecoded]
  rfl

/-- A text has had its line endings unified. -/
theorem exists_eq_unifyLineEndings_of_ofBytes {text : List Char}
    (h : ofBytes codecs bytes = .ok (.text text)) : ∃ raw, text = Text.unifyLineEndings raw := by
  unfold ofBytes at h
  dsimp only at h
  split at h
  · cases h
  · obtain ⟨decoded, -, hdecoded⟩ := map_eq_ok_iff.mp h
    cases decoded with
    | text raw => exact ⟨raw, (Decoded.text.inj hdecoded).symm⟩
    | illFormed problem => cases hdecoded

/-! ## Faults -/

/-- What is wrong with a declaration is reported as a fault of syntax. -/
theorem isA_toFault_of_declared? {hasMark : Bool} {line : List UInt8} {fault : Fault}
    (h : declared? codecs hasMark line = .error fault) (path : String) :
    (fault.toFault path).isA "SyntaxError" = true := by
  unfold declared? at h
  split at h
  · cases h
    rfl
  split at h
  · cases h
  split at h
  · cases h
    rfl
  split at h
  · cases h
    rfl
  · cases h

/-- Where no encoding can be told, a declaration is to blame. -/
theorem isA_toFault_of_encodingOf {hasMark : Bool} {fault : Fault}
    (h : encodingOf codecs hasMark bytes = .error fault) (path : String) :
    (fault.toFault path).isA "SyntaxError" = true := by
  unfold encodingOf at h
  dsimp only at h
  split at h
  next hfirst =>
    cases h
    exact isA_toFault_of_declared? hfirst path
  · cases h
  split at h
  · cases h
  split at h
  next hsecond =>
    cases h
    exact isA_toFault_of_declared? hsecond path
  · cases h

/-- Decoding fails with a fault of decoding, or because the codec is no text encoding. -/
theorem isA_toFault_of_decodeAs {encoding : Encoding} {fault : Fault}
    (h : decodeAs encoding bytes = .error fault) (path : String) :
    (fault.toFault path).isA "LookupError" = true
      ∨ (fault.toFault path).isA "UnicodeError" = true := by
  unfold decodeAs at h
  split at h
  next decoder _ =>
    obtain ⟨origin, horigin, rfl⟩ := mapError_eq_error_iff.mp h
    exact .inr (decoder.isA_of_error _ _ horigin)
  · cases h
    exact .inl rfl

/-- The classes of the faults of a file without a text. -/
def faultClasses : List String := ["SyntaxError", "LookupError", "UnicodeError"]

/-- Why a file has no text is a fault of one of three classes. -/
theorem isAnyOf_toFault {fault : Fault} (h : ofBytes codecs bytes = .error fault) (path : String) :
    (fault.toFault path).isAnyOf faultClasses = true := by
  unfold ofBytes at h
  dsimp only at h
  rw [Fault.isAnyOf, List.any_eq_true]
  split at h
  next hencoding =>
    cases h
    exact ⟨_, .head _, isA_toFault_of_encodingOf hencoding path⟩
  · rcases isA_toFault_of_decodeAs (map_eq_error_iff.mp h) path with hlookup | hunicode
    · exact ⟨_, .tail _ (.head _), hlookup⟩
    · exact ⟨_, .tail _ (.tail _ (.head _)), hunicode⟩

end SourceText

end WorkspaceLint
