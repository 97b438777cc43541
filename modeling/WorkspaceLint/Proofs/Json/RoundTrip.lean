import Mathlib.Data.List.TakeWhile
import WorkspaceLint.Json.Reader
import WorkspaceLint.Json.Writer

/-!
# Written JSON is read back

Reading what is written of a JSON value gives the value back, `Json.read?_write`, whatever its texts
hold, however large its numbers are, and with any indentation.

## Shape of the proof

The reader takes a value off the front of its input and leaves the rest, so each part of it is said
to take off exactly what the writer puts there, whatever stands behind:

* `readText_flatMap` — the characters of a text, up to the closing quote.
* `readNumber_signed`, `readNumber_writeReal` — the digits of a number. A number has no end of its
  own, so what stands behind it must not continue it, `EndsNumber`.
* `readItems_writeItems`, `readMembers_writeMembers` — what stands between the brackets of a list or
  an object whose parts are read back, by induction on the parts behind the first one.
* `readsBack` — values, by recursion on the value. The steps that the reader may take are bounded;
  it never needs more of them than there are characters.
-/

namespace WorkspaceLint.Json

open WorkspaceLint.Text (hexDigit hexDigits)

/-! ## Texts -/

/-- A hexadecimal digit is read back. -/
theorem hexValue?_hexDigit : ∀ n < 16, hexValue? (hexDigit n) = some n := by
  decide

/-- Four hexadecimal digits are read back as the number they stand for. -/
theorem hexValue4?_hexDigits {n : Nat} (h : n < 0x10000) :
    ∃ a b c d, hexDigits 4 n = [a, b, c, d] ∧ hexValue4? a b c d = some n := by
  refine ⟨_, _, _, _, rfl, ?_⟩
  have hdigit (m : Nat) : hexValue? (hexDigit (m % 16)) = some (m % 16) :=
    hexValue?_hexDigit _ (Nat.mod_lt _ (by decide))
  rw [hexValue4?, hdigit, hdigit, hdigit, hdigit]
  refine congrArg some ?_
  omega

/-- An escape by a code point below those of the surrogates stands for itself, even if another
escape comes behind it. -/
theorem readText_codePoint {a b c d : Char} {code : Nat} (hcode : hexValue4? a b c d = some code)
    (hlow : code < 0xD800) (rest : List Char) :
    readText ('\\' :: 'u' :: a :: b :: c :: d :: rest)
      = prepend (Char.ofNat code) (readText rest) := by
  by_cases hescape : ∃ e f g h more, rest = '\\' :: 'u' :: e :: f :: g :: h :: more
  · obtain ⟨e, f, g, h, more, rfl⟩ := hescape
    rw [readText, hcode]
    cases hexValue4? e f g h with
    | none => rfl
    | some low => simp [show ¬ 0xD800 ≤ code by omega]
  · rw [readText, hcode]
    exact fun e f g h more heq => hescape ⟨e, f, g, h, more, heq⟩

/-- A backslash and a letter are read as the character that they stand for. -/
theorem readText_escape {letter c : Char} (hletter : letter ≠ 'u') (hc : escaped? letter = some c)
    (rest : List Char) : readText ('\\' :: letter :: rest) = prepend c (readText rest) := by
  rw [readText, hc]
  all_goals simp [hletter]

/-- A character that needs no backslash is read as itself. -/
theorem readText_plain {c : Char} (hquote : c ≠ '"') (hbackslash : c ≠ '\\')
    (hcontrol : ¬ c.toNat < 0x20) (rest : List Char) :
    readText (c :: rest) = prepend c (readText rest) := by
  rw [readText, if_neg (by simp [hcontrol, hbackslash])]
  all_goals simp [hquote, hbackslash]

/-- The reader takes off what is written of one character. -/
theorem readText_writeCharacter (c : Char) (rest : List Char) :
    readText (writeCharacter c ++ rest) = prepend c (readText rest) := by
  have hcharacter {code : Nat} (h : c.toNat = code) : c = Char.ofNat code := by
    rw [← h, Char.ofNat_toNat]
  unfold writeCharacter
  -- One case for each way in which a character is written.
  split_ifs with hquote hbackslash hbackspace hfeed hline hreturn htab hcontrol
  · subst hquote
    exact readText_escape (by decide) rfl rest
  · subst hbackslash
    exact readText_escape (by decide) rfl rest
  · obtain rfl := hcharacter hbackspace
    exact readText_escape (by decide) rfl rest
  · obtain rfl := hcharacter hfeed
    exact readText_escape (by decide) rfl rest
  · subst hline
    exact readText_escape (by decide) rfl rest
  · subst hreturn
    exact readText_escape (by decide) rfl rest
  · subst htab
    exact readText_escape (by decide) rfl rest
  · obtain ⟨x, y, z, w, hdigits, hvalue⟩ := hexValue4?_hexDigits (n := c.toNat) (by omega)
    rw [hdigits]
    exact (readText_codePoint hvalue (by omega) rest).trans (by rw [Char.ofNat_toNat])
  · exact readText_plain hquote hbackslash hcontrol rest

/-- The reader takes off what is written of a text, and its closing quote. -/
theorem readText_flatMap (text rest : List Char) :
    readText (text.flatMap writeCharacter ++ '"' :: rest) = some (text, rest) := by
  induction text with
  | nil => rw [List.flatMap_nil, List.nil_append, readText]
  | cons c text ih =>
    rw [List.flatMap_cons, List.append_assoc, readText_writeCharacter, ih, prepend]

/-! ## Numbers -/

/-- What stands behind a number does not continue it. -/
def EndsNumber (rest : List Char) : Prop :=
  ∀ c ∈ rest.head?, c.isDigit = false ∧ c ≠ '.' ∧ c ≠ 'e' ∧ c ≠ 'E'

/-- The sign of a number and its digits. -/
def signed (negative : Bool) (n : Nat) : List Char :=
  (if negative then ['-'] else []) ++ Nat.toDigits 10 n

/-- The text of an integer is its sign and the digits of its size. -/
theorem toString_int_toList (value : Int) :
    (toString value).toList = signed (decide (value < 0)) value.natAbs := by
  rw [Int.toString_eq_repr, Int.repr_eq_if]
  rcases Int.lt_or_le value 0 with h | h
  · rw [if_neg (by omega), String.toList_append, Nat.toList_repr, signed, decide_eq_true h,
      show (-value).toNat = value.natAbs by omega]
    rfl
  · rw [if_pos h, Nat.toList_repr, signed, decide_eq_false (by omega),
      show value.toNat = value.natAbs by omega]
    rfl

/-- An integer is put together from its sign and its size. -/
theorem intOf_natAbs (value : Int) :
    (if decide (value < 0) = true then -(value.natAbs : Int) else value.natAbs) = value := by
  split
  next hnegative =>
    have hlt : value < 0 := of_decide_eq_true hnegative
    omega
  next hnegative =>
    have hle : ¬ value < 0 := fun hlt => hnegative (decide_eq_true hlt)
    omega

/-- The digits of a number are digits. -/
theorem isDigit_of_mem_toDigits {n : Nat} {c : Char} (h : c ∈ Nat.toDigits 10 n) :
    c.isDigit = true :=
  Nat.isDigit_of_mem_toDigits (by decide) (by decide) h

/-- The digits of a number have its value. -/
theorem decimalValue_toDigits (n : Nat) : decimalValue (Nat.toDigits 10 n) = n := by
  have hfold : decimalValue (Nat.toDigits 10 n) = Nat.ofDigitChars 10 (Nat.toDigits 10 n) 0 := by
    rw [decimalValue, Nat.ofDigitChars]
    congr 1
    funext value digit
    rw [Nat.mul_comm]
    rfl
  rw [hfold, Nat.ofDigitChars_toDigits (by decide) (by decide)]

/-- Only the number zero begins with a zero. -/
theorem head_toDigits_ne_zero {n : Nat} (h : n ≠ 0) : (Nat.toDigits 10 n).head? ≠ some '0' := by
  induction n using Nat.strongRecOn with
  | ind n ih =>
    by_cases hsmall : n < 10
    · rw [Nat.toDigits_of_lt_base hsmall]
      simpa using h
    · obtain ⟨digit, digits, hdigits⟩ := List.exists_cons_of_ne_nil
        (Nat.toDigits_ne_nil (n := n / 10) (b := 10))
      have hrest := ih (n / 10) (by omega) (by omega)
      rw [Nat.toDigits_of_base_le (by decide) (by omega), hdigits]
      rwa [hdigits] at hrest

/-- A number has a digit, and the first of several is not a zero. -/
theorem hasNoLeadingZero_toDigits (n : Nat) :
    ((Nat.toDigits 10 n).isEmpty
      || ((Nat.toDigits 10 n).length > 1 && (Nat.toDigits 10 n).head? = some '0')) = false := by
  by_cases h : n = 0
  · rw [h]
    decide
  · simp [head_toDigits_ne_zero h]

/-- The digits in front of something else are taken. -/
theorem takeWhile_isDigit {rest : List Char} (h : ∀ c ∈ rest.head?, c.isDigit = false) (n : Nat) :
    (Nat.toDigits 10 n ++ rest).takeWhile Char.isDigit = Nat.toDigits 10 n := by
  rw [List.takeWhile_append_of_pos fun c => isDigit_of_mem_toDigits]
  cases rest with
  | nil => simp
  | cons c rest => simp [h c rfl]

/-- What is left behind the digits is what stands there. -/
theorem dropWhile_isDigit {rest : List Char} (h : ∀ c ∈ rest.head?, c.isDigit = false) (n : Nat) :
    (Nat.toDigits 10 n ++ rest).dropWhile Char.isDigit = rest := by
  rw [List.dropWhile_append_of_pos fun c => isDigit_of_mem_toDigits]
  cases rest with
  | nil => simp
  | cons c rest => simp [h c rfl]

/-- What begins with a sign or a digit. -/
theorem signed_append (negative : Bool) (n : Nat) (rest : List Char) :
    negative = true ∧ signed negative n ++ rest = '-' :: (Nat.toDigits 10 n ++ rest)
    ∨ negative = false ∧ ∃ digit more, digit.isDigit = true
      ∧ signed negative n ++ rest = digit :: more ∧ Nat.toDigits 10 n ++ rest = digit :: more := by
  cases negative with
  | true => exact .inl ⟨rfl, rfl⟩
  | false =>
    obtain ⟨digit, digits, hdigits⟩ := List.exists_cons_of_ne_nil
      (Nat.toDigits_ne_nil (n := n) (b := 10))
    have hdigit : digit.isDigit = true := isDigit_of_mem_toDigits (hdigits ▸ List.mem_cons_self)
    refine .inr ⟨rfl, digit, digits ++ rest, hdigit, ?_, ?_⟩
    · rw [signed, hdigits]
      rfl
    · rw [hdigits]
      rfl

/-- The reader takes off a sign and digits, and looks for an exponent behind them. -/
theorem readNumber_signed_append {rest : List Char}
    (h : ∀ c ∈ rest.head?, c.isDigit = false ∧ c ≠ '.') (negative : Bool) (n : Nat) :
    readNumber (signed negative n ++ rest) = match rest with
      | c :: more =>
        if c = 'e' ∨ c = 'E' then
          (readExponent more).map fun read => (.real negative n read.1, read.2)
        else some (.int (if negative then -n else n), rest)
      | [] => some (.int (if negative then -n else n), rest) := by
  have hdigit : ∀ c ∈ rest.head?, c.isDigit = false := fun c hc => (h c hc).1
  unfold readNumber
  split
  next sign unsigned hsign =>
    -- A minus sign is read off; without one, the first digit is not taken for it.
    obtain ⟨rfl, rfl⟩ : sign = negative ∧ unsigned = Nat.toDigits 10 n ++ rest := by
      rcases signed_append negative n rest with ⟨rfl, hinput⟩ | ⟨rfl, digit, more, hc, hinput, hmore⟩
      · rw [hinput] at hsign
        exact ⟨(Prod.mk.inj hsign).1.symm, (Prod.mk.inj hsign).2.symm⟩
      · rw [hinput] at hsign
        split at hsign
        next heq =>
          obtain ⟨rfl, -⟩ := List.cons.inj heq
          cases hc
        · exact ⟨(Prod.mk.inj hsign).1.symm, hmore ▸ (Prod.mk.inj hsign).2.symm⟩
    dsimp only
    rw [takeWhile_isDigit hdigit, dropWhile_isDigit hdigit, hasNoLeadingZero_toDigits,
      if_neg Bool.false_ne_true]
    cases rest with
    | nil => simp [decimalValue_toDigits]
    | cons c more =>
      have hpoint : c ≠ '.' := (h c rfl).2
      split
      next hfraction =>
        split at hfraction
        next heq => exact absurd (List.cons.inj heq).1 hpoint
        · cases hfraction
      next fraction afterFraction hfraction =>
        split at hfraction
        next heq => exact absurd (List.cons.inj heq).1 hpoint
        · obtain ⟨rfl, rfl⟩ := Prod.mk.inj (Option.some.inj hfraction)
          by_cases hexponent : c = 'e' ∨ c = 'E'
          · cases hread : readExponent more <;> simp [hexponent, hread, decimalValue_toDigits]
          · simp [hexponent, decimalValue_toDigits]

/-- A signed number is read back up to where it ends. -/
theorem readNumber_signed {rest : List Char} (h : EndsNumber rest) (negative : Bool) (n : Nat) :
    readNumber (signed negative n ++ rest)
      = some (.int (if negative then -n else n), rest) := by
  rw [readNumber_signed_append fun c hc => ⟨(h c hc).1, (h c hc).2.1⟩]
  cases rest with
  | nil => rfl
  | cons c rest => exact if_neg (not_or.mpr (h c rfl).2.2)

/-- An exponent is read back up to where it ends. -/
theorem readExponent_toString {rest : List Char} (h : EndsNumber rest) (exponent : Int) :
    readExponent ((toString exponent).toList ++ rest) = some (exponent, rest) := by
  have hdigit : ∀ c ∈ rest.head?, c.isDigit = false := fun c hc => (h c hc).1
  rw [toString_int_toList]
  unfold readExponent
  split
  next sign unsigned hsign =>
    -- The text of an exponent has no plus sign, which could be read as well.
    obtain ⟨rfl, rfl⟩ :
        sign = decide (exponent < 0) ∧ unsigned = Nat.toDigits 10 exponent.natAbs ++ rest := by
      rcases signed_append (decide (exponent < 0)) exponent.natAbs rest with
        ⟨hnegative, hinput⟩ | ⟨hnegative, digit, more, hc, hinput, hmore⟩
      · rw [hinput] at hsign
        exact ⟨hnegative ▸ (Prod.mk.inj hsign).1.symm, (Prod.mk.inj hsign).2.symm⟩
      · rw [hinput] at hsign
        split at hsign
        next heq =>
          obtain ⟨rfl, -⟩ := List.cons.inj heq
          cases hc
        next heq =>
          obtain ⟨rfl, -⟩ := List.cons.inj heq
          cases hc
        · exact ⟨hnegative ▸ (Prod.mk.inj hsign).1.symm, hmore ▸ (Prod.mk.inj hsign).2.symm⟩
    dsimp only
    rw [takeWhile_isDigit hdigit, dropWhile_isDigit hdigit, if_neg (by simp), decimalValue_toDigits,
      intOf_natAbs]

/-- The text of a real number in parts: signed digits, the letter and the exponent. -/
theorem writeReal_append (negative : Bool) (digits : Nat) (exponent : Int) (rest : List Char) :
    writeReal negative digits exponent ++ rest
      = signed negative digits ++ 'e' :: ((toString exponent).toList ++ rest) := by
  simp [writeReal, signed]

/-- The reader takes off a decimal number, as far as its digits go. -/
theorem readNumber_writeReal {rest : List Char} (h : EndsNumber rest) (negative : Bool)
    (digits : Nat) (exponent : Int) :
    readNumber (writeReal negative digits exponent ++ rest)
      = some (.real negative digits exponent, rest) := by
  rw [writeReal_append, readNumber_signed_append (by simp)]
  simp only [true_or, if_true, readExponent_toString h, Option.map_some]

/-! ## Values -/

/-- What is written of a value at a depth is taken off, whatever stands behind it. -/
def ReadsBack (indent : Option Nat) (depth : Nat) (json : Json) : Prop :=
  ∀ fuel rest, (writeAt indent depth json).length ≤ fuel → EndsNumber rest →
    readValue fuel (writeAt indent depth json ++ rest) = some (json, rest)

/-! ### Gaps -/

/-- Characters that may stand between tokens. -/
def IsGap (gap : List Char) : Prop := ∀ c ∈ gap, isGap c = true

/-- What begins a line is a gap. -/
theorem isGap_lineAt (indent : Option Nat) (depth : Nat) : IsGap (lineAt indent depth) := by
  intro c hc
  cases indent with
  | none => cases hc
  | some width =>
    rcases List.mem_cons.mp hc with rfl | hc
    · rfl
    · rw [List.eq_of_mem_replicate hc]
      rfl

/-- A gap in front is skipped. -/
theorem skipGap_append {gap : List Char} (h : IsGap gap) (input : List Char) :
    skipGap (gap ++ input) = skipGap input :=
  List.dropWhile_append_of_pos h

/-- Nothing is skipped in front of a character that is no gap. -/
theorem skipGap_cons {c : Char} (h : isGap c = false) (rest : List Char) :
    skipGap (c :: rest) = c :: rest := by
  simp [skipGap, h]

/-- A gap is skipped up to the first character that is none. -/
theorem skipGap_append_cons {gap : List Char} (hgap : IsGap gap) {c : Char} (hc : isGap c = false)
    (rest : List Char) : skipGap (gap ++ c :: rest) = c :: rest := by
  rw [skipGap_append hgap, skipGap_cons hc]

/-- Reading a value skips a gap in front. -/
theorem readValue_append_gap {gap : List Char} (h : IsGap gap) (fuel : Nat) (input : List Char) :
    readValue fuel (gap ++ input) = readValue fuel input := by
  cases fuel with
  | zero => rfl
  | succ fuel => rw [readValue, readValue, skipGap_append h]

/-- Reading items skips a gap in front. -/
theorem readItems_append_gap {gap : List Char} (h : IsGap gap) (fuel : Nat) (input : List Char) :
    readItems fuel (gap ++ input) = readItems fuel input := by
  cases fuel with
  | zero => rfl
  | succ fuel => rw [readItems, readItems, readValue_append_gap h]

/-- Reading members skips a gap in front. -/
theorem readMembers_append_gap {gap : List Char} (h : IsGap gap) (fuel : Nat) (input : List Char) :
    readMembers fuel (gap ++ input) = readMembers fuel input := by
  cases fuel with
  | zero => rfl
  | succ fuel => rw [readMembers, readMembers, skipGap_append h]

/-- A character that is part of no number ends one. -/
theorem endsNumber_cons {c : Char} (hc : c.isDigit = false ∧ c ≠ '.' ∧ c ≠ 'e' ∧ c ≠ 'E')
    (rest : List Char) : EndsNumber (c :: rest) :=
  fun _ hd => Option.some.inj hd ▸ hc

/-- A gap and a mark behind it do not continue a number. -/
theorem endsNumber_append_cons {gap : List Char} (hgap : IsGap gap) {c : Char}
    (hc : c.isDigit = false ∧ c ≠ '.' ∧ c ≠ 'e' ∧ c ≠ 'E') (rest : List Char) :
    EndsNumber (gap ++ c :: rest) := by
  cases gap with
  | nil => exact endsNumber_cons hc rest
  | cons blank gap =>
    have hblank := hgap blank List.mem_cons_self
    simp only [isGap, Bool.or_eq_true, decide_eq_true_eq] at hblank
    refine endsNumber_cons ?_ (gap ++ c :: rest)
    rcases hblank with ((rfl | rfl) | rfl) | rfl <;> decide

/-! ### Scalars -/

/-- A text is read back. -/
theorem readsBack_text (indent : Option Nat) (depth : Nat) (value : String) :
    ReadsBack indent depth (.text value) := by
  intro fuel rest hfuel _
  cases fuel with
  | zero => simp [writeAt, writeText] at hfuel
  | succ fuel =>
    have hinput : writeAt indent depth (.text value) ++ rest
        = '"' :: (value.toList.flatMap writeCharacter ++ '"' :: rest) := by
      simp [writeAt, writeText]
    rw [hinput, readValue, skipGap_cons (by decide)]
    simp [readText_flatMap]

/-- A number begins with a sign or a digit, and neither is a mark of anything else. -/
theorem exists_head_signed (negative : Bool) (n : Nat) (rest : List Char) :
    ∃ c more, signed negative n ++ rest = c :: more ∧ isGap c = false
      ∧ ∀ mark ∈ ['n', 't', 'f', '"', '[', ']', '\x7b'], c ≠ mark := by
  have hnotGap {c : Char} (h : c = '-' ∨ c.isDigit = true) :
      isGap c = false ∧ ∀ mark ∈ ['n', 't', 'f', '"', '[', ']', '\x7b'], c ≠ mark := by
    refine ⟨?_, ?_⟩
    · by_contra hblank
      simp only [isGap, Bool.not_eq_false, Bool.or_eq_true, decide_eq_true_eq] at hblank
      rcases hblank with ((rfl | rfl) | rfl) | rfl <;> simp at h
    · rintro mark hmark rfl
      simp only [List.mem_cons, List.not_mem_nil, or_false] at hmark
      rcases hmark with rfl | rfl | rfl | rfl | rfl | rfl | rfl <;> simp at h
  rcases signed_append negative n rest with ⟨-, h⟩ | ⟨-, digit, more, hdigit, h, -⟩
  · exact ⟨_, _, h, hnotGap (.inl rfl)⟩
  · exact ⟨_, _, h, hnotGap (.inr hdigit)⟩

/-- Where a signed number stands, a number is read. -/
theorem readValue_signed (fuel : Nat) (negative : Bool) (n : Nat) (rest : List Char) :
    readValue (fuel + 1) (signed negative n ++ rest) = readNumber (signed negative n ++ rest) := by
  obtain ⟨c, more, hinput, hgap, hmarks⟩ := exists_head_signed negative n rest
  rw [hinput, readValue, skipGap_cons hgap]
  -- Every case but the last begins with a mark that no number begins with.
  split
  all_goals try exact absurd (List.cons.inj ‹_›).1 (hmarks _ (by simp))
  rfl

/-- An integer is read back. -/
theorem readsBack_int (indent : Option Nat) (depth : Nat) (value : Int) :
    ReadsBack indent depth (.int value) := by
  intro fuel rest hfuel hrest
  rw [writeAt, toString_int_toList] at hfuel ⊢
  cases fuel with
  | zero => simp [signed] at hfuel
  | succ fuel => rw [readValue_signed, readNumber_signed hrest, intOf_natAbs]

/-- A real number is read back. -/
theorem readsBack_real (indent : Option Nat) (depth : Nat) (negative : Bool) (digits : Nat)
    (exponent : Int) : ReadsBack indent depth (.real negative digits exponent) := by
  intro fuel rest hfuel hrest
  rw [writeAt] at hfuel ⊢
  cases fuel with
  | zero => simp [writeReal] at hfuel
  | succ fuel =>
    rw [writeReal_append, readValue_signed, ← writeReal_append, readNumber_writeReal hrest]

/-- A word is taken off by its first letter and the letters that are expected behind it. -/
theorem expect?_append (word rest : List Char) : expect? word (word ++ rest) = some rest := by
  induction word with
  | nil => rfl
  | cons c word ih => simp [expect?, ih]

/-- The null value is read back. -/
theorem readsBack_null (indent : Option Nat) (depth : Nat) : ReadsBack indent depth .null := by
  intro fuel rest hfuel _
  cases fuel with
  | zero => simp [writeAt] at hfuel
  | succ fuel =>
    change readValue (fuel + 1) ('n' :: (['u', 'l', 'l'] ++ rest)) = _
    rw [readValue, skipGap_cons rfl]
    simp only [expect?_append, Option.map_some]

/-- A truth value is read back. -/
theorem readsBack_bool (indent : Option Nat) (depth : Nat) (value : Bool) :
    ReadsBack indent depth (.bool value) := by
  intro fuel rest hfuel _
  cases fuel with
  | zero => cases value <;> simp [writeAt] at hfuel
  | succ fuel =>
    cases value with
    | true =>
      change readValue (fuel + 1) ('t' :: (['r', 'u', 'e'] ++ rest)) = _
      rw [readValue, skipGap_cons rfl]
      simp only [expect?_append, Option.map_some]
    | false =>
      change readValue (fuel + 1) ('f' :: (['a', 'l', 's', 'e'] ++ rest)) = _
      rw [readValue, skipGap_cons rfl]
      simp only [expect?_append, Option.map_some]

/-! ### Lists -/

/-- A list with items in parts, from its opening bracket to its closing one. -/
theorem writeAt_list (indent : Option Nat) (depth : Nat) (item : Json) (items : List Json) :
    writeAt indent depth (.list (item :: items))
      = '[' :: (lineAt indent (depth + 1) ++ (writeAt indent (depth + 1) item
        ++ (writeItems indent (depth + 1) items ++ (lineAt indent depth ++ [']'])))) := by
  simp only [writeAt, List.cons_append, List.append_assoc]

/-- An object with members in parts, from its opening brace to its closing one. -/
theorem writeAt_object (indent : Option Nat) (depth : Nat) (member : String × Json)
    (members : List (String × Json)) :
    writeAt indent depth (.object (member :: members))
      = '\x7b' :: (lineAt indent (depth + 1) ++ (writeText member.1 ++ (keySeparator indent
        ++ (writeAt indent (depth + 1) member.2 ++ (writeMembers indent (depth + 1) members
          ++ (lineAt indent depth ++ ['\x7d'])))))) := by
  simp only [writeAt, List.cons_append, List.append_assoc]

/-- A value begins with a character that is neither a gap nor the end of a list. -/
theorem exists_head_writeAt (indent : Option Nat) (depth : Nat) (json : Json) :
    ∃ c more, writeAt indent depth json = c :: more ∧ isGap c = false ∧ c ≠ ']' := by
  cases json with
  | null => exact ⟨_, _, rfl, by decide⟩
  | bool value => cases value <;> exact ⟨_, _, rfl, by decide⟩
  | int value =>
    obtain ⟨c, more, hinput, hgap, hmarks⟩ :=
      exists_head_signed (decide (value < 0)) value.natAbs []
    rw [writeAt, toString_int_toList]
    exact ⟨c, more, by rw [← hinput, List.append_nil], hgap, hmarks _ (by simp)⟩
  | real negative digits exponent =>
    obtain ⟨c, more, hinput, hgap, hmarks⟩ :=
      exists_head_signed negative digits ('e' :: ((toString exponent).toList ++ []))
    rw [← writeReal_append, List.append_nil] at hinput
    exact ⟨c, more, by rw [writeAt, hinput], hgap, hmarks _ (by simp)⟩
  | text value => exact ⟨_, _, rfl, by decide⟩
  | list items =>
    cases items with
    | nil => exact ⟨_, _, rfl, by decide⟩
    | cons item items => exact ⟨_, _, writeAt_list indent depth item items, by decide⟩
  | object members =>
    cases members with
    | nil => exact ⟨_, _, rfl, by decide⟩
    | cons member members => exact ⟨_, _, writeAt_object indent depth member members, by decide⟩

/-- After an item and a comma the other items are read. -/
theorem readItems_next {fuel : Nat} {input tail rest : List Char} {item : Json}
    (hitem : readValue fuel input = some (item, tail)) (htail : skipGap tail = ',' :: rest) :
    readItems (fuel + 1) input = (readItems fuel rest).map fun read => (item :: read.1, read.2) := by
  rw [readItems, hitem]
  simp only [htail]

/-- An item and a closing bracket end the items. -/
theorem readItems_end {fuel : Nat} {input tail rest : List Char} {item : Json}
    (hitem : readValue fuel input = some (item, tail)) (htail : skipGap tail = ']' :: rest) :
    readItems (fuel + 1) input = some ([item], rest) := by
  rw [readItems, hitem]
  simp only [htail]

/-- The reader takes off the items of a list, and its end. -/
theorem readItems_writeItems {indent : Option Nat} {depth : Nat} {gap : List Char}
    (hgap : IsGap gap) (items : List Json) (item : Json)
    (h : ∀ other ∈ item :: items, ReadsBack indent depth other) (fuel : Nat) (rest : List Char)
    (hfuel : (writeAt indent depth item).length + (writeItems indent depth items).length < fuel) :
    readItems fuel (writeAt indent depth item
        ++ (writeItems indent depth items ++ (gap ++ ']' :: rest)))
      = some (item :: items, rest) := by
  -- On the items behind the first one: each is read with less fuel, but there is less text, too.
  induction items generalizing item fuel with
  | nil =>
    cases fuel with
    | zero => omega
    | succ fuel =>
      have hread := h item List.mem_cons_self fuel _ (by omega)
        (endsNumber_append_cons hgap (c := ']') (by decide) rest)
      rw [writeItems, List.nil_append,
        readItems_end hread (skipGap_append_cons hgap (by decide) rest)]
  | cons next items ih =>
    cases fuel with
    | zero => omega
    | succ fuel =>
      have hitems : writeItems indent depth (next :: items) ++ (gap ++ ']' :: rest)
          = ',' :: (lineAt indent depth ++ (writeAt indent depth next
            ++ (writeItems indent depth items ++ (gap ++ ']' :: rest)))) := by
        simp only [writeItems, List.cons_append, List.append_assoc]
      have hnext : (writeAt indent depth next).length + (writeItems indent depth items).length
          < fuel := by
        simp only [writeItems, List.length_append, List.length_cons] at hfuel
        omega
      rw [hitems, readItems_next (h item List.mem_cons_self fuel _ (by omega)
          (endsNumber_cons (by decide) _)) (skipGap_cons (by decide) _),
        readItems_append_gap (isGap_lineAt indent depth),
        ih next (fun other hother => h other (List.mem_cons_of_mem _ hother)) fuel hnext]
      rfl

/-- A list that does not end at once is read as its items. -/
theorem readValue_list {gap : List Char} (hblank : IsGap gap) {c : Char} (hgap : isGap c = false)
    (hend : c ≠ ']') (fuel : Nat) (rest : List Char) :
    readValue (fuel + 1) ('[' :: (gap ++ c :: rest))
      = (readItems fuel (c :: rest)).map fun read => (.list read.1, read.2) := by
  rw [readValue, skipGap_cons (by decide)]
  simp only [skipGap_append_cons hblank hgap]
  split
  next heq => exact absurd (List.cons.inj heq).1 hend
  next => rfl

/-- A list is read back if its items are. -/
theorem readsBack_list {indent : Option Nat} {depth : Nat} {items : List Json}
    (h : ∀ item ∈ items, ReadsBack indent (depth + 1) item) :
    ReadsBack indent depth (.list items) := by
  intro fuel rest hfuel _
  cases items with
  | nil =>
    cases fuel with
    | zero => simp [writeAt] at hfuel
    | succ fuel => rfl
  | cons item items =>
    -- The reader looks for the end of the list first, so the first item must not begin like that.
    obtain ⟨c, more, hhead, hgap, hend⟩ := exists_head_writeAt indent (depth + 1) item
    rw [writeAt_list] at hfuel ⊢
    simp only [List.length_cons, List.length_append] at hfuel
    cases fuel with
    | zero => omega
    | succ fuel =>
      have hread := readItems_writeItems (isGap_lineAt indent depth) items item h fuel rest
        (by omega)
      rw [hhead, List.cons_append] at hread
      simp only [List.cons_append, List.append_assoc, List.nil_append, hhead]
      rw [readValue_list (isGap_lineAt indent (depth + 1)) hgap hend, hread]
      rfl

/-! ### Objects -/

/-- A key is separated from its value by a colon and a gap. -/
theorem exists_gap_keySeparator (indent : Option Nat) :
    ∃ gap, IsGap gap ∧ keySeparator indent = ':' :: gap := by
  cases indent with
  | none => exact ⟨[], by simp [IsGap], rfl⟩
  | some width => exact ⟨[' '], by simp [IsGap, isGap], rfl⟩

/-- After a member and a comma the other members are read. -/
theorem readMembers_next {fuel : Nat} {key afterKey input tail rest : List Char} {value : Json}
    (hkey : skipGap afterKey = ':' :: input) (hvalue : readValue fuel input = some (value, tail))
    (htail : skipGap tail = ',' :: rest) :
    readMembers (fuel + 1) ('"' :: (key.flatMap writeCharacter ++ '"' :: afterKey))
      = (readMembers fuel rest).map fun read =>
        ((String.ofList key, value) :: read.1, read.2) := by
  rw [readMembers, skipGap_cons (by decide)]
  simp only [readText_flatMap, hkey, hvalue, htail]

/-- A member and a closing brace end the members. -/
theorem readMembers_end {fuel : Nat} {key afterKey input tail rest : List Char} {value : Json}
    (hkey : skipGap afterKey = ':' :: input) (hvalue : readValue fuel input = some (value, tail))
    (htail : skipGap tail = '\x7d' :: rest) :
    readMembers (fuel + 1) ('"' :: (key.flatMap writeCharacter ++ '"' :: afterKey))
      = some ([(String.ofList key, value)], rest) := by
  rw [readMembers, skipGap_cons (by decide)]
  simp only [readText_flatMap, hkey, hvalue, htail]

/-- What is written of a member begins with the quote of its key, and the reader takes its value off
behind the key. -/
theorem exists_writeMember {indent : Option Nat} {depth : Nat} {value : Json}
    (h : ReadsBack indent depth value) (fuel : Nat)
    (hfuel : (writeAt indent depth value).length ≤ fuel)
    (key : String) {tail : List Char} (htail : EndsNumber tail) :
    ∃ afterKey input,
      writeText key ++ (keySeparator indent ++ (writeAt indent depth value ++ tail))
        = '"' :: (key.toList.flatMap writeCharacter ++ '"' :: afterKey)
      ∧ skipGap afterKey = ':' :: input ∧ readValue fuel input = some (value, tail) := by
  obtain ⟨gap, hgap, hseparator⟩ := exists_gap_keySeparator indent
  refine ⟨':' :: (gap ++ (writeAt indent depth value ++ tail)), _, ?_,
    skipGap_cons (by decide) _, ?_⟩
  · simp [writeText, hseparator]
  · rw [readValue_append_gap hgap, h fuel tail hfuel htail]

/-- The reader takes off the members of an object, and its end. -/
theorem readMembers_writeMembers {indent : Option Nat} {depth : Nat} {gap : List Char}
    (hgap : IsGap gap) (members : List (String × Json)) (member : String × Json)
    (h : ∀ other ∈ member :: members, ReadsBack indent depth other.2) (fuel : Nat)
    (rest : List Char)
    (hfuel : (writeAt indent depth member.2).length + (writeMembers indent depth members).length
      < fuel) :
    readMembers fuel (writeText member.1 ++ (keySeparator indent
        ++ (writeAt indent depth member.2
          ++ (writeMembers indent depth members ++ (gap ++ '\x7d' :: rest)))))
      = some (member :: members, rest) := by
  induction members generalizing member fuel with
  | nil =>
    cases fuel with
    | zero => omega
    | succ fuel =>
      obtain ⟨afterKey, input, hinput, hkey, hvalue⟩ := exists_writeMember
        (h member List.mem_cons_self) fuel (by omega) member.1
        (endsNumber_append_cons hgap (c := '\x7d') (by decide) rest)
      rw [writeMembers, List.nil_append, hinput,
        readMembers_end hkey hvalue (skipGap_append_cons hgap (by decide) rest),
        String.ofList_toList]
  | cons next members ih =>
    cases fuel with
    | zero => omega
    | succ fuel =>
      -- The comma and the gap behind it belong to the next member.
      have hmembers : writeMembers indent depth (next :: members) ++ (gap ++ '\x7d' :: rest)
          = ',' :: (lineAt indent depth ++ (writeText next.1 ++ (keySeparator indent
            ++ (writeAt indent depth next.2
              ++ (writeMembers indent depth members ++ (gap ++ '\x7d' :: rest)))))) := by
        simp only [writeMembers, List.cons_append, List.append_assoc]
      have hnext : (writeAt indent depth next.2).length
          + (writeMembers indent depth members).length < fuel := by
        simp only [writeMembers, List.length_append, List.length_cons] at hfuel
        omega
      obtain ⟨afterKey, input, hinput, hkey, hvalue⟩ := exists_writeMember
        (h member List.mem_cons_self) fuel (by omega) member.1
        (endsNumber_cons (c := ',') (by decide) _)
      rw [hmembers, hinput, readMembers_next hkey hvalue (skipGap_cons (by decide) _),
        readMembers_append_gap (isGap_lineAt indent depth),
        ih next (fun other hother => h other (List.mem_cons_of_mem _ hother)) fuel hnext,
        String.ofList_toList]
      rfl

/-- An object with a member is read as its members. -/
theorem readValue_object {gap : List Char} (hblank : IsGap gap) (fuel : Nat) (rest : List Char) :
    readValue (fuel + 1) ('\x7b' :: (gap ++ '"' :: rest))
      = (readMembers fuel ('"' :: rest)).map fun read => (.object read.1, read.2) := by
  rw [readValue, skipGap_cons (by decide)]
  simp only [skipGap_append_cons hblank (c := '"') (by decide)]
  rfl

/-- An object is read back if the values of its members are. -/
theorem readsBack_object {indent : Option Nat} {depth : Nat} {members : List (String × Json)}
    (h : ∀ member ∈ members, ReadsBack indent (depth + 1) member.2) :
    ReadsBack indent depth (.object members) := by
  intro fuel rest hfuel _
  cases members with
  | nil =>
    cases fuel with
    | zero => simp [writeAt] at hfuel
    | succ fuel => rfl
  | cons member members =>
    -- A key begins with a quotation mark, by which its object is told from an empty one.
    have hhead (tail : List Char) : writeText member.1 ++ tail
        = '"' :: (member.1.toList.flatMap writeCharacter ++ '"' :: tail) := by
      simp [writeText]
    rw [writeAt_object] at hfuel ⊢
    simp only [List.length_cons, List.length_append] at hfuel
    cases fuel with
    | zero => omega
    | succ fuel =>
      have hread := readMembers_writeMembers (isGap_lineAt indent depth) members member h fuel
        rest (by omega)
      rw [hhead] at hread
      simp only [List.cons_append, List.append_assoc, List.nil_append, hhead]
      rw [readValue_object (isGap_lineAt indent (depth + 1)), hread]
      rfl

/-! ### All values -/

/-- Every value is read back, by induction on it. -/
theorem readsBack (indent : Option Nat) (depth : Nat) (json : Json) :
    ReadsBack indent depth json := by
  match json with
  | .null => exact readsBack_null indent depth
  | .bool value => exact readsBack_bool indent depth value
  | .int value => exact readsBack_int indent depth value
  | .real negative digits exponent => exact readsBack_real indent depth negative digits exponent
  | .text value => exact readsBack_text indent depth value
  | .list items => exact readsBack_list fun item hitem => readsBack indent (depth + 1) item
  | .object members =>
    exact readsBack_object fun member hmember => readsBack indent (depth + 1) member.2
termination_by sizeOf json
decreasing_by
  · have := List.sizeOf_lt_of_mem hitem
    simp
    omega
  · have := List.sizeOf_lt_of_mem hmember
    obtain ⟨key, value⟩ := member
    simp at this ⊢
    omega

/-- Reading what is written of a value gives the value back. -/
theorem read?_write (indent : Option Nat) (json : Json) :
    read? (write indent json) = some json := by
  have hread := readsBack indent 0 json (2 * (writeAt indent 0 json).length + 2) []
    (by omega) (by simp [EndsNumber])
  rw [List.append_nil] at hread
  rw [read?, write, String.toList_ofList, hread]
  rfl

end WorkspaceLint.Json
