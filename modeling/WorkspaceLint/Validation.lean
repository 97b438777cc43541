import WorkspaceLint.Text.Blank
import WorkspaceLint.Value

/-!
# Validation

A record is read from named values, each field by a rule of its own. The rules are lenient where no
meaning is lost: a whole number may be given as a truth value, as a number with an empty fraction or
as text, and a truth value may be given as a number or as one of the usual words. What a rule
refuses becomes an issue, and the issues of all fields are reported together.
-/

namespace WorkspaceLint

/-- What is wrong with a value. -/
inductive IssueKind where
  | missing
  | notInteger
  | unreadableInteger
  | oversizedInteger
  | fractionalInteger
  | infiniteNumber
  | belowOne
  | notText
  | notBoolean
  | unreadableBoolean
  | notList
  | notChoice (choices : List String)
  | notPermitted
  | frozen
  deriving Repr, DecidableEq, Inhabited

/-- The short name of an issue. -/
def IssueKind.code : IssueKind → String
  | .missing => "missing"
  | .notInteger => "int_type"
  | .unreadableInteger => "int_parsing"
  | .oversizedInteger => "int_parsing_size"
  | .fractionalInteger => "int_from_float"
  | .infiniteNumber => "finite_number"
  | .belowOne => "greater_than_equal"
  | .notText => "string_type"
  | .notBoolean => "bool_type"
  | .unreadableBoolean => "bool_parsing"
  | .notList => "tuple_type"
  | .notChoice _ => "enum"
  | .notPermitted => "extra_forbidden"
  | .frozen => "frozen_instance"

/-- Choices as a message lists them: quoted, the last one after the word or. -/
def choicesText : List String → String
  | [] => ""
  | [choice] => Text.quoted choice
  | [first, last] => Text.quoted first ++ " or " ++ Text.quoted last
  | choice :: choices => Text.quoted choice ++ ", " ++ choicesText choices

/-- What is said of an issue. -/
def IssueKind.message : IssueKind → String
  | .missing => "Field required"
  | .notInteger => "Input should be a valid integer"
  | .unreadableInteger => "Input should be a valid integer, unable to parse string as an integer"
  | .oversizedInteger => "Unable to parse input string as an integer, exceeded maximum size"
  | .fractionalInteger => "Input should be a valid integer, got a number with a fractional part"
  | .infiniteNumber => "Input should be a finite number"
  | .belowOne => "Input should be greater than or equal to 1"
  | .notText => "Input should be a valid string"
  | .notBoolean => "Input should be a valid boolean"
  | .unreadableBoolean => "Input should be a valid boolean, unable to interpret input"
  | .notList => "Input should be a valid tuple"
  | .notChoice choices => "Input should be " ++ choicesText choices
  | .notPermitted => "Extra inputs are not permitted"
  | .frozen => "Instance is frozen"

/-- A step on the way to a value: into a field, or to an item of a list. -/
inductive IssueStep where
  | field (name : String)
  | item (index : Nat)
  deriving Repr, DecidableEq, Inhabited

/-- An issue with the way to the value that it concerns. -/
structure Issue where
  place : List IssueStep
  kind : IssueKind
  deriving Repr, DecidableEq, Inhabited

/-- The first line of the account of some issues with a record. -/
def Issue.headline (issues : List Issue) (record : String) : String :=
  toString issues.length ++ " validation error" ++ (if issues.length = 1 then "" else "s")
    ++ " for " ++ record

/-- A value read, or all issues that stood in the way. -/
abbrev Validated (α : Type) := Except (List Issue) α

namespace Validated

/-- What needs no reading. -/
def start {α : Type} (value : α) : Validated α := .ok value

/-- Applies a function once both it and its argument have been read; the issues of the two are
joined. -/
def apply {α β : Type} (f : Validated (α → β)) (a : Validated α) : Validated β :=
  match f, a with
  | .ok f, .ok a => .ok (f a)
  | .ok _, .error issues => .error issues
  | .error issues, .ok _ => .error issues
  | .error issues, .error more => .error (issues ++ more)

/-- A value read, provided that there are no further issues. -/
def withFurther {α : Type} (issues : List Issue) : Validated α → Validated α
  | .ok a => if issues.isEmpty then .ok a else .error issues
  | .error found => .error (found ++ issues)

end Validated

namespace Validation

open WorkspaceLint.Number (Binary64)

/-! ## Rules for single values -/

/-- The most characters that a number given as text may have in its plain form. -/
def mostDigits : Nat := 4300

/-- The value of a sequence of digits. -/
def digitsValue (digits : List Char) : Nat :=
  digits.foldl (fun value c => value * 10 + (c.toNat - 48)) 0

/-- The whole number that a text is the plain form of: a minus or nothing, and digits of which the
first is no zero unless it is the only one. -/
def plainInteger? (input : List Char) : Option Int :=
  let (negative, digits) :=
    match input with
    | '-' :: rest => (true, rest)
    | _ => (false, input)
  if digits.isEmpty || !digits.all Char.isDigit || (digits.head? = some '0' && digits != ['0'])
    then none
  else
    let value : Int := digitsValue digits
    some (if negative then -value else value)

/-- Whether a text begins with the plain form of a number that is longer than a number may be. -/
def isOversized (input : List Char) : Bool :=
  let (sign, digits) := input.span (· = '-')
  let digits := digits.takeWhile Char.isDigit
  sign.length ≤ 1 && digits.head? != some '0' && sign.length + digits.length > mostDigits

/-- What is left of a text behind its leading zeros and the low lines among them, where `last` is
the zero or the low line before the text. A point keeps the zero before it, and a text of nothing
else keeps its last character. -/
def behindZeros? (last : Char) : List Char → Option (List Char)
  | [] => some [last]
  | c :: rest =>
    if c = '0' || c = '_' then behindZeros? c rest
    else if c = '.' then some (last :: c :: rest)
    else if c.isDigit || c = '-' then some (c :: rest)
    else none

/-- A text without its leading zeros, if it begins with a digit. -/
def withoutZeros? : List Char → Option (List Char)
  | [] => none
  | c :: rest =>
    if c = '0' then behindZeros? c rest
    else if c.isDigit then some (c :: rest)
    else none

/-- The text before an empty fraction: a point and zeros, at least one. -/
def dropEmptyFraction (input : List Char) : List Char :=
  match input.reverse.span (· = '0') with
  | (_ :: _, '.' :: whole) => whole.reverse
  | _ => input

/-- Whether two low lines stand side by side in a text. -/
def hasDoubleLowLine : List Char → Bool
  | '_' :: '_' :: _ => true
  | _ :: rest => hasDoubleLowLine rest
  | [] => false

/-- A text without its low lines, each of which has to stand alone between other characters. -/
def withoutLowLines (input : List Char) : List Char :=
  if input.head? = some '_' || input.getLast? = some '_' || hasDoubleLowLine input then input
  else input.filter (· ≠ '_')

/-- The plain form of a number that is written with blanks around it, a plus, leading zeros, low
lines or an empty fraction. -/
def plainForm? (input : List Char) : Option (List Char) :=
  let (sign, magnitude) :=
    match Text.trim Text.isWhiteSpace input with
    | '-' :: rest => (['-'], rest)
    | '+' :: rest => ([], rest)
    | rest => ([], rest)
  (withoutZeros? magnitude).map fun magnitude =>
    withoutLowLines (dropEmptyFraction (sign ++ magnitude))

/-- Reads a whole number from text. A number that is too long is told from a text that is no number
only where it is written in its plain form. -/
def readIntegerText (input : List Char) : Except IssueKind Int :=
  if isOversized input then .error .oversizedInteger
  else match plainForm? input with
    | none => .error .unreadableInteger
    | some plain =>
      if plain.length > mostDigits then .error .unreadableInteger
      else match plainInteger? plain with
        | none => .error .unreadableInteger
        | some value => .ok value

/-- Reads a whole number. -/
def readInteger : Value → Except IssueKind Int
  | .int value => .ok value
  | .bool value => .ok (if value then 1 else 0)
  | .text value => readIntegerText value.toList
  | .float value =>
    if !value.isFinite then .error .infiniteNumber
    else match value.toInt? with
      | none => .error .fractionalInteger
      | some whole => if value.withinSigned64 then .ok whole else .error .oversizedInteger
  | _ => .error .notInteger

/-- Reads a whole number that counts from one. -/
def readPositive (value : Value) : Except IssueKind Int :=
  match readInteger value with
  | .error kind => .error kind
  | .ok number => if number < 1 then .error .belowOne else .ok number

/-- Reads a text. -/
def readText : Value → Except IssueKind String
  | .text value => .ok value
  | _ => .error .notText

/-- The words that mean no. -/
def wordsForNo : List String := ["0", "off", "f", "false", "n", "no"]

/-- The words that mean yes. -/
def wordsForYes : List String := ["1", "on", "t", "true", "y", "yes"]

/-- Whether a whole number is one of the signed numbers of 64 bits. -/
def isSigned64 (value : Int) : Bool :=
  -9223372036854775808 ≤ value && value ≤ 9223372036854775807

/-- Reads a truth value. A number that is none is told from what is no number at all only where it
is a whole number of 64 bits. -/
def readBoolean : Value → Except IssueKind Bool
  | .bool value => .ok value
  | .int value =>
    if value = 0 then .ok false
    else if value = 1 then .ok true
    else if isSigned64 value then .error .unreadableBoolean
    else .error .notBoolean
  | .text value =>
    if wordsForNo.contains value.toLower then .ok false
    else if wordsForYes.contains value.toLower then .ok true
    else .error .unreadableBoolean
  | .float value =>
    if value.toInt? = some 0 then .ok false
    else if value.toInt? = some 1 then .ok true
    else if value.toInt?.isSome && value.withinSigned64 then .error .unreadableBoolean
    else .error .notBoolean
  | _ => .error .notBoolean

/-- Reads one of several words. -/
def readChoice {α : Type} (choices : List (String × α)) (value : Value) : Except IssueKind α :=
  match value with
  | .text word =>
    match choices.lookup word with
    | some choice => .ok choice
    | none => .error (.notChoice (choices.map (·.1)))
  | _ => .error (.notChoice (choices.map (·.1)))

/-! ## Rules for fields -/

/-- Applies a rule for a single value to the value at a place. -/
def single {α : Type} (rule : Value → Except IssueKind α) (place : List IssueStep) (value : Value) :
    Validated α :=
  (rule value).mapError fun kind => [⟨place, kind⟩]

/-- Reads the items of a list of texts from the given index on. -/
def readTextsFrom (place : List IssueStep) : (index : Nat) → List Value → Validated (List String)
  | _, [] => .ok []
  | index, item :: items =>
    ((Validated.start List.cons).apply (single readText (place ++ [.item index]) item)).apply
      (readTextsFrom place (index + 1) items)

/-- Reads a list of texts. -/
def readTexts (place : List IssueStep) : Value → Validated (List String)
  | .list items => readTextsFrom place 0 items
  | _ => .error [⟨place, .notList⟩]

/-- Reads a list of texts that may be left open. -/
def readOptionalTexts (place : List IssueStep) : Value → Validated (Option (List String))
  | .null => .ok none
  | value => (readTexts place value).map some

/-- Reads the field of a name, or takes its default where there is no such field. A field without a
default is required. -/
def field {α : Type} (entries : List (String × Value)) (name : String) (default? : Option α)
    (rule : List IssueStep → Value → Validated α) : Validated α :=
  match entries.lookup name with
  | some value => rule [.field name] value
  | none =>
    match default? with
    | some standard => .ok standard
    | none => .error [⟨[.field name], .missing⟩]

/-- The issues with fields whose names are not among the known ones. -/
def unknownFields (known : List String) (entries : List (String × Value)) : List Issue :=
  (entries.filter fun entry => !known.contains entry.1).map fun entry =>
    ⟨[.field entry.1], .notPermitted⟩

end Validation

end WorkspaceLint
