/-!
# Binary floating-point numbers

A document may hold a number with a fraction. It is kept as the binary64 value nearest to what was
written, ties going to the value with the even significand, and it is written with the fewest
decimal digits that read back to the same value. Both directions are exact arithmetic on natural
numbers.

## Shape of the shortest text

The reals that round to a value form an interval around it, which contains its ends exactly when the
significand is even. For one, two, … digits the two neighbours of the value on that decimal grid are
tested against the interval; the first grid with a hit wins, and of two hits the nearer one, a tie
going to the even digit. Seventeen digits always suffice.
-/

namespace WorkspaceLint.Number

/-- A binary64 value; a finite one is `significand * 2 ^ exponent`, negated when `negative`. -/
inductive Binary64 where
  | nan
  | infinite (negative : Bool)
  | finite (negative : Bool) (significand : Nat) (exponent : Int)
  deriving Repr, DecidableEq, Inhabited

namespace Binary64

/-- A power of two. -/
def twoTo (exponent : Nat) : Nat := Nat.pow 2 exponent

/-- A power of ten. -/
def tenTo (exponent : Nat) : Nat := Nat.pow 10 exponent

/-- A quotient rounded to the nearest whole number, a half going to the even neighbour. -/
def roundHalfEven (numerator denominator : Nat) : Nat :=
  let quotient := numerator / denominator
  let remainder := numerator % denominator
  if 2 * remainder < denominator then quotient
  else if 2 * remainder > denominator then quotient + 1
  else if quotient % 2 = 0 then quotient else quotient + 1

/-- The least exponent of a finite value. -/
def leastExponent : Int := -1074

/-- The numerator and denominator of `numerator / denominator * 2 ^ (-exponent)`. -/
private def scaled (numerator denominator : Nat) (exponent : Int) : Nat × Nat :=
  (numerator * twoTo (-exponent).toNat, denominator * twoTo exponent.toNat)

/-- The value nearest to a quotient of natural numbers. -/
def ofQuotient (negative : Bool) (numerator denominator : Nat) : Binary64 :=
  if numerator = 0 then .finite negative 0 leastExponent
  else
    let estimate := max leastExponent ((numerator.log2 : Int) - denominator.log2 - 53)
    let fits (exponent : Int) : Bool :=
      let (n, d) := scaled numerator denominator exponent
      n / d < twoTo 53
    let exponent := if fits estimate then estimate else estimate + 1
    let (n, d) := scaled numerator denominator exponent
    let rounded := roundHalfEven n d
    let (significand, exponent) :=
      if rounded = twoTo 53 then (twoTo 52, exponent + 1) else (rounded, exponent)
    if exponent > 971 then .infinite negative else .finite negative significand exponent

/-- The value nearest to `digits * 10 ^ exponent`. -/
def ofDecimal (negative : Bool) (digits : Nat) (exponent : Int) : Binary64 :=
  if digits = 0 then .finite negative 0 leastExponent
  else if exponent > 400 then .infinite negative
  else if exponent + (digits.log2 : Int) < -2000 then .finite negative 0 leastExponent
  else ofQuotient negative (digits * tenTo exponent.toNat) (tenTo (-exponent).toNat)

/-- The whole number that a finite value without fraction equals. -/
def toInt? : Binary64 → Option Int
  | .finite negative significand exponent =>
    let denominator := twoTo (-exponent).toNat
    if significand % denominator = 0 then
      let magnitude : Int := ((significand / denominator * twoTo exponent.toNat : Nat) : Int)
      some (if negative then -magnitude else magnitude)
    else none
  | _ => none

/-- Whether a value is finite. -/
def isFinite : Binary64 → Bool
  | .finite .. => true
  | _ => false

/-- Whether a finite value lies strictly between minus and plus `2 ^ 63`. -/
def withinSigned64 : Binary64 → Bool
  | .finite _ significand exponent =>
    significand * twoTo exponent.toNat < twoTo 63 * twoTo (-exponent).toNat
  | _ => false

/-- The value nearest to the sum of a value and a whole number. -/
def addInt (value : Binary64) (number : Int) : Binary64 :=
  match value with
  | .finite negative significand exponent =>
    let denominator := twoTo (-exponent).toNat
    let magnitude : Int := (significand * twoTo exponent.toNat : Nat)
    let sum := (if negative then -magnitude else magnitude) + number * denominator
    ofQuotient (sum < 0) sum.natAbs denominator
  | value => value

/-- Whether a value lies below a whole number. -/
def isBelow (value : Binary64) (number : Int) : Bool :=
  match value with
  | .finite negative significand exponent =>
    let magnitude : Int := (significand * twoTo exponent.toNat : Nat)
    (if negative then -magnitude else magnitude) < number * (twoTo (-exponent).toNat : Nat)
  | .infinite negative => negative
  | .nan => false

/-! ## Writing -/

/-- Compares `a * 10 ^ i` with `n * 2 ^ j`. -/
private def compareScaled (a : Nat) (i : Int) (n : Nat) (j : Int) : Ordering :=
  compare (a * tenTo i.toNat * twoTo (-j).toNat) (n * twoTo j.toNat * tenTo (-i).toNat)

/-- Whether `digits * 10 ^ power` lies among the reals that round to `significand * 2 ^ exponent`.
-/
private def readsBack (significand : Nat) (exponent : Int) (digits : Nat) (power : Int) : Bool :=
  let narrowBelow := significand = twoTo 52 && exponent > leastExponent
  let low := if narrowBelow then 4 * significand - 1 else 4 * significand - 2
  let closed := significand % 2 == 0
  let fromLow := compareScaled digits power low (exponent - 2)
  let fromHigh := compareScaled digits power (4 * significand + 2) (exponent - 2)
  (fromLow == .gt || (closed && fromLow == .eq)) && (fromHigh == .lt || (closed && fromHigh == .eq))

/-- The whole part of `significand * 2 ^ exponent / 10 ^ power`. -/
private def gridBelow (significand : Nat) (exponent power : Int) : Nat :=
  (significand * twoTo exponent.toNat * tenTo (-power).toNat)
    / (twoTo (-exponent).toNat * tenTo power.toNat)

/-- The least power of ten above a positive value, found upwards from a power below it. -/
private def scaleFrom (significand : Nat) (exponent : Int) : (steps : Nat) → (power : Int) → Int
  | 0, power => power
  | steps + 1, power =>
    if compareScaled 1 power significand exponent == .gt then power
    else scaleFrom significand exponent steps (power + 1)

/-- The shortest decimal on the grids from `tried` digits on, as digits and power of ten. -/
private def shortestFrom (significand : Nat) (exponent scale : Int) : (left tried : Nat) → Nat × Int
  | 0, tried =>
    let power := scale - tried
    (gridBelow significand exponent power, power)
  | left + 1, tried =>
    let power := scale - tried
    let below := gridBelow significand exponent power
    let hitBelow := below != 0 && readsBack significand exponent below power
    let hitAbove := readsBack significand exponent (below + 1) power
    if hitBelow && hitAbove then
      match compareScaled (2 * below + 1) power (2 * significand) exponent with
      | .gt => (below, power)
      | .lt => (below + 1, power)
      | .eq => (if below % 2 = 0 then below else below + 1, power)
    else if hitBelow then (below, power)
    else if hitAbove then (below + 1, power)
    else shortestFrom significand exponent scale left (tried + 1)

/-- The decimal digits of a number without its trailing zeros, given in reverse. -/
private def significantDigits (digits : Nat) : List Char :=
  ((toString digits).toList.reverse.dropWhile (· = '0')).reverse

/-- The text of a positive value: positional from `10 ^ -4` up to `10 ^ 16`, otherwise with an
exponent of at least two digits. -/
private def positiveText (significand : Nat) (exponent : Int) : String :=
  let estimate : Int := ((significand.log2 : Int) + exponent) * 30103 / 100000 - 1
  let scale := scaleFrom significand exponent 5 estimate
  let (number, power) := shortestFrom significand exponent scale 17 1
  let point : Int := (toString number).length + power
  let digits := significantDigits number
  let zeros (n : Nat) : List Char := List.replicate n '0'
  String.ofList <|
    if -4 < point && point ≤ 0 then '0' :: '.' :: zeros (-point).toNat ++ digits
    else if 0 < point && point ≤ 16 then
      if digits.length ≤ point.toNat then
        digits ++ zeros (point.toNat - digits.length) ++ ['.', '0']
      else digits.take point.toNat ++ '.' :: digits.drop point.toNat
    else
      let shown := point - 1
      let magnitude := (toString shown.natAbs).toList
      let fraction := if digits.length > 1 then '.' :: digits.drop 1 else []
      digits.take 1 ++ fraction ++ 'e' :: (if shown < 0 then '-' else '+')
        :: zeros (2 - magnitude.length) ++ magnitude

/-- The text of a value: the fewest digits that read back to it. -/
def text : Binary64 → String
  | .nan => "nan"
  | .infinite negative => if negative then "-inf" else "inf"
  | .finite negative significand exponent =>
    (if negative then "-" else "")
      ++ (if significand = 0 then "0.0" else positiveText significand exponent)

end Binary64

end WorkspaceLint.Number
