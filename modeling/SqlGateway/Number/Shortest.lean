import SqlGateway.Number.Power

/-! The decimal digits of binary floats. The shortest digits that read back to a
float are found on the coarsest decimal grid with a point inside its rounding
interval, of two points the nearer one. All arithmetic is exact. -/

namespace SqlGateway

/-- A positive binary float `mantissa * 2 ^ exponent`. The gap to the float below it is half
the gap above it exactly when `narrowBelow` holds. -/
structure BinaryFloat where
  mantissa : Nat
  exponent : Int
  narrowBelow : Bool

/-- A positive decimal `digits * 10 ^ exponent`. -/
structure DecimalDigits where
  digits : Nat
  exponent : Int
  deriving DecidableEq, Repr

/-- Which of two equally near grid points is taken. -/
inductive Tie where
  | even | up
  deriving DecidableEq, Repr

namespace BinaryFloat

/-- The float with sign and special cases removed, from the fields of its encoding: `fractionBits`
stored mantissa bits and the exponent offset `bias`. -/
def ofFields (fractionBits bias biasedExponent fraction : Nat) : BinaryFloat :=
  if biasedExponent = 0 then
    ⟨fraction, 1 - (bias + fractionBits : Int), false⟩
  else
    ⟨2 ^ fractionBits + fraction, biasedExponent - (bias + fractionBits : Int),
      fraction == 0 && biasedExponent > 1⟩

/-- The fields of a finite nonzero double. -/
def ofDouble (x : Float) : BinaryFloat :=
  let bits := x.toBits.toBitVec
  ofFields 52 1023 (bits.extractLsb' 52 11).toNat (bits.extractLsb' 0 52).toNat

/-- The fields of a finite nonzero single. -/
def ofSingle (x : Float32) : BinaryFloat :=
  let bits := x.toBits.toBitVec
  ofFields 23 127 (bits.extractLsb' 23 8).toNat (bits.extractLsb' 0 23).toNat

/-- The float and the ends of its rounding interval over one denominator:
`(low, value, high, denominator)`. -/
def interval (x : BinaryFloat) : Nat × Nat × Nat × Nat :=
  let low := 4 * x.mantissa - (if x.narrowBelow then 1 else 2)
  let value := 4 * x.mantissa
  let high := 4 * x.mantissa + 2
  if 0 ≤ x.exponent then
    let f := 2 ^ x.exponent.toNat
    (low * f, value * f, high * f, 4)
  else
    (low, value, high, 4 * 2 ^ (-x.exponent).toNat)

/-- The point of the grid of step `10 ^ k` that reads back to `x`, if there is one. -/
def onGrid? (x : BinaryFloat) (tie : Tie) (k : Int) : Option DecimalDigits :=
  let (low, value, high, den) := x.interval
  let up := 10 ^ k.toNat * den
  let scale := 10 ^ (-k).toNat
  let inside (n : Nat) : Bool :=
    if x.mantissa % 2 == 0 then low * scale ≤ n * up && n * up ≤ high * scale
    else low * scale < n * up && n * up < high * scale
  let below := value * scale / up
  let above := below + 1
  let rest := 2 * (value * scale - below * up)
  match inside below, inside above with
  | true, true =>
    if rest < up then some ⟨below, k⟩
    else if up < rest then some ⟨above, k⟩
    else match tie with
      | .up => some ⟨above, k⟩
      | .even => some ⟨if below % 2 == 0 then below else above, k⟩
  | true, false => some ⟨below, k⟩
  | false, true => some ⟨above, k⟩
  | false, false => none

/-- A decimal exponent at least as large as that of the first digit of `x`. -/
def topExponent (x : BinaryFloat) : Int :=
  (((x.mantissa.log2 : Int) + x.exponent) * 30103) / 100000 + 2

/-- The shortest digits that read back to `x`. -/
def shortest (x : BinaryFloat) (tie : Tie) : DecimalDigits :=
  ((List.range 22).findSome? fun (i : Nat) => x.onGrid? tie (x.topExponent - i)).getD ⟨0, 0⟩

end BinaryFloat

/-! ### Whole numbers -/

/-- The magnitude of a finite double without its fraction. -/
def BinaryFloat.whole (x : BinaryFloat) : Nat :=
  if 0 ≤ x.exponent then x.mantissa * 2 ^ x.exponent.toNat
  else x.mantissa / 2 ^ (-x.exponent).toNat

/-- Whether a finite double has no fraction. -/
def BinaryFloat.isWhole (x : BinaryFloat) : Bool :=
  0 ≤ x.exponent || x.mantissa % 2 ^ (-x.exponent).toNat == 0

/-- Whether a double is a finite whole number. -/
def isWholeDouble (x : Float) : Bool := x.isFinite && (BinaryFloat.ofDouble x).isWhole

/-- A double without its fraction, kept within 64 bits; NaN counts as zero. -/
def wholeOfDouble (x : Float) : Int :=
  if x.isNaN then 0
  else
    let negative := x.toBits.toBitVec.msb
    let least := Int64.minValue.toInt
    let greatest := Int64.maxValue.toInt
    if x.isInf then (if negative then least else greatest)
    else
      let magnitude : Int := (BinaryFloat.ofDouble x).whole
      if negative then max (-magnitude) least else min magnitude greatest

/-- The whole number that a double is, kept within 64 bits. -/
def wholeOfDouble? (x : Float) : Option Int :=
  if isWholeDouble x then some (wholeOfDouble x) else none

end SqlGateway
