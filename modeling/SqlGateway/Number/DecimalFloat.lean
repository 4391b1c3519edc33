import SqlGateway.Number.Decimal
import SqlGateway.Number.Shortest

/-! Between decimals and doubles. A double becomes the decimal of about its
first sixteen digits; a decimal becomes the sum of its whole part and its
fraction, rounded back to its scale. -/

namespace SqlGateway.Decimal

/-- A binary value `bits * 10 ^ exponent` on its way to a decimal. -/
structure Approximation where
  bits : Nat
  exponent : Int

namespace Approximation

/-- Trades `n` factors `1 / 2` for tenths, halving instead when the bits run out of room. -/
def tradeHalves : Nat → Approximation → Approximation
  | 0, a => a
  | n + 1, a =>
    tradeHalves n <|
      if a.bits % 2 = 0 then ⟨a.bits / 2, a.exponent + 1⟩
      else if a.bits * 5 < room then ⟨a.bits * 5, a.exponent⟩
      else ⟨a.bits / 2, a.exponent + 1⟩

/-- Trades `n` factors `2` for tens, dividing by five when the bits run out of room. -/
def tradeDoubles : Nat → Approximation → Approximation
  | 0, a => a
  | n + 1, a =>
    tradeDoubles n <|
      if 2 * a.bits < room then ⟨a.bits * 2, a.exponent - 1⟩ else ⟨a.bits / 5, a.exponent⟩

/-- Removes the last digit, rounding half up. -/
def shorten (a : Approximation) : Approximation :=
  ⟨a.bits / 10 + (if 5 ≤ a.bits % 10 then 1 else 0), a.exponent + 1⟩

/-- Brings the exponent up to the greatest scale; a value that vanishes becomes zero. -/
def raise : Nat → Approximation → Approximation
  | 0, a => a
  | n + 1, a => if a.bits / 10 = 0 then ⟨0, 0⟩ else raise n a.shorten

/-- Keeps at most 52 bits while there is a fraction. -/
def trim : Nat → Approximation → Approximation
  | 0, a => a
  | n + 1, a => if a.exponent < 0 && 52 ≤ a.bits.log2 then trim n a.shorten else a

end Approximation

/-- The first double past the greatest mantissa, `2 ^ 96`. -/
def doubleLimit : Float := Float.ofBits 0x45F0000000000000

/-- The decimal of a double, unless it is not finite or too large. -/
def ofDouble? (x : Float) : Option Decimal :=
  if !x.isFinite || doubleLimit ≤ x.abs then none
  else if x == 0.0 then some zero
  else
    let fields := BinaryFloat.ofDouble x
    let start : Approximation := ⟨fields.mantissa, fields.exponent⟩
    let steps := fields.exponent.natAbs
    let a := if fields.exponent < 0 then start.tradeHalves steps else start.tradeDoubles steps
    let wide := a.bits * 10 ^ a.exponent.toNat
    if room ≤ wide then none
    else
      let a : Approximation := if 0 < a.exponent then ⟨wide, 0⟩ else a
      let a := a.raise (-a.exponent - (maxScale : Int)).toNat
      let a := a.trim (-a.exponent).toNat
      let (m, scale) := dropZeros a.bits (-a.exponent).toNat
      ofParts? (if x < 0.0 then -(m : Int) else m) scale

/-- The nearest double to a natural number. -/
def nearestDouble (n : Nat) : Float := Float.ofScientific n false 0

/-- A factor times a power of a base whose exponent has at most `bits` bits, by repeated squaring;
every product is rounded. -/
def powerTimes : (bits : Nat) → (factor base : Float) → (exponent : Nat) → Float
  | 0, factor, _, _ => factor
  | bits + 1, factor, base, exponent =>
    let factor := if exponent % 2 = 1 then factor * base else factor
    if exponent / 2 = 0 then factor else powerTimes bits factor (base * base) (exponent / 2)

/-- A power of ten as repeated squaring rounds it, for a scale, which is less than 32. -/
def powerOfTen (scale : Nat) : Float := powerTimes 5 1.0 10.0 scale

/-- The double of a decimal. -/
def toDouble (d : Decimal) : Float :=
  let m := d.mantissa.natAbs
  let magnitude :=
    if d.scale = 0 then nearestDouble m
    else
      let precision := 10 ^ d.scale
      let whole := nearestDouble (m / precision)
      let fraction := nearestDouble (m % precision) / nearestDouble precision
      if fraction == 0.0 then whole
      else
        let unit := powerOfTen d.scale
        ((whole + fraction) * unit).round / unit
  if d.mantissa < 0 then -magnitude else magnitude

end SqlGateway.Decimal

namespace SqlGateway

/-- The nearest double to a whole number. -/
def doubleOfInt (n : Int) : Float :=
  let x := Decimal.nearestDouble n.natAbs
  if n < 0 then -x else x

end SqlGateway
