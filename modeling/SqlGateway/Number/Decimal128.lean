import SqlGateway.Number.Decimal

/-! Decimal floating point of 128 bits in its binary-integer encoding: a sign,
an exponent of ten and a 113-bit coefficient, kept as the raw word. -/

namespace SqlGateway

/-- The raw word of a stored decimal. -/
structure Decimal128 where
  bits : BitVec 128
  deriving DecidableEq

namespace Decimal128

/-- What is added to an exponent before it is stored. -/
def exponentBias : Nat := 6176

/-- The most digits of a coefficient. -/
def precision : Nat := 34

/-- The word with a sign, a biased exponent and a coefficient. -/
def ofFields (negative : Bool) (biasedExponent coefficient : Nat) : Decimal128 :=
  ⟨BitVec.ofBool negative ++ BitVec.ofNat 14 biasedExponent ++ BitVec.ofNat 113 coefficient⟩

/-- Encodes a decimal: its scale becomes the negated exponent. -/
def ofDecimal (d : Decimal) : Decimal128 :=
  ofFields (d.mantissa < 0) (exponentBias - d.scale) d.mantissa.natAbs

/-- What an encoded word stands for. -/
inductive Reading where
  | nan
  | infinity
  /-- A finite value. A coefficient of more digits than allowed is read as zero. -/
  | finite (exponent : Int) (coefficient : Nat)

/-- Whether the sign bit is set. -/
def isNegative (x : Decimal128) : Bool := x.bits.msb

/-- The field that tells special encodings apart. -/
def combination (x : Decimal128) : Nat := (x.bits.extractLsb' 122 5).toNat

/-- The exponent of a word in the usual encoding. -/
def exponent (x : Decimal128) : Int := (x.bits.extractLsb' 113 14).toNat - (exponentBias : Int)

/-- The coefficient of a word in the usual encoding. -/
def coefficient (x : Decimal128) : Nat := (x.bits.extractLsb' 0 113).toNat

/-- Takes a word apart. -/
def read (x : Decimal128) : Reading :=
  if x.combination / 2 = 15 then (if x.combination % 2 = 1 then .nan else .infinity)
  else if x.combination / 8 = 3 then
    .finite ((x.bits.extractLsb' 111 14).toNat - (exponentBias : Int)) 0
  else .finite x.exponent (if x.coefficient < 10 ^ precision then x.coefficient else 0)

/-- A coefficient with zeros appended one by one, as long as it stays below 128 bits. -/
def appendZeros? : (zeros coefficient : Nat) → Option Nat
  | 0, c => some c
  | n + 1, c => if c * 10 < 2 ^ 128 then appendZeros? n (c * 10) else none

/-- A coefficient and its scale, without the digits past the greatest scale. -/
def cutDigits : (scale coefficient : Nat) → Nat × Nat
  | 0, c => (c, 0)
  | s + 1, c => if Decimal.maxScale < s + 1 then cutDigits s (c / 10) else (c, s + 1)

/-- Decodes to a decimal. Digits past the greatest scale are cut off; infinities, NaN and values
without a 96-bit mantissa are refused, and a coefficient out of the usual encoding counts as
zero. -/
def toDecimal? (x : Decimal128) : Option Decimal :=
  if x.combination / 8 = 3 then
    if x.combination / 2 = 15 then none else some Decimal.zero
  else do
    let (c, scale) ←
      if 0 < x.exponent then (·, 0) <$> appendZeros? x.exponent.toNat x.coefficient
      else some (cutDigits (-x.exponent).toNat x.coefficient)
    if c < 2 ^ 127 then Decimal.ofParts? (if x.isNegative then -(c : Int) else c) scale else none

/-- The text of a finite value: plain when the exponent is not positive and the first digit is at
`10 ^ -6` or above, and scientific otherwise. -/
def finiteText (exponent : Int) (coefficient : Nat) : List Char :=
  let ds := digitsOf coefficient
  let adjusted : Int := exponent + ds.length - 1
  if exponent ≤ 0 && -6 ≤ adjusted then
    let places := exponent.natAbs
    if places = 0 then ds
    else if ds.length ≤ places then '0' :: '.' :: List.replicate (places - ds.length) '0' ++ ds
    else ds.take (ds.length - places) ++ '.' :: ds.drop (ds.length - places)
  else
    let fraction := ds.drop 1
    ds.take 1 ++ (if fraction.isEmpty then [] else '.' :: fraction)
      ++ 'E' :: (if 0 < adjusted then '+' :: signedDigits adjusted else signedDigits adjusted)

/-- The text of a word; a NaN is written without its sign. -/
def text (x : Decimal128) : String :=
  let signed (body : List Char) := String.ofList (if x.isNegative then '-' :: body else body)
  match x.read with
  | .nan => "NaN"
  | .infinity => signed "Infinity".toList
  | .finite e c => signed (finiteText e c)

/-- The sixteen bytes in stored order, least significant first. -/
def toBytes (x : Decimal128) : List Nat :=
  (List.range 16).map fun i => (x.bits.extractLsb' (8 * i) 8).toNat

/-- The word of sixteen stored bytes. -/
def ofBytes (bytes : List Nat) : Decimal128 :=
  ⟨BitVec.ofNat 128 (bytes.foldr (fun b n => b + 256 * n) 0)⟩

end Decimal128

end SqlGateway
