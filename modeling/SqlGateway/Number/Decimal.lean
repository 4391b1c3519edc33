import SqlGateway.Text.Digits

/-! Exact decimals of at most 96 bits: a whole mantissa over a power of ten of
at most 28 digits. The scale is part of the value, so `1.5` and `1.50` differ
as data and are equal in order. Results that need more room lose digits at the
end, a half going to the even neighbour. -/

namespace SqlGateway

/-- The number of mantissas that fit in 96 bits. -/
def Decimal.room : Nat := 1 <<< 96

/-- The decimal `mantissa / 10 ^ scale`. -/
structure Decimal where
  mantissa : Int
  scale : Nat
  mantissa_lt : mantissa.natAbs < Decimal.room
  scale_le : scale ≤ 28
  deriving DecidableEq

namespace Decimal

/-- The greatest scale. -/
def maxScale : Nat := 28

/-- The decimal with a mantissa and scale, if both are in range. -/
def ofParts? (mantissa : Int) (scale : Nat) : Option Decimal :=
  if h : mantissa.natAbs < room ∧ scale ≤ 28 then some ⟨mantissa, scale, h.1, h.2⟩ else none

theorem ofParts?_mantissa_scale (d : Decimal) : ofParts? d.mantissa d.scale = some d := by
  rw [ofParts?, dif_pos ⟨d.mantissa_lt, d.scale_le⟩]

/-- The decimal zero of scale zero. -/
def zero : Decimal := ⟨0, 0, by decide, by decide⟩

instance : Inhabited Decimal := ⟨zero⟩

/-- A 64-bit signed integer as a decimal. -/
def ofInt64 (n : Int64) : Decimal :=
  (ofParts? n.toInt 0).getD zero

/-- A 64-bit unsigned integer as a decimal. -/
def ofUInt64 (n : UInt64) : Decimal :=
  (ofParts? n.toNat 0).getD zero

/-! ### Order -/

/-- The order by exact value. -/
def order (a b : Decimal) : Ordering :=
  compare (a.mantissa * 10 ^ b.scale) (b.mantissa * 10 ^ a.scale)

/-! ### Rounding into range -/

/-- The quotient of natural numbers rounded to nearest, a half going to the even neighbour. -/
def divHalfEven (n d : Nat) : Nat :=
  let q := n / d
  let r := 2 * (n % d)
  if r < d then q else if d < r then q + 1 else q + q % 2

/-- The fewest digits, at least `least`, whose loss brings `n` into range; `limit` bounds them. -/
def digitsToDrop? (n least limit : Nat) : Option Nat :=
  (List.range (limit + 1)).find? fun k => least ≤ k && n / 10 ^ k < room

/-- The decimal nearest to `n / 10 ^ scale` with as many digits as fit, if any scale fits. -/
def fit? (negative : Bool) (n scale : Nat) : Option Decimal := do
  let k ← digitsToDrop? n (scale - maxScale) scale
  let signed (m : Nat) : Int := if negative then -(m : Int) else m
  let m := divHalfEven n (10 ^ k)
  if m < room then ofParts? (signed m) (scale - k)
  else if scale = k then none
  else ofParts? (signed (divHalfEven m 10)) (scale - k - 1)

/-! ### Arithmetic -/

/-- The sum, unless it is out of range. A zero leaves the other summand as it is, scale included. -/
def add? (a b : Decimal) : Option Decimal :=
  if a.mantissa = 0 then some b
  else if b.mantissa = 0 then some a
  else
    let scale := max a.scale b.scale
    let sum := a.mantissa * 10 ^ (scale - a.scale) + b.mantissa * 10 ^ (scale - b.scale)
    fit? (sum < 0) sum.natAbs scale

/-- Drops zeros at the end of a mantissa while the scale is positive. -/
def dropZeros : Nat → Nat → Nat × Nat
  | m, 0 => (m, 0)
  | m, s + 1 => if m % 10 = 0 then dropZeros (m / 10) s else (m, s + 1)

/-! ### Division -/

/-- The most digits, at most nine, that can be appended to a quotient within range and scale. -/
def digitsToAppend (q scale : Nat) : Nat :=
  ((List.range (min 9 (maxScale - scale) + 1)).reverse.find? fun k => q * 10 ^ k < room).getD 0

/-- Takes a digit off a quotient that is out of range, rounding to nearest; an exact half goes to
the even neighbour. -/
def shorten? (q scale : Nat) (isExact : Bool) : Option (Nat × Nat) :=
  if scale = 0 then none
  else
    let up := 5 < q % 10 || (q % 10 = 5 && (!isExact || q / 10 % 2 = 1))
    some (q / 10 + (if up then 1 else 0), scale - 1)

/-- Goes on with a long division by `n` as long as there is a remainder and room for digits, and
rounds at the end. -/
def divideOn? (n : Nat) : (rounds q r scale : Nat) → Option (Nat × Nat)
  | 0, q, _, scale => some (q, scale)
  | rounds + 1, q, r, scale =>
    let k := digitsToAppend q scale
    if r = 0 then some (q, scale)
    else if k = 0 then
      let q := if n < 2 * r || (n = 2 * r && q % 2 = 1) then q + 1 else q
      if q < room then some (q, scale) else shorten? q scale false
    else
      let q := q * 10 ^ k + r * 10 ^ k / n
      let r := r * 10 ^ k % n
      if q < room then divideOn? n rounds q r (scale + k) else shorten? q (scale + k) (r = 0)

/-- Takes `k` zeros off the end of a mantissa, if there are so many behind the point. -/
def dropZeroBlock (k : Nat) : Nat × Nat → Nat × Nat
  | (m, scale) => if k ≤ scale && m % 10 ^ k = 0 then (m / 10 ^ k, scale - k) else (m, scale)

/-- Takes eight zeros off the end of a mantissa whose lowest 32 bits are empty. -/
def dropEmptyWord : Nat × Nat → Nat × Nat
  | (m, scale) => if m % UInt32.size = 0 then dropZeroBlock 8 (m, scale) else (m, scale)

/-- Takes zeros off the end of a quotient: blocks of eight as long as the lowest word is empty, then
at most one block each of four, two and one. -/
def tidyQuotient (m : Nat × Nat) : Nat × Nat :=
  let m := dropEmptyWord (dropEmptyWord (dropEmptyWord m))
  dropZeroBlock 1 (dropZeroBlock 2 (dropZeroBlock 4 m))

/-- The quotient by a positive whole number. An exact quotient at the scale of the dividend keeps
that scale; any other is a long division, some zeros at whose end are dropped. -/
def divNat? (a : Decimal) (n : Nat) : Option Decimal :=
  let m := a.mantissa.natAbs
  let signed (k : Nat) : Int := if a.mantissa < 0 then -(k : Int) else k
  if n = 0 then none
  else if m = 0 then some zero
  else if m % n = 0 then ofParts? (signed (m / n)) a.scale
  else do
    let (q, scale) := tidyQuotient (← divideOn? n (maxScale + 1) (m / n) (m % n) a.scale)
    ofParts? (signed q) scale

/-- The whole number that a decimal is, if it has no fraction. -/
def toInt? (a : Decimal) : Option Int :=
  if a.mantissa % 10 ^ a.scale = 0 then some (a.mantissa / 10 ^ a.scale) else none

end Decimal

end SqlGateway
