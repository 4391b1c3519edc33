import SqlGateway.Number.DecimalFloat
import SqlGateway.Value.Basic

/-! The order of stored values: by class first, and inside a class by content.
Numbers of all widths are one class; they compare by value, and have sums and
quotients. -/

namespace SqlGateway.Value

/-- The place of a value's class in the order of classes. -/
def classRank : Value → Nat
  | .minKey => 0
  | .null | .undefined => 1
  | .int _ | .long _ | .double _ | .decimal _ => 2
  | .string _ | .symbol _ => 3
  | .document _ => 4
  | .array _ => 5
  | .binary _ => 6
  | .objectId _ => 7
  | .bool _ => 8
  | .date _ => 9
  | .timestamp _ => 10
  | .regex _ => 11
  | .code _ | .codeWithScope _ _ => 12
  | .maxKey => 13

/-- Whether two values are of one class. -/
def sameClass (a b : Value) : Bool := a.classRank == b.classRank

/-! ### Numbers -/

/-- The numeric view of a value. -/
inductive Number where
  | whole (n : Int64)
  | double (x : Float)
  | exact (d : Decimal)

namespace Number

/-- The number of a value, if it has one. -/
def ofValue? : Value → Option Number
  | .int n => some (.whole n.toInt64)
  | .long n => some (.whole n)
  | .double x => some (.double x.toFloat)
  | .decimal d => d.toDecimal?.map .exact
  | _ => none

/-- The number as a double. -/
def toDouble : Number → Float
  | .whole n => doubleOfInt n.toInt
  | .double x => x
  | .exact d => d.toDouble

/-- The number as a decimal, if it has one. -/
def toDecimal? : Number → Option Decimal
  | .whole n => some (Decimal.ofInt64 n)
  | .double x => Decimal.ofDouble? x
  | .exact d => some d

/-- The order of doubles; NaN is equal to everything. -/
def orderDoubles (x y : Float) : Ordering :=
  if x < y then .lt else if y < x then .gt else .eq

/-- The order of numbers: whole numbers exactly, a decimal beside a whole number exactly, and all
else as doubles. -/
def order : Number → Number → Ordering
  | .whole a, .whole b => compare a.toInt b.toInt
  | .exact a, .exact b => a.order b
  | .exact a, .whole b => a.order (Decimal.ofInt64 b)
  | .whole a, .exact b => (Decimal.ofInt64 a).order b
  | a, b => orderDoubles a.toDouble b.toDouble

end Number

/-- Whether a value is a number that can be computed with. -/
def isNumeric (v : Value) : Bool := (Number.ofValue? v).isSome

/-! ### All values -/

/-- The order of byte strings. -/
def orderBytes : List UInt8 → List UInt8 → Ordering
  | [], [] => .eq
  | [], _ => .lt
  | _, [] => .gt
  | a :: as, b :: bs => (compare a.toNat b.toNat).then (orderBytes as bs)

/-- The order of texts by code point. -/
def orderText (s t : String) : Ordering :=
  if s < t then .lt else if s = t then .eq else .gt

/-- The order of values inside one class that hold no other values. -/
def orderScalars : Value → Value → Ordering
  | .string s, .string t | .string s, .symbol t | .symbol s, .string t | .symbol s, .symbol t =>
    orderText s t
  | .binary a, .binary b => orderBytes a.bytes b.bytes
  | .objectId a, .objectId b => compare a.bits.toNat b.bits.toNat
  | .bool a, .bool b => compare a.toNat b.toNat
  | .date a, .date b => compare a.toInt b.toInt
  | .timestamp a, .timestamp b =>
    (compare a.seconds.toNat b.seconds.toNat).then (compare a.increment.toNat b.increment.toNat)
  | .regex a, .regex b => (orderText a.pattern b.pattern).then (orderText a.options b.options)
  | a, b => match Number.ofValue? a, Number.ofValue? b with
    | some x, some y => x.order y
    | _, _ => .eq

mutual

/-- The order of two values. -/
def order : Value → Value → Ordering
  | .document a, .document b => orderFields a b
  | .array a, .array b => orderItems a b
  | a, b => (compare a.classRank b.classRank).then (orderScalars a b)

/-- The order of arrays: by their first different items, then by length. -/
def orderItems : List Value → List Value → Ordering
  | [], [] => .eq
  | [], _ :: _ => .lt
  | _ :: _, [] => .gt
  | a :: as, b :: bs => (order a b).then (orderItems as bs)

/-- The order of documents: field by field, values before names, then by length. -/
def orderFields : List (String × Value) → List (String × Value) → Ordering
  | [], [] => .eq
  | [], _ :: _ => .lt
  | _ :: _, [] => .gt
  | (k, a) :: as, (l, b) :: bs => ((order a b).then (orderText k l)).then (orderFields as bs)

end

/-- Whether two values are equal in the order. -/
def equal (a b : Value) : Bool := order a b == .eq

/-! ### Identity -/

mutual

/-- Whether two values are the same, of one type and with the same content. -/
def same : Value → Value → Bool
  | .null, .null | .undefined, .undefined | .minKey, .minKey | .maxKey, .maxKey => true
  | .bool a, .bool b => a == b
  | .int a, .int b => a == b
  | .long a, .long b => a == b
  | .double a, .double b => a.toFloat == b.toFloat
  | .decimal a, .decimal b => a == b
  | .string a, .string b => a == b
  | .symbol a, .symbol b => a == b
  | .code a, .code b => a == b
  | .codeWithScope a s, .codeWithScope b t => a == b && s.length == t.length && sameFields s t
  | .objectId a, .objectId b => a == b
  | .date a, .date b => a == b
  | .timestamp a, .timestamp b => a == b
  | .binary a, .binary b => a == b
  | .regex a, .regex b => a == b
  | .array a, .array b => sameItems a b
  | .document a, .document b => a.length == b.length && sameFields a b
  | _, _ => false

/-- Whether two arrays hold the same items. -/
def sameItems : List Value → List Value → Bool
  | [], [] => true
  | a :: as, b :: bs => same a b && sameItems as bs
  | _, _ => false

/-- Whether the second document has every field of the first with the same value. -/
def sameFields : List (String × Value) → List (String × Value) → Bool
  | [], _ => true
  | (k, a) :: as, bs => (match List.lookup k bs with
    | some b => same a b
    | none => false) && sameFields as bs

end

/-! ### Sums and quotients -/

/-- Whether a whole number fits in 32 bits. -/
def fitsInt32 (n : Int) : Bool := Int32.minValue.toInt ≤ n && n ≤ Int32.maxValue.toInt

/-- Whether a whole number fits in 64 bits. -/
def fitsInt64 (n : Int) : Bool := Int64.minValue.toInt ≤ n && n ≤ Int64.maxValue.toInt

/-- The sum of two numbers. Whole numbers widen from int to long to double; a decimal makes the
sum a decimal, and then an inexact or too large summand has no sum. -/
def add? (a b : Value) : Option Value := do
  let x ← Number.ofValue? a
  let y ← Number.ofValue? b
  match a, b, x, y with
  | .int l, .int r, _, _ =>
    let sum := l.toInt + r.toInt
    return if fitsInt32 sum then ofInt32 sum else ofInt64 sum
  | _, _, .whole l, .whole r =>
    let sum := l.toInt + r.toInt
    return if fitsInt64 sum then ofInt64 sum
      else .ofFloat (doubleOfInt l.toInt + doubleOfInt r.toInt)
  | _, _, .exact _, _ | _, _, _, .exact _ =>
    let sum ← (← x.toDecimal?).add? (← y.toDecimal?)
    return .decimal (Decimal128.ofDecimal sum)
  | _, _, x, y => return .ofFloat (x.toDouble + y.toDouble)

/-- The quotient of a number by a count: a decimal stays one, all else becomes a double. -/
def divide? (total : Value) (count : Nat) : Option Value := do
  match ← Number.ofValue? total with
  | .exact d => return .decimal (Decimal128.ofDecimal (← d.divNat? count))
  | x => return .ofFloat (x.toDouble / Decimal.nearestDouble count)

end SqlGateway.Value
