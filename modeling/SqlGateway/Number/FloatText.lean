import SqlGateway.Number.Shortest
import SqlGateway.Text.Digits

/-! The written forms of floats. A form is a record of its choices; the digits
are always the shortest ones that read back. -/

namespace SqlGateway

/-- The choices of a written form. -/
structure FloatForm where
  /-- Which of two equally near digit strings is written. -/
  tie : Tie
  /-- The decimal exponents of the first digit that are written without an exponent. -/
  isPositional : Int → Bool
  /-- Whether a whole number keeps a point and a zero. -/
  keepsPoint : Bool

namespace FloatForm

/-- Never an exponent, and no point on whole numbers. -/
def plain : FloatForm := ⟨.up, fun _ => true, false⟩

/-- JSON numbers of double width: positional from `10 ^ -5` below `10 ^ 16`. -/
def json : FloatForm := ⟨.even, fun e => -5 ≤ e && e < 16, true⟩

/-- JSON numbers of single width: positional from `10 ^ -6` below `10 ^ 13`. -/
def jsonSingle : FloatForm := ⟨.even, fun e => -6 ≤ e && e < 13, true⟩

/-- Digits and decimal exponent laid out in a form. -/
def layOut (form : FloatForm) (d : DecimalDigits) : List Char :=
  let ds := digitsOf d.digits
  let first : Int := d.exponent + ds.length - 1
  if form.isPositional first then
    if 0 ≤ d.exponent then
      ds ++ List.replicate d.exponent.toNat '0' ++ (if form.keepsPoint then ['.', '0'] else [])
    else if 0 ≤ first then
      ds.take (first.toNat + 1) ++ '.' :: ds.drop (first.toNat + 1)
    else
      '0' :: '.' :: List.replicate (-first - 1).toNat '0' ++ ds
  else
    let exponent := (if first < 0 then '-' else '+') :: digitsOf first.natAbs
    match ds with
    | [c] => c :: 'e' :: exponent
    | c :: r => c :: '.' :: r ++ 'e' :: exponent
    | [] => 'e' :: exponent

/-- The text of a finite float from its sign and magnitude; zero keeps its sign. -/
def write (form : FloatForm) (negative zero : Bool) (x : BinaryFloat) : String :=
  let body := if zero then layOut form ⟨0, 0⟩ else layOut form (x.shortest form.tie)
  String.ofList (if negative then '-' :: body else body)

end FloatForm

/-- Whether the sign bit of a double is set. -/
def isNegativeDouble (x : Float) : Bool := x.toBits.toBitVec.msb

/-- The text of a double; infinities and NaN are written `inf`, `-inf` and `NaN`. -/
def doubleText (form : FloatForm) (x : Float) : String :=
  if x.isNaN then "NaN"
  else if x.isInf then (if isNegativeDouble x then "-inf" else "inf")
  else form.write (isNegativeDouble x) (x == 0.0) (BinaryFloat.ofDouble x)

/-- The text of a finite single. -/
def singleText (form : FloatForm) (x : Float32) : String :=
  form.write x.toBits.toBitVec.msb (x == 0.0) (BinaryFloat.ofSingle x)

end SqlGateway
