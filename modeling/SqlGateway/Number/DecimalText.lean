import SqlGateway.Number.Decimal

/-! The text of decimals. Writing keeps the scale; reading takes a plain or
scientific form and rounds what lies past 28 decimals or past the mantissa's
range half away from zero. Digits may be grouped by `_`. -/

namespace SqlGateway.Decimal

/-- All digits of the mantissa with the point at the scale. -/
def toChars (d : Decimal) : List Char :=
  let ds := paddedDigits (d.scale + 1) d.mantissa.natAbs
  let whole := ds.length - d.scale
  let body := if d.scale = 0 then ds else ds.take whole ++ '.' :: ds.drop whole
  if d.mantissa < 0 then '-' :: body else body

/-- The text of a decimal. -/
def text (d : Decimal) : String := String.ofList d.toChars

/-! ### Reading -/

/-- What has been read of a plain decimal. -/
structure Reading where
  mantissa : Nat
  scale : Nat
  /-- Whether the point has been read. -/
  point : Bool
  /-- Whether a digit has been read. -/
  digit : Bool

namespace Reading

/-- The unsigned result, if any digit was read. -/
def finish? (r : Reading) : Option (Nat × Nat) :=
  if r.digit then some (r.mantissa, r.scale) else none

/-- Whether a character is a digit or a separator of digits. -/
def isDigitOrSeparator (c : Char) : Bool := isDigit c || c = '_'

/-- Ends the reading at the character after the last digit kept, which rounds; a separator or a
second point there counts as zero. After it only digits and separators may follow. -/
def roundBy? (r : Reading) (next : Char) (rest : List Char) : Option (Nat × Nat) :=
  if !(isDigitOrSeparator next || next = '.') || !rest.all isDigitOrSeparator then none
  else if !isDigit next || digitValue next < 5 then some (r.mantissa, r.scale)
  else if r.mantissa + 1 < room then some (r.mantissa + 1, r.scale)
  else if r.scale = 0 then none
  else some ((r.mantissa + 5) / 10, r.scale - 1)

/-- From this mantissa on a separator after the last decimal does not end the reading: it is a bit
below a tenth of the 64-bit range. -/
def wideMantissa : Nat := UInt64.size / 10 - 255

/-- Reads the digits, the point and the separators `_` of a plain decimal. -/
def run? (r : Reading) : List Char → Option (Nat × Nat)
  | [] => r.finish?
  | c :: cs =>
    if isDigit c then
      let mantissa := 10 * r.mantissa + digitValue c
      if room ≤ mantissa then
        if r.point then r.roundBy? c cs else none
      else
        let wide := wideMantissa ≤ r.mantissa
        let r : Reading := ⟨mantissa, if r.point then r.scale + 1 else r.scale, r.point, true⟩
        if r.point && maxScale ≤ r.scale then
          match cs with
          | [] => r.finish?
          | next :: rest =>
            if next = '_' && wide then run? r rest else r.roundBy? next rest
        else run? r cs
    else if c = '.' && !r.point then run? ⟨r.mantissa, r.scale, true, r.digit⟩ cs
    else if c = '_' && r.digit then run? r cs
    else none

end Reading

/-- Reads a plain decimal: an optional sign, digits and at most one point. A digit more than the
greatest scale, which a separator lets in, starts the count of decimals again. -/
def ofPlain? (cs : List Char) : Option Decimal := do
  let (negative, cs) := match cs with
    | '-' :: r => (true, r)
    | '+' :: r => (false, r)
    | r => (false, r)
  let (m, scale) ← (⟨0, 0, false, false⟩ : Reading).run? cs
  ofParts? (if negative then -(m : Int) else m) (scale % (maxScale + 1))

/-- The unsigned 32-bit number that an exponent's digits stand for. -/
def readExponent? (cs : List Char) : Option Nat := do
  let ds := match cs with
    | '+' :: r => r
    | r => r
  if ds.isEmpty || !ds.all isDigit then none
  let n := ofDigits ds
  if n < UInt32.size then some n else none

/-- The decimal of a mantissa and a scale, rounded half away from zero to the greatest scale. -/
def ofDeep? (mantissa : Int) (scale : Nat) : Option Decimal :=
  let lost := 10 ^ (scale - maxScale)
  let m := mantissa.natAbs / lost + (if lost ≤ 2 * (mantissa.natAbs % lost) then 1 else 0)
  ofParts? (if mantissa < 0 then -(m : Int) else m) (min scale maxScale)

/-- Shifts the point of a decimal to the right by at most 28 places. -/
def shiftRight? (d : Decimal) (n : Nat) : Option Decimal :=
  if maxScale < n then none else ofParts? (d.mantissa * 10 ^ (n - d.scale)) (d.scale - n)

/-- Shifts the point of a decimal to the left by at most 28 places. -/
def shiftLeft? (d : Decimal) (n : Nat) : Option Decimal :=
  if maxScale < n then none else ofDeep? d.mantissa (d.scale + n)

/-- Reads a decimal with an exponent. -/
def ofScientific? (cs : List Char) : Option Decimal := do
  let isMark (c : Char) : Bool := c == 'e' || c == 'E'
  let base := cs.takeWhile (!isMark ·)
  match cs.dropWhile (!isMark ·) with
  | [] => none
  | _ :: '-' :: exponent => (← ofPlain? base).shiftLeft? (← readExponent? exponent)
  | _ :: exponent => (← ofPlain? base).shiftRight? (← readExponent? exponent)

/-- Reads a decimal in plain or else in scientific form. -/
def ofChars? (cs : List Char) : Option Decimal := ofPlain? cs <|> ofScientific? cs

/-- Reads a decimal from a text. -/
def ofText? (s : String) : Option Decimal := ofChars? s.toList

end SqlGateway.Decimal
