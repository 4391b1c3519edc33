import SqlGateway.Json.Basic

/-! Reading JSON. The grammar is strict. A number with a fraction or exponent,
or out of the range of 64 bits, becomes a double: its first digits as a 64-bit
whole number, scaled by a power of ten. Numbers out of the range of doubles,
strings with half a surrogate pair and what nests more than 127 deep keep to the
grammar but are not readable. -/

namespace SqlGateway.Json

/-- Drops the blanks of the grammar. -/
def skip (cs : List Char) : List Char :=
  cs.dropWhile fun c => c = ' ' || c = '\n' || c = '\t' || c = '\r'

/-! ### Strings -/

/-- The characters of code points, two halves of a surrogate pair being one character; a half alone
has none. -/
def ofCodePoints? : List Nat → Option (List Char)
  | [] => some []
  | [n] => if h : n.isValidChar then some [Char.ofNatAux n h] else none
  | high :: low :: ns =>
    if h : high.isValidChar then (ofCodePoints? (low :: ns)).map (Char.ofNatAux high h :: ·)
    else if high < 0xDC00 && 0xDC00 ≤ low && low < 0xE000 then
      (ofCodePoints? ns).map
        (Char.ofNat (0x10000 + (high - 0xD800) * 0x400 + (low - 0xDC00)) :: ·)
    else none

/-- The code points before the closing quote, after those read so far, and what follows it. -/
def codePoints? (read : List Nat) : List Char → Option (List Nat × List Char)
  | [] => none
  | '"' :: cs => some (read.reverse, cs)
  | '\\' :: 'u' :: a :: b :: c :: d :: cs => do codePoints? ((← ofHex? [a, b, c, d]) :: read) cs
  | '\\' :: c :: cs =>
    match c with
    | '"' => codePoints? (0x22 :: read) cs
    | '\\' => codePoints? (0x5c :: read) cs
    | '/' => codePoints? (0x2f :: read) cs
    | 'b' => codePoints? (0x08 :: read) cs
    | 'f' => codePoints? (0x0c :: read) cs
    | 'n' => codePoints? (0x0a :: read) cs
    | 'r' => codePoints? (0x0d :: read) cs
    | 't' => codePoints? (0x09 :: read) cs
    | _ => none
  | c :: cs => if c.toNat < 0x20 || c = '\\' then none else codePoints? (c.toNat :: read) cs

/-- A string after its opening quote, which is `none` if it is not readable, and what follows it. -/
def stringRest? (cs : List Char) : Option (Option String × List Char) :=
  (codePoints? [] cs).map fun (ns, rest) => ((ofCodePoints? ns).map String.ofList, rest)

/-! ### Numbers -/

/-- The greatest significand. -/
def significandLimit : Nat := UInt64.size

/-- Takes digits into a significand as long as it fits; gives the number of digits taken and
whether one was left out. -/
def takeDigits (significand taken : Nat) : List Char → Nat × Nat × List Char × Bool
  | [] => (significand, taken, [], false)
  | c :: cs =>
    if isDigit c then
      let next := 10 * significand + digitValue c
      if significandLimit ≤ next then (significand, taken, c :: cs, true)
      else takeDigits next (taken + 1) cs
    else (significand, taken, c :: cs, false)

/-- A power of ten as a double. -/
def powerOfTen (n : Nat) : Float := Float.ofScientific 1 false n

/-- A significand scaled by a power of ten; a result out of range is refused. -/
def scaled? (significand : Nat) (exponent : Int) : Option Float :=
  let f := significand.toUInt64.toFloat
  if 0 ≤ exponent then
    if significand = 0 then some f
    else if 308 < exponent then none
    else
      let r := f * powerOfTen exponent.toNat
      if r.isInf then none else some r
  else
    let n := exponent.natAbs
    if n ≤ 308 then some (f / powerOfTen n)
    else if n ≤ 616 then some (f / powerOfTen 308 / powerOfTen (n - 308))
    else if n ≤ 924 then some (f / powerOfTen 308 / powerOfTen 308 / powerOfTen (n - 616))
    else some 0.0

/-- The double of a significand and exponent with a sign. -/
def ofScaled (negative : Bool) (significand : Nat) (exponent : Int) : Json :=
  match scaled? significand exponent with
  | some f => .double (if negative then -f else f)
  | none => .unreadable

/-- The exponent after its mark, added to the exponent found so far. -/
def exponent? (negative : Bool) (significand : Nat) (start : Int) (cs : List Char) :
    Option (Json × List Char) := do
  let (down, cs) := match cs with
    | '+' :: r => (false, r)
    | '-' :: r => (true, r)
    | r => (false, r)
  let (ds, rest) := spanDigits cs
  if ds.isEmpty then none
  let n := ofDigits ds
  if Int32.maxValue.toInt < n then
    if significand ≠ 0 && !down then some (.unreadable, rest)
    else some (.double (if negative then -0.0 else 0.0), rest)
  else some (ofScaled negative significand (if down then start - n else start + n), rest)

/-- What may follow the whole part of a double: an exponent or nothing. -/
def afterDigits? (negative : Bool) (significand : Nat) (exponent : Int) :
    List Char → Option (Json × List Char)
  | 'e' :: cs | 'E' :: cs => exponent? negative significand exponent cs
  | cs => some (ofScaled negative significand exponent, cs)

/-- The fraction after its point. -/
def fraction? (negative : Bool) (significand : Nat) (exponent : Int) (cs : List Char) :
    Option (Json × List Char) :=
  let (significand, taken, rest, full) := takeDigits significand 0 cs
  if taken = 0 && !full then none
  else afterDigits? negative significand (exponent - taken) (rest.dropWhile isDigit)

/-- The number after its sign. -/
def unsigned? (negative : Bool) (cs : List Char) : Option (Json × List Char) :=
  match cs with
  | '0' :: c :: _ => if isDigit c then none else go cs
  | c :: _ => if isDigit c then go cs else none
  | [] => none
where
  go (cs : List Char) : Option (Json × List Char) :=
    let (significand, _, rest, full) := takeDigits 0 0 cs
    if full then
      let (more, rest) := spanDigits rest
      match rest with
      | '.' :: r => fraction? negative significand more.length r
      | r => afterDigits? negative significand more.length r
    else
      match rest with
      | '.' :: r => fraction? negative significand 0 r
      | 'e' :: _ | 'E' :: _ => afterDigits? negative significand 0 rest
      | r =>
        if negative then
          if significand = 0 || -(significand : Int) < Int64.minValue.toInt then
            some (.double (-significand.toUInt64.toFloat), r)
          else some (.integer (-(significand : Int)), r)
        else some (.integer significand, r)

/-! ### Values -/

/-- Items up to the closing bracket, at most `n` of them. -/
def itemsRest? {α : Type} (close : Char) (item : List Char → Option (α × List Char)) :
    Nat → List Char → Option (List α × List Char)
  | 0, _ => none
  | n + 1, cs => do
    let (v, cs) ← item cs
    match skip cs with
    | c :: cs =>
      if c = close then some ([v], cs)
      else if c = ',' then
        let (vs, cs) ← itemsRest? close item n cs
        return (v :: vs, cs)
      else none
    | [] => none

/-- Items between brackets, after the opening one. -/
def items? {α : Type} (close : Char) (item : List Char → Option (α × List Char)) (cs : List Char) :
    Option (List α × List Char) :=
  match skip cs with
  | c :: r => if c = close then some ([], r) else itemsRest? close item cs.length (c :: r)
  | [] => none

/-- A key, a colon and a value. -/
def member? (value : List Char → Option (Json × List Char)) (cs : List Char) :
    Option ((Option String × Json) × List Char) :=
  match skip cs with
  | '"' :: cs => do
    let (key, cs) ← stringRest? cs
    match skip cs with
    | ':' :: cs =>
      let (v, cs) ← value cs
      return ((key, v), cs)
    | _ => none
  | _ => none

/-- The object of members, all of whose keys must be readable. -/
def ofMembers (members : List (Option String × Json)) : Json :=
  match members.mapM fun (key, v) => key.map (·, v) with
  | some members => .object members
  | none => .unreadable

/-- A value after blanks, with at most `fuel` values within each other; the outer `depth` of them
are readable. -/
def value? : Nat → Nat → List Char → Option (Json × List Char)
  | 0, _, _ => none
  | fuel + 1, depth, cs =>
    let within (v : Json) : Json := if depth = 0 then .unreadable else v
    match skip cs with
    | 'n' :: 'u' :: 'l' :: 'l' :: r => some (.null, r)
    | 't' :: 'r' :: 'u' :: 'e' :: r => some (.bool true, r)
    | 'f' :: 'a' :: 'l' :: 's' :: 'e' :: r => some (.bool false, r)
    | '"' :: r => (stringRest? r).map fun (s, r) => ((s.map Json.string).getD .unreadable, r)
    | '[' :: r =>
      (items? ']' (value? fuel (depth - 1)) r).map fun (vs, r) => (within (.array vs), r)
    | '{' :: r =>
      (items? '}' (member? (value? fuel (depth - 1))) r).map fun (ms, r) =>
        (within (ofMembers ms), r)
    | '-' :: r => unsigned? true r
    | r => unsigned? false r

/-- How deep values may nest. -/
def maxDepth : Nat := 127

/-- Reads a text that holds one value and blanks around it. -/
def ofText? (s : String) : Option Json := do
  let (v, rest) ← value? (s.toList.length + 1) maxDepth s.toList
  if (skip rest).isEmpty then some v else none

end SqlGateway.Json
