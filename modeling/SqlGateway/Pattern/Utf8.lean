import SqlGateway.Character.Set

/-! The bytes of characters: a set of characters as sequences of byte ranges,
each of which stands for all the characters whose bytes lie in them. -/

namespace SqlGateway.Pattern

/-- A range of bytes, both ends included. -/
abbrev ByteRange := Nat × Nat

/-- The number of values of `n` continuation bytes. -/
def continuations (n : Nat) : Nat := 1 <<< (6 * n)

/-- The sequences for the numbers from `low` to `high`, whose digits to base 64 are a leading one,
added to `lead`, and `n` more. -/
def spans (lead : Nat) : Nat → Nat → Nat → List (List ByteRange)
  | 0, low, high => [[(lead + low, lead + high)]]
  | n + 1, low, high =>
    let unit := continuations (n + 1)
    let (a, b) := (low / unit, high / unit)
    let under (digit low high : Nat) : List (List ByteRange) :=
      (spans 0x80 n low high).map ((lead + digit, lead + digit) :: ·)
    if a = b then under a (low % unit) (high % unit)
    else
      let startsWhole := low % unit = 0
      let endsWhole := high % unit + 1 = unit
      let first := if startsWhole then a else a + 1
      let last := if endsWhole then b + 1 else b
      (if startsWhole then [] else under a (low % unit) (unit - 1))
        ++ (if first < last then
            [(lead + first, lead + last - 1) :: List.replicate (n + 1) (0x80, 0xBF)] else [])
        ++ (if endsWhole then [] else under b 0 (high % unit))

/-- The lengths of characters: the mark of the leading byte, the number of bytes after it, and the
first and last code point. -/
def byteLengths : List (Nat × Nat × Nat × Nat) :=
  [(0, 0, 0, 0x7F), (0xC0, 1, 0x80, 0x7FF), (0xE0, 2, 0x800, 0xFFFF), (0xF0, 3, 0x10000, 0x10FFFF)]

/-- The sequences for a range of characters. -/
def rangeSequences (low high : Nat) : List (List ByteRange) :=
  byteLengths.flatMap fun (lead, n, first, last) =>
    if max low first ≤ min high last then spans lead n (max low first) (min high last) else []

/-- The sequences for a set of characters, in ascending order. -/
def byteSequences (s : CharSet) : List (List ByteRange) :=
  s.ranges.flatMap fun (low, high) => rangeSequences low high

/-- The bytes of a text. -/
def bytesOf (cs : List Char) : List Nat :=
  cs.flatMap fun c => ((rangeSequences c.toNat c.toNat).headD []).map (·.1)

end SqlGateway.Pattern
