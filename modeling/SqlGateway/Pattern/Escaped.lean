import SqlGateway.Character.Naming
import SqlGateway.Pattern.Modes

/-! What stands after a backslash in a pattern: a character, a set of characters
or a condition on the position. -/

namespace SqlGateway.Pattern

/-- What an escape stands for. -/
inductive Escaped where
  | literal (c : Char)
  | set (s : CharSet)
  | anchor (a : Anchor)

namespace Escaped

/-- The character of hexadecimal digits. -/
def hexChar? (ds : List Char) : Option Char := do
  let n ← ofHex? ds
  if h : n.isValidChar then some (Char.ofNatAux n h) else none

/-- Whether a character is a hexadecimal digit. -/
def isHexDigit (c : Char) : Bool := (hexValue? c).isSome

/-- A character by its code: any number of digits in braces, or `width` digits. Two digits stand
for a byte, which is ASCII where sets are. -/
def coded? (m : Modes) (width : Nat) (cs : List Char) : Option (Escaped × List Char) :=
  match m.skip cs with
  | '{' :: cs => do
    let (ds, rest) ← m.braced? cs
    return (.literal (← hexChar? ds), rest)
  | cs => do
    let (ds, rest) := m.takeSpaced isHexDigit width cs
    guard (ds.length = width)
    let c ← hexChar? ds
    guard !(m.ascii && width = 2 && 0x80 ≤ c.toNat)
    return (.literal c, rest)

/-- What stands before a mark and what after it. -/
def cutAt? (mark : List Char) : List Char → Option (List Char × List Char)
  | [] => none
  | c :: cs =>
    if mark.isPrefixOf (c :: cs) then some ([], (c :: cs).drop mark.length)
    else (cutAt? mark cs).map fun (before, after) => (c :: before, after)

/-- The set of a property in braces, and whether it is negated there: a name, or a property and its
value. -/
def property? (cs : List Char) : Option (CharSet × Bool) :=
  match cutAt? ['!', '='] cs with
  | some (name, value) => (CharSet.ofValue? name value).map (·, true)
  | none =>
    match cutAt? [':'] cs <|> cutAt? ['='] cs with
    | some (name, value) => (CharSet.ofValue? name value).map (·, false)
    | none => (CharSet.ofName? cs).map (·, false)

/-- The set of a property that is named in braces or by one letter, and whether it is negated. -/
def named? (m : Modes) (cs : List Char) : Option ((CharSet × Bool) × List Char) :=
  match m.skip cs with
  | '{' :: cs => do
    let (name, rest) ← m.braced? cs
    return (← property? name, rest)
  | '\\' :: _ | [] => none
  | c :: cs => (CharSet.ofName? [c]).map fun s => ((s, false), m.skip cs)

/-- The characters of a property or the other ones. -/
def class? (m : Modes) (negated : Bool) (cs : List Char) : Option (Escaped × List Char) := do
  guard !m.ascii
  let ((s, turned), rest) ← named? m cs
  return (.set (← m.finish? (negated != turned) s), rest)

/-- A set or its complement. -/
def ofSet? (m : Modes) (negated : Bool) (s : CharSet) : PatternReader Escaped := fun cs => do
  return (.set (← m.allow? (.negatedIf negated s)), cs)

/-- The sides of words by their names. -/
def wordPlace? : String → Option WordPlace
  | "start" => some .start
  | "end" => some .finish
  | "start-half" => some .startHalf
  | "end-half" => some .finishHalf
  | _ => none

/-- A word boundary, of one side if braces name it. Braces that begin otherwise belong to a
repetition. -/
def boundary? (m : Modes) (cs : List Char) : Option (Escaped × List Char) :=
  let plain : Option (Escaped × List Char) := some (.anchor (.word .boundary m.ascii), cs)
  let named (c : Char) : Bool := c.isAlpha || c = '-'
  match cs with
  | '{' :: inner =>
    match m.spanSpaced named inner with
    | ([], []) => none
    | ([], _) => plain
    | (name, '}' :: rest) =>
      (wordPlace? (String.ofList name)).map fun place => (.anchor (.word place m.ascii), rest)
    | _ => none
  | _ => plain

/-- An escape, after its backslash. -/
def read? (m : Modes) : PatternReader Escaped
  | [] => none
  | c :: cs =>
    match c with
    | 'x' => coded? m 2 cs
    | 'u' => coded? m 4 cs
    | 'U' => coded? m 8 cs
    | 'p' => class? m false cs
    | 'P' => class? m true cs
    | 'd' => ofSet? m false m.digits cs
    | 'D' => ofSet? m true m.digits cs
    | 's' => ofSet? m false m.blanks cs
    | 'S' => ofSet? m true m.blanks cs
    | 'w' => ofSet? m false (wordSet m.ascii) cs
    | 'W' => ofSet? m true (wordSet m.ascii) cs
    | 'a' => some (.literal '\x07', cs)
    | 'f' => some (.literal '\x0c', cs)
    | 't' => some (.literal '\t', cs)
    | 'n' => some (.literal '\n', cs)
    | 'r' => some (.literal '\r', cs)
    | 'v' => some (.literal '\x0b', cs)
    | 'A' => some (.anchor .textStart, cs)
    | 'z' => some (.anchor .textEnd, cs)
    | 'b' => boundary? m cs
    | 'B' => some (.anchor (.word .inside m.ascii), cs)
    | '<' => some (.anchor (.word .start m.ascii), cs)
    | '>' => some (.anchor (.word .finish m.ascii), cs)
    | c => if c.toNat < 0x80 && !c.isAlphanum then some (.literal c, cs) else none

end Escaped

end SqlGateway.Pattern
