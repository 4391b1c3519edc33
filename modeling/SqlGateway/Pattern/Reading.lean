import SqlGateway.Pattern.Automaton
import SqlGateway.Pattern.Bracketed

/-! Reading search patterns. The options set the modes in which reading starts;
a pattern may switch modes for the rest of a group or inside one. There is no
looking around and there are no references to groups. Patterns that nest too
deep or whose automata would be too large are refused. -/

namespace SqlGateway.Pattern

/-! ### Repetition -/

/-- A decimal number with blanks around it. -/
def bound? (m : Modes) (cs : List Char) : Option (Nat × List Char) :=
  let (ds, rest) := m.takeSpaced isDigit cs.length (dropBlanks cs)
  if ds.isEmpty || UInt32.size ≤ ofDigits ds then none
  else some (ofDigits ds, m.skip (dropBlanks rest))

/-- Bounds in braces, after the opening one. -/
def bounds? (m : Modes) (cs : List Char) : Option ((Nat × Option Nat) × List Char) := do
  let (least, cs) ← bound? m (m.skip cs)
  match cs with
  | '}' :: rest => return ((least, some least), rest)
  | ',' :: rest =>
    match m.skip rest with
    | '}' :: rest => return ((least, none), rest)
    | rest =>
      let (most, rest) ← bound? m rest
      match rest with
      | '}' :: rest => if least ≤ most then return ((least, some most), rest) else none
      | _ => none
  | _ => none

/-! ### Groups -/

/-- A pattern and how deep what it was written as is nested. -/
structure Nested where
  pattern : Pattern
  depth : Nat := 0

/-- What has been read of a group. -/
structure Frame where
  /-- The modes outside of the group. -/
  outer : Modes
  /-- Whether the group is told apart from others. -/
  isTold : Bool := false
  /-- The alternatives before the current one, the last one first. -/
  alternatives : List Nested := []
  /-- The parts of the current alternative, the last one first; `none` is a switch of modes. -/
  parts : List (Option Nested) := []

namespace Frame

/-- The greatest depth of some depths, and one more if there are several. -/
def depthOf (depths : List Nat) : Nat :=
  let deepest := depths.foldl max 0
  if depths.length ≤ 1 then deepest else deepest + 1

/-- The parts of the current alternative in sequence. -/
def sequence (f : Frame) : Nested where
  pattern := f.parts.foldl (fun rest p => match p, rest with
    | none, rest => rest
    | some p, .empty => p.pattern
    | some p, rest => .seq p.pattern rest) .empty
  depth := depthOf (f.parts.map fun p => (p.map (·.depth)).getD 0)

/-- All alternatives. -/
def content (f : Frame) : Nested where
  pattern := f.alternatives.foldl (fun rest p => .alt p.pattern rest) f.sequence.pattern
  depth := depthOf ((f.sequence :: f.alternatives).map (·.depth))

/-- The whole group. -/
def close (f : Frame) : Nested :=
  let inner := f.content
  ⟨if f.isTold then .group inner.pattern else inner.pattern, inner.depth + 1⟩

/-- Adds a part. -/
def add (f : Frame) (p : Pattern) (depth : Nat) : Frame :=
  { f with parts := some ⟨p, depth⟩ :: f.parts }

/-- Adds a switch of modes. -/
def addSwitch (f : Frame) : Frame := { f with parts := none :: f.parts }

/-- Starts a new alternative. -/
def next (f : Frame) : Frame :=
  { f with alternatives := f.sequence :: f.alternatives, parts := [] }

/-- Repeats the last part. -/
def repeatLast? (f : Frame) (least : Nat) (most : Option Nat) : Option Frame :=
  match f.parts with
  | some p :: ps =>
    some { f with parts := some ⟨.repeated p.pattern least most, p.depth + 1⟩ :: ps }
  | _ => none

end Frame

/-- How a parenthesis opens: a group with its modes, which may have a name, or a switch of modes. -/
inductive Opening where
  | group (m : Modes) (isTold : Bool) (name : Option (List Char))
  | switch (m : Modes)

/-- Whether a character may start the name of a group. -/
def isNameStart (c : Char) : Bool := c = '_' || CharSet.alphabetic.has c

/-- The characters of numbers. -/
def numberChars : CharSet := Category.setOf Category.numbers

/-- Whether a character may stand in the name of a group. -/
def isNameChar (c : Char) : Bool :=
  isNameStart c || c = '.' || c = '[' || c = ']' || numberChars.has c

/-- The name of a group up to its closing angle bracket. -/
def groupName? (cs : List Char) : Option (List Char × List Char) :=
  match cs.span (· != '>') with
  | (first :: name, _ :: rest) =>
    if isNameStart first && name.all isNameChar then some (first :: name, rest) else none
  | _ => none

/-- The opening of a group, after its parenthesis. -/
def opening? (m : Modes) (cs : List Char) : Option (Opening × List Char) :=
  let named (cs : List Char) : Option (Opening × List Char) :=
    (groupName? cs).map fun (name, rest) => (.group m true (some name), rest)
  match m.skip cs with
  | '?' :: 'P' :: '<' :: cs => named cs
  | '?' :: '<' :: cs => named cs
  | '?' :: ')' :: _ => none
  | '?' :: cs =>
    match m.switch? true [] cs with
    | some (m, ':' :: rest) => some (.group m false none, rest)
    | some (m, _ :: rest) => some (.switch m, rest)
    | _ => none
  | cs => some (.group m true none, cs)

/-! ### Patterns -/

/-- The pattern of a character. -/
def charPattern (m : Modes) (c : Char) : Pattern := .chars (m.inAnyCase (.single c))

/-- The pattern of an escape. -/
def Escaped.pattern (m : Modes) : Escaped → Pattern
  | .literal c => charPattern m c
  | .set s => .chars s
  | .anchor a => .anchor a

/-- Drops the mark of a repetition that prefers few matches. -/
def dropLazy : List Char → List Char
  | '?' :: cs => cs
  | cs => cs

/-- Reads the rest of a pattern inside the groups that are open, after groups of some names; every
step takes a character. -/
def run? : Nat → Modes → List (List Char) → Frame → List Frame → List Char → Option Nested
  | 0, _, _, _, _, _ => none
  | fuel + 1, m, names, f, around, cs =>
    match m.skip cs with
    | [] => if around.isEmpty then some f.content else none
    | '(' :: rest => do
      match ← opening? m rest with
      | (.group inner isTold name, rest) =>
        guard !(name.any names.contains)
        run? fuel inner (name.toList ++ names) { outer := m, isTold } (f :: around) rest
      | (.switch m, rest) => run? fuel m names f.addSwitch around rest
    | ')' :: rest =>
      match around with
      | outer :: around =>
        let closed := f.close
        run? fuel f.outer names (outer.add closed.pattern closed.depth) around rest
      | [] => none
    | '|' :: rest => run? fuel m names f.next around rest
    | '*' :: rest => do run? fuel m names (← f.repeatLast? 0 none) around (dropLazy rest)
    | '+' :: rest => do run? fuel m names (← f.repeatLast? 1 none) around (dropLazy rest)
    | '?' :: rest => do run? fuel m names (← f.repeatLast? 0 (some 1)) around (dropLazy rest)
    | '{' :: rest => do
      let ((least, most), rest) ← bounds? m rest
      run? fuel m names (← f.repeatLast? least most) around (dropLazy (m.skip rest))
    | '[' :: rest => do
      let (s, rest) ← class? m rest
      run? fuel m names (f.add (.chars s.set) s.depth) around rest
    | '^' :: rest => run? fuel m names (f.add (.anchor m.startAnchor) 0) around rest
    | '$' :: rest => run? fuel m names (f.add (.anchor m.endAnchor) 0) around rest
    | '.' :: rest => do run? fuel m names (f.add (.chars (← m.point?)) 0) around rest
    | '\\' :: rest => do
      let (e, rest) ← Escaped.read? m rest
      run? fuel m names (f.add (e.pattern m) 0) around rest
    | c :: rest => run? fuel m names (f.add (charPattern m c) 0) around rest

/-- How deep a pattern may be nested. -/
def depthLimit : Nat := 250

/-- Reads a pattern with option letters. -/
def ofText? (pattern options : String) : Option Pattern := do
  let cs := pattern.toList
  let m := Modes.ofOptions options
  let p ← run? (cs.length + 1) m [] { outer := m } [] cs
  if p.depth ≤ depthLimit && p.pattern.fits then some p.pattern else none

end SqlGateway.Pattern
