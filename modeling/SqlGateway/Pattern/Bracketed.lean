import SqlGateway.Pattern.Escaped

/-! Classes in brackets: sets of characters built from characters, ranges, named
sets and other classes, with set operations between them. -/

namespace SqlGateway.Pattern

/-- A set operation between the operands of a class. -/
inductive ClassOp where
  | inter | diff | symmDiff

/-- Applies a set operation. -/
def ClassOp.apply : ClassOp → CharSet → CharSet → CharSet
  | .inter => .inter
  | .diff => .diff
  | .symmDiff => .symmDiff

/-- A set and how deep what it was written as is nested. -/
structure NestedSet where
  set : CharSet
  depth : Nat

/-- A class that is being read. -/
structure OpenClass where
  negated : Bool
  /-- The operand on the left and the operation that waits for the right one. -/
  left : Option (NestedSet × ClassOp) := none
  /-- What the current operand holds so far. -/
  current : CharSet := .empty
  /-- The number of items of the current operand. -/
  items : Nat := 0
  /-- How deep the items are nested. -/
  depth : Nat := 0

namespace OpenClass

/-- Adds an item to the current operand. -/
def add (o : OpenClass) (item : NestedSet) : OpenClass :=
  { o with
    current := o.current.union item.set
    items := o.items + 1
    depth := max o.depth item.depth }

/-- Adds a character. -/
def addChar (o : OpenClass) (c : Char) : OpenClass := o.add ⟨.single c, 0⟩

/-- The operands so far; several items are nested once more, and so is an operation. -/
def operands (m : Modes) (o : OpenClass) : NestedSet :=
  let depth := if o.items ≤ 1 then o.depth else o.depth + 1
  match o.left with
  | some (l, op) => ⟨op.apply (m.inAnyCase l.set) (m.inAnyCase o.current), max l.depth depth + 1⟩
  | none => ⟨o.current, depth⟩

/-- Starts a new operand. -/
def operate (m : Modes) (o : OpenClass) (op : ClassOp) : OpenClass :=
  { negated := o.negated, left := some (o.operands m, op) }

/-- The class when its bracket closes. -/
def close? (m : Modes) (o : OpenClass) : Option NestedSet := do
  let inner := o.operands m
  return ⟨← m.finish? o.negated inner.set, inner.depth + 1⟩

/-- Adds the hyphens at the start of a class; every step takes a character. -/
def addHyphens (m : Modes) : Nat → OpenClass → List Char → OpenClass × List Char
  | n + 1, o, '-' :: cs => addHyphens m n (o.addChar '-') (m.skip cs)
  | _, o, cs => (o, cs)

/-- The start of a class after its bracket: the negation, hyphens, and a bracket that closes
nothing. -/
def start? (m : Modes) (cs : List Char) : Option (OpenClass × List Char) :=
  let (negated, cs) := match m.skip cs with
    | '^' :: rest => (true, m.skip rest)
    | rest => (false, rest)
  match addHyphens m cs.length { negated } cs with
  | (_, []) => none
  | (o, ']' :: rest) =>
    if o.items = 0 then
      match m.skip rest with
      | [] => none
      | rest => some (o.addChar ']', rest)
    else some (o, ']' :: rest)
  | (o, rest) => some (o, rest)

end OpenClass

/-! ### Items -/

/-- The ASCII characters of a named set. -/
def asciiTable? : String → Option (List String)
  | "alnum" => some ["30-39 41-5A 61-7A"]
  | "alpha" => some ["41-5A 61-7A"]
  | "ascii" => some ["0-7F"]
  | "blank" => some ["9 20"]
  | "cntrl" => some ["0-1F 7F"]
  | "digit" => some ["30-39"]
  | "graph" => some ["21-7E"]
  | "lower" => some ["61-7A"]
  | "print" => some ["20-7E"]
  | "punct" => some ["21-2F 3A-40 5B-60 7B-7E"]
  | "space" => some ["9-D 20"]
  | "upper" => some ["41-5A"]
  | "word" => some ["30-39 41-5A 5F 61-7A"]
  | "xdigit" => some ["30-39 41-46 61-66"]
  | _ => none

/-- A named set of ASCII characters, after its opening bracket, and whether it is negated. -/
def asciiClass? : PatternReader (CharSet × Bool)
  | ':' :: cs => do
    let (negated, cs) := match cs with
      | '^' :: r => (true, r)
      | r => (false, r)
    match cs.span (· != ':') with
    | (name, ':' :: ']' :: rest) =>
      return ((.ofTable (← asciiTable? (String.ofList name)), negated), rest)
    | _ => none
  | _ => none

/-- One end of a range, or a set on its own. -/
def classItem? (m : Modes) : PatternReader Escaped
  | [] => none
  | '\\' :: cs => Escaped.read? m cs
  | c :: cs => some (.literal c, cs)

/-- The set of an item that stands alone. -/
def Escaped.alone? (m : Modes) : Escaped → Option CharSet
  | .literal c => m.allow? (.single c)
  | .set s => some s
  | .anchor _ => none

/-- The set of a range between two items. -/
def Escaped.upTo? (m : Modes) : Escaped → Escaped → Option CharSet
  | .literal a, .literal b => if a ≤ b then m.allow? (.range a b) else none
  | _, _ => none

/-- A character, a range or a set inside a class. A hyphen before a bracket or another hyphen
stands for no range. -/
def classRange? (m : Modes) (cs : List Char) : Option (CharSet × List Char) := do
  let (first, cs) ← classItem? m cs
  match m.skip cs with
  | [] => none
  | '-' :: rest =>
    let next := m.peek? rest
    if next = some ']' || next = some '-' then return (← first.alone? m, '-' :: rest)
    else
      let (last, rest) ← classItem? m (m.skip rest)
      return (← first.upTo? m last, rest)
  | rest => return (← first.alone? m, rest)

/-! ### Classes -/

/-- The rest of a class, with the classes around it; every step takes a character. -/
def classRest? (m : Modes) : Nat → List OpenClass → PatternReader NestedSet
  | 0, _, _ => none
  | _, [], _ => none
  | fuel + 1, o :: around, cs =>
    match m.skip cs with
    | [] => none
    | '[' :: rest =>
      match asciiClass? rest with
      | some ((s, negated), rest) => do
        classRest? m fuel (o.add ⟨← m.finish? negated s, 0⟩ :: around) rest
      | none => do
        let (inner, rest) ← OpenClass.start? m rest
        classRest? m fuel (inner :: o :: around) rest
    | ']' :: rest => do
      let closed ← o.close? m
      match around with
      | [] => some (closed, rest)
      | outer :: around => classRest? m fuel (outer.add closed :: around) rest
    | '&' :: '&' :: rest => classRest? m fuel (o.operate m .inter :: around) rest
    | '-' :: '-' :: rest => classRest? m fuel (o.operate m .diff :: around) rest
    | '~' :: '~' :: rest => classRest? m fuel (o.operate m .symmDiff :: around) rest
    | rest => do
      let (s, rest) ← classRange? m rest
      classRest? m fuel (o.add ⟨s, 0⟩ :: around) rest

/-- A class, after its opening bracket. -/
def class? (m : Modes) (cs : List Char) : Option (NestedSet × List Char) := do
  let (o, rest) ← OpenClass.start? m cs
  classRest? m (rest.length + 1) [o] rest

end SqlGateway.Pattern
