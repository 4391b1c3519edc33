import SqlGateway.Character.Folding
import SqlGateway.Pattern.Basic
import SqlGateway.Text.Parts

/-! The modes in which patterns are read, and what the modes make of blanks,
letters and sets. -/

namespace SqlGateway.Pattern

/-- The modes of reading. -/
structure Modes where
  /-- Letters match in either case. -/
  fold : Bool := false
  /-- `^` and `$` match at lines. -/
  lines : Bool := false
  /-- The point matches the end of a line. -/
  dotAll : Bool := false
  /-- Blanks and comments in the pattern mean nothing. -/
  free : Bool := false
  /-- Lines may end in a carriage return as well. -/
  returns : Bool := false
  /-- Sets hold ASCII characters only. -/
  ascii : Bool := false

/-- A reader takes a value off the front of a pattern. -/
abbrev PatternReader (α : Type) := List Char → Option (α × List Char)

/-! ### Blanks and comments -/

/-- Drops blanks and comments, which go from `#` to the end of a line. -/
def dropComments (inComment : Bool) : List Char → List Char
  | [] => []
  | c :: cs =>
    if inComment then dropComments (c != '\n') cs
    else if isBlank c then dropComments false cs
    else if c = '#' then dropComments true cs
    else c :: cs

namespace Modes

/-- Drops what means nothing at the front of a pattern. -/
def skip (m : Modes) (cs : List Char) : List Char := if m.free then dropComments false cs else cs

/-- At most `n` characters of a kind, with what means nothing left out after each, and the rest. -/
def takeSpaced (m : Modes) (kind : Char → Bool) : Nat → List Char → List Char × List Char
  | 0, cs => ([], cs)
  | _ + 1, [] => ([], [])
  | n + 1, c :: cs =>
    if kind c then
      let (taken, rest) := m.takeSpaced kind n (m.skip cs)
      (c :: taken, rest)
    else ([], c :: cs)

/-- The characters of a kind after what means nothing, and the rest. -/
def spanSpaced (m : Modes) (kind : Char → Bool) (cs : List Char) : List Char × List Char :=
  m.takeSpaced kind cs.length (m.skip cs)

/-- The text in braces after the opening one. -/
def braced? (m : Modes) : PatternReader (List Char) := fun cs =>
  match m.spanSpaced (· != '}') cs with
  | (taken, _ :: rest) => some (taken, rest)
  | (_, []) => none

/-- The character that a hyphen in a class stands before; an end of line does not end a comment
here. -/
def peek? (m : Modes) (cs : List Char) : Option Char :=
  if m.free then
    match dropBlanks cs with
    | '#' :: rest => (dropBlanks rest).head?
    | rest => rest.head?
  else cs.head?

/-! ### Sets -/

/-- The set in either case if asked for. -/
def inAnyCase (m : Modes) (s : CharSet) : CharSet :=
  if !m.fold then s else if m.ascii then s.anyAsciiCase else s.anyCase

/-- A set if the modes allow it. -/
def allow? (m : Modes) (s : CharSet) : Option CharSet :=
  if m.ascii && !s.isAscii then none else some s

/-- A set in either case if asked for, and then its complement if asked for. -/
def finish? (m : Modes) (negated : Bool) (s : CharSet) : Option CharSet :=
  m.allow? (.negatedIf negated (m.inAnyCase s))

/-- The digits. -/
def digits (m : Modes) : CharSet := if m.ascii then .ofTable ["30-39"] else .decimalDigits

/-- The blanks. -/
def blanks (m : Modes) : CharSet := if m.ascii then .ofTable ["9-D 20"] else .whiteSpace

/-- The set of the point. -/
def point? (m : Modes) : Option CharSet :=
  if m.ascii then none
  else if m.dotAll then some .all
  else if m.returns then some (CharSet.compl (.ofTable ["A D"]))
  else some (CharSet.compl (.single '\n'))

/-- The condition of `^`. -/
def startAnchor (m : Modes) : Anchor :=
  if !m.lines then .textStart else if m.returns then .returnLineStart else .lineStart

/-- The condition of `$`. -/
def endAnchor (m : Modes) : Anchor :=
  if !m.lines then .textEnd else if m.returns then .returnLineEnd else .lineEnd

/-! ### Switching -/

/-- The modes that option letters ask for; other letters are left out of account. -/
def ofOptions (options : String) : Modes :=
  let has (c : Char) : Bool := options.toList.contains c
  { fold := has 'i', lines := has 'm', dotAll := has 's', free := has 'x' }

/-- Turns the mode of a letter on or off. Repetitions that prefer few matches are told apart by a
letter too, which changes nothing. -/
def set? (m : Modes) (on : Bool) : Char → Option Modes
  | 'i' => some { m with fold := on }
  | 'm' => some { m with lines := on }
  | 's' => some { m with dotAll := on }
  | 'x' => some { m with free := on }
  | 'R' => some { m with returns := on }
  | 'u' => some { m with ascii := !on }
  | 'U' => some m
  | _ => none

/-- Switches modes by their letters, each once; a hyphen turns the letters after it off. -/
def switch? (m : Modes) (on : Bool) (seen : List Char) : PatternReader Modes
  | [] => none
  | c :: cs =>
    if c = ':' || c = ')' then
      if seen.head? = some '-' then none else some (m, c :: cs)
    else if seen.contains c then none
    else if c = '-' then m.switch? false (c :: seen) cs
    else
      match m.set? on c with
      | some m => m.switch? on (c :: seen) cs
      | none => none

end Modes

end SqlGateway.Pattern
