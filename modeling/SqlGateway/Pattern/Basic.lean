import SqlGateway.Character.Property

/-! Search patterns and where they match. A pattern takes a set of positions of
a text to the set of positions at which its matches from there end; repetition
adds positions until nothing is new. -/

namespace SqlGateway

/-- A place relative to words. The half places look to one side only. -/
inductive WordPlace where
  | boundary | inside | start | finish | startHalf | finishHalf
  deriving DecidableEq, Repr

/-- A condition on a position. -/
inductive Anchor where
  | textStart | textEnd | lineStart | lineEnd
  /-- Starts and ends of lines that may end in a carriage return as well. -/
  | returnLineStart | returnLineEnd
  /-- A place relative to words of certain characters. -/
  | word (place : WordPlace) (ascii : Bool)
  deriving DecidableEq, Repr

/-- A search pattern. -/
inductive Pattern where
  | empty
  | chars (set : CharSet)
  | anchor (a : Anchor)
  | seq (p q : Pattern)
  | alt (p q : Pattern)
  /-- A group that is told apart from other groups. -/
  | group (p : Pattern)
  /-- At least `least` and at most `most` matches in a row. -/
  | repeated (p : Pattern) (least : Nat) (most : Option Nat)
  deriving Inhabited

/-- The ASCII characters of words. -/
def CharSet.asciiWordChars : CharSet := .ofTable ["30-39 41-5A 5F 61-7A"]

/-- Whether a place is between a character of a word or none before it and one after it. -/
def WordPlace.holds (before after : Bool) : WordPlace → Bool
  | .boundary => before != after
  | .inside => before == after
  | .start => !before && after
  | .finish => before && !after
  | .startHalf => !before
  | .finishHalf => !after

namespace Pattern

/-- A text to search. -/
abbrev Text := Array Char

/-- The characters that words consist of. -/
def wordSet (ascii : Bool) : CharSet := if ascii then .asciiWordChars else .wordChars

/-- Whether the character at a position belongs to a word. -/
def wordAt (ascii : Bool) (t : Text) (i : Nat) : Bool := t[i]?.any (wordSet ascii).has

/-- Whether the character before a position belongs to a word. -/
def wordBefore (ascii : Bool) (t : Text) (i : Nat) : Bool := i != 0 && wordAt ascii t (i - 1)

/-- Whether the character before a position is `c`. -/
def follows (t : Text) (i : Nat) (c : Char) : Bool := i != 0 && t[i - 1]? == some c

/-- Whether a position satisfies a condition. -/
def holdsAt (t : Text) (i : Nat) : Anchor → Bool
  | .textStart => i == 0
  | .textEnd => i == t.size
  | .lineStart => i == 0 || follows t i '\n'
  | .lineEnd => i == t.size || t[i]? == some '\n'
  | .returnLineStart =>
    i == 0 || follows t i '\n' || (follows t i '\r' && t[i]? != some '\n')
  | .returnLineEnd =>
    i == t.size || t[i]? == some '\r' || (t[i]? == some '\n' && !follows t i '\r')
  | .word place ascii => place.holds (wordBefore ascii t i) (wordAt ascii t i)

/-! ### Sets of positions -/

/-- The positions of two lists, those of both once. -/
def unionPositions (s t : List Nat) : List Nat := s ++ t.filter (!s.contains ·)

/-- Applies a step `n` times. Once it changes nothing, neither do the further ones. -/
def iterate (step : List Nat → List Nat) : Nat → List Nat → List Nat
  | 0, s => s
  | n + 1, s =>
    let next := step s
    if next == s then s else iterate step n next

/-- The positions seen so far and those that at most `n` steps reach from the newest of them. -/
def reach (step : List Nat → List Nat) : Nat → List Nat → List Nat → List Nat
  | 0, _, seen => seen
  | n + 1, newest, seen =>
    let new := (step newest).filter (!seen.contains ·)
    if new.isEmpty then seen else reach step n new (seen ++ new)

/-- The ends of the matches that start at the positions of a set. -/
def ends (t : Text) : Pattern → List Nat → List Nat
  | .empty, s => s
  | .chars set, s => (s.filter fun i => t[i]?.any set.has).map (· + 1)
  | .anchor a, s => s.filter fun i => holdsAt t i a
  | .seq p q, s => ends t q (ends t p s)
  | .alt p q, s => unionPositions (ends t p s) (ends t q s)
  | .group p, s => ends t p s
  | .repeated p least most, s =>
    let start := iterate (ends t p) least s
    let more := match most with
      | some m => min (m - least) (t.size + 1)
      | none => t.size + 1
    reach (ends t p) more start start

/-- Whether a pattern matches somewhere in a text. -/
def isIn (p : Pattern) (s : String) : Bool :=
  let t := s.toList.toArray
  !(ends t p (List.range (t.size + 1))).isEmpty

end Pattern

end SqlGateway
