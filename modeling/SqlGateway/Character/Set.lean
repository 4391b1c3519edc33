import SqlGateway.Text.Digits
import SqlGateway.Text.Parts

/-! Sets of characters. A set is held as the code points at which membership
changes, in ascending order, so that a character is in it if an odd number of
them are at or below it. -/

namespace SqlGateway

/-- A set of characters, as the code points at which membership changes. -/
structure CharSet where
  edges : List Nat
  deriving DecidableEq, Inhabited, Repr

namespace CharSet

/-- Whether a code point is in a set, if that below the first edge is `inside`. -/
def hasFrom (inside : Bool) (n : Nat) : List Nat → Bool
  | [] => inside
  | e :: es => if n < e then inside else hasFrom (!inside) n es

/-- Whether a code point is in a set. -/
def hasCode (s : CharSet) (n : Nat) : Bool := hasFrom false n s.edges

/-- Whether a character is in a set. -/
def has (s : CharSet) (c : Char) : Bool := s.hasCode c.toNat

/-! ### Operations -/

/-- The empty set. -/
def empty : CharSet := ⟨[]⟩

/-- All characters. Surrogate code points are none. -/
def all : CharSet := ⟨[0, 0xD800, 0xE000, 0x110000]⟩

/-- An edge at `n` if membership changes there. -/
def edgeAt (n : Nat) (before after : Bool) : List Nat := if before == after then [] else [n]

/-- The edges of the set whose membership is `f` of the membership in two sets; `a` and `b` tell it
below the first edges. -/
def mergeEdges (f : Bool → Bool → Bool) (a b : Bool) : List Nat → List Nat → List Nat
  | [], [] => []
  | x :: xs, [] => edgeAt x (f a b) (f (!a) b) ++ mergeEdges f (!a) b xs []
  | [], y :: ys => edgeAt y (f a b) (f a (!b)) ++ mergeEdges f a (!b) [] ys
  | x :: xs, y :: ys =>
    if x < y then edgeAt x (f a b) (f (!a) b) ++ mergeEdges f (!a) b xs (y :: ys)
    else if y < x then edgeAt y (f a b) (f a (!b)) ++ mergeEdges f a (!b) (x :: xs) ys
    else edgeAt x (f a b) (f (!a) (!b)) ++ mergeEdges f (!a) (!b) xs ys
termination_by xs ys => xs.length + ys.length

/-- Combines two sets; `f` tells membership in the result and is false outside of both. -/
def combine (f : Bool → Bool → Bool) (s t : CharSet) : CharSet :=
  ⟨mergeEdges f false false s.edges t.edges⟩

/-- The characters of either set. -/
def union (s t : CharSet) : CharSet := combine (· || ·) s t

/-- The characters of both sets. -/
def inter (s t : CharSet) : CharSet := combine (· && ·) s t

/-- The characters of the first set only. -/
def diff (s t : CharSet) : CharSet := combine (fun a b => a && !b) s t

/-- The characters of one set only. -/
def symmDiff (s t : CharSet) : CharSet := combine (· != ·) s t

/-- The characters that are not in a set. -/
def compl (s : CharSet) : CharSet := all.diff s

/-- The characters of some sets. -/
def unions (sets : List CharSet) : CharSet := sets.foldl union empty

/-- The complement if asked for. -/
def negatedIf (negated : Bool) (s : CharSet) : CharSet := if negated then s.compl else s

/-! ### Ranges -/

/-- The characters between two characters, both included. -/
def range (first last : Char) : CharSet := all.inter ⟨[first.toNat, last.toNat + 1]⟩

/-- The set of one character. -/
def single (c : Char) : CharSet := ⟨[c.toNat, c.toNat + 1]⟩

/-- The ASCII characters. -/
def ascii : CharSet := ⟨[0, 0x80]⟩

/-- Whether all characters of a set are ASCII. -/
def isAscii (s : CharSet) : Bool := s.edges.all (· ≤ 0x80)

/-- The ranges between edges, both ends included. -/
def rangesOf : List Nat → List (Nat × Nat)
  | a :: b :: es => (a, b - 1) :: rangesOf es
  | _ => []

/-- The ranges of a set. -/
def ranges (s : CharSet) : List (Nat × Nat) := rangesOf s.edges

/-- The only character of a set. -/
def single? (s : CharSet) : Option Char :=
  match s.edges with
  | [a, b] => if b = a + 1 then some (Char.ofNat a) else none
  | _ => none

/-- The edges around ascending code points, after a range that ends before `next`. -/
def edgesAround (next : Nat) : List Nat → List Nat
  | [] => [next]
  | n :: ns =>
    if n < next then edgesAround next ns
    else if n = next then edgesAround (n + 1) ns
    else next :: n :: edgesAround (n + 1) ns

/-- The set of some code points. -/
def ofCodes (ns : List Nat) : CharSet :=
  match ns.mergeSort with
  | [] => empty
  | n :: ns => ⟨n :: edgesAround (n + 1) ns⟩

/-! ### Tables -/

/-- The code point in hexadecimal digits. -/
def codeOf (ds : List Char) : Nat := (ofHex? ds).getD 0

/-- Every `step`th code point from `first` to `last`. -/
structure Run where
  first : Nat
  last : Nat
  step : Nat

namespace Run

/-- Reads a run: `A`, `A-B`, or `A-B/2` for every second code point. -/
def ofWord (word : List Char) : Run :=
  match word.span (· != '-') with
  | (first, []) => ⟨codeOf first, codeOf first, 1⟩
  | (first, _ :: rest) =>
    match rest.span (· != '/') with
    | (last, []) => ⟨codeOf first, codeOf last, 1⟩
    | (last, _ :: step) => ⟨codeOf first, codeOf last, codeOf step⟩

/-- The code points of a run. -/
def codes (r : Run) : List Nat := List.range' r.first ((r.last - r.first) / r.step + 1) r.step

/-- The edges of a run. -/
def edges (r : Run) : List Nat :=
  if r.step = 1 then [r.first, r.last + 1] else r.codes.flatMap fun n => [n, n + 1]

end Run

/-- The words of lines, with blanks between them. -/
def wordsOf (lines : List String) : List (List Char) :=
  lines.flatMap fun line => partsAt ' ' line.toList

/-- The set of ascending runs that do not touch each other. -/
def ofTable (lines : List String) : CharSet :=
  ⟨(wordsOf lines).flatMap fun word => (Run.ofWord word).edges⟩

end CharSet

end SqlGateway
