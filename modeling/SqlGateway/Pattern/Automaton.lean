import SqlGateway.Pattern.Shape
import SqlGateway.Pattern.Utf8

/-! The room that the automata of a pattern take. One automaton reads a text
forward and one backward; both work on bytes, and neither may be larger than
ten mebibytes. -/

namespace SqlGateway.Pattern

/-! ### Sizes of states -/

/-- The bytes of a state. -/
def stateSize : Nat := 32

/-- The bytes of a transition of a state that has several. -/
def transitionSize : Nat := 8

/-- The bytes of a way out of a state that reads nothing. -/
def branchSize : Nat := 4

/-- The bytes of a state with `n` transitions. -/
def sparseSize (n : Nat) : Nat := stateSize + transitionSize * n

/-- The bytes of a state with `n` ways out that read nothing. -/
def unionSize (n : Nat) : Nat := stateSize + branchSize * n

/-! ### Sets of characters -/

/-- A state that reads a byte of some ranges and goes on to numbered states. -/
abbrev ByteNode := List (ByteRange × Nat)

/-- The sequences that are not empty by their first ranges, which stand in order. -/
def byFirst : List (List ByteRange) → List (ByteRange × List (List ByteRange))
  | [] => []
  | [] :: ss => byFirst ss
  | (r :: s) :: ss =>
    match byFirst ss with
    | (r', tails) :: groups =>
      if r = r' then (r, s :: tails) :: groups else (r, [s]) :: (r', tails) :: groups
    | [] => [(r, [s])]

/-- The number of a state among numbered ones, to which it is added if it is new. -/
def numberOf (node : ByteNode) (known : List (ByteNode × Nat)) : Nat × List (ByteNode × Nat) :=
  match known.lookup node with
  | some n => (n, known)
  | none => (known.length + 1, (node, known.length + 1) :: known)

/-- The number of the state that reads sequences of at most `depth` ranges. States that read the
same are one, and the end has the number zero. -/
def shareStates : Nat → List (List ByteRange) → List (ByteNode × Nat) →
    Nat × List (ByteNode × Nat)
  | 0, _, known => (0, known)
  | depth + 1, sequences, known =>
    match byFirst sequences with
    | [] => (0, known)
    | groups =>
      let (node, known) := groups.foldl (fun (node, known) (r, tails) =>
        let (n, known) := shareStates depth tails known
        (node ++ [(r, n)], known)) ([], known)
      numberOf node known

/-- The room of a set read forward: states at the end of sequences are shared. -/
def forwardSetSize (s : CharSet) : Nat :=
  let (_, known) := shareStates 5 (byteSequences s) []
  known.foldl (fun n (node, _) => n + sparseSize node.length) stateSize

/-- How many ranges of the first sequence are not at the start of the second. -/
def unshared : List ByteRange → List ByteRange → Nat
  | a :: as, b :: bs => if a = b then unshared as bs else as.length + 1
  | as, _ => as.length

/-- The number of different starts of sequences in order, after a sequence. -/
def startsAfter (before : List ByteRange) : List (List ByteRange) → Nat
  | [] => 0
  | s :: ss => unshared s before + startsAfter s ss

/-- The room of a set read backward: states at the start of sequences are shared. -/
def backwardSetSize (s : CharSet) : Nat :=
  let sequences := byteSequences s
  unionSize sequences.length + stateSize + stateSize * startsAfter [] sequences

/-- The room of a set. -/
def setSize (backward : Bool) (s : CharSet) : Nat :=
  if s.isAscii then stateSize + sparseSize s.ranges.length
  else if backward then backwardSetSize s
  else forwardSetSize s

/-! ### Alternative texts -/

/-- Texts up to the next empty one, and those after it. -/
def cutAtEmpty : List (List Nat) → List (List (List Nat))
  | [] => [[]]
  | [] :: ws => [] :: cutAtEmpty ws
  | w :: ws =>
    match cutAtEmpty ws with
    | chunk :: chunks => (w :: chunk) :: chunks
    | [] => [[w]]

/-- What follows the first bytes of texts, for each first byte. -/
def tailsByFirst (ws : List (List Nat)) : List (List (List Nat)) :=
  let firsts := (ws.filterMap List.head?).eraseDups
  firsts.map fun b => ws.filterMap fun w =>
    match w with
    | c :: tail => if c = b then some tail else none
    | [] => none

/-- The room of a tree that reads texts of at most `depth` bytes. A text that ends parts those
before it from those after it. -/
def treeSize : Nat → List (List Nat) → Nat
  | 0, _ => 0
  | depth + 1, ws =>
    if ws.all List.isEmpty then 0
    else
      let chunks := cutAtEmpty ws
      let filled := (chunks.filter (!·.isEmpty)).map tailsByFirst
      filled.foldl (fun n tails =>
        tails.foldl (fun n ws => n + treeSize depth ws) <|
          n + if tails.length = 1 then stateSize else sparseSize tails.length)
        (unionSize (filled.length + (chunks.length - 1)))

/-- The text of a shape that is one. -/
def Shape.text? : Shape → Option (List Char)
  | .text cs => some cs
  | _ => none

/-- The room of alternative texts. -/
def textsSize (backward : Bool) (texts : List (List Char)) : Nat :=
  let words := texts.map fun cs => if backward then (bytesOf cs).reverse else bytesOf cs
  stateSize + treeSize (words.foldl (fun n w => max n w.length) 0 + 1) words

/-! ### Patterns -/

/-- The room of `size` repeated. -/
def repeatedSize (consumes : Bool) (size least : Nat) : Option Nat → Nat
  | none =>
    if least = 0 then
      if consumes then size + unionSize 2 else size + 2 * unionSize 2 + stateSize
    else least * size + unionSize 2
  | some most =>
    if least = 0 && most = 1 then size + unionSize 2 + stateSize
    else if least = most then least * size
    else
      (if least = 0 then stateSize else least * size) + stateSize
        + (most - least) * (size + unionSize 2)

namespace Shape

mutual

/-- The room of a shape. -/
def size (backward : Bool) : Shape → Nat
  | .empty | .anchor _ => stateSize
  | .text cs => stateSize * (bytesOf cs).length
  | .chars set => setSize backward set
  | .group s => s.size backward + if backward then 0 else 2 * stateSize
  | .repeated s least most => repeatedSize s.consumes (s.size backward) least most
  | .seq ss => sizes backward ss
  | .alt ss =>
    match ss.mapM text? with
    | some texts => textsSize backward texts
    | none => sizes backward ss + unionSize ss.length + stateSize

/-- The room of shapes one after another. -/
def sizes (backward : Bool) : List Shape → Nat
  | [] => 0
  | s :: ss => s.size backward + sizes backward ss

end

/-- The room of what skips to the start of a match. -/
def skipSize (anchored : Bool) : Nat :=
  if anchored then stateSize else unionSize 2 + stateSize + sparseSize 1

/-- The room of the automaton that reads forward. -/
def forwardSize (s : Shape) : Nat :=
  skipSize (s.startsAt .textStart) + 2 * stateSize + s.size false + stateSize

/-- The room of the automaton that reads backward. -/
def backwardSize (s : Shape) : Nat :=
  skipSize (s.endsAt .textEnd) + s.size true + stateSize

end Shape

/-- The most room that an automaton may take. -/
def sizeLimit : Nat := 10 * 1024 * 1024

/-- Whether the automata of a pattern take no more room than they may. -/
def fits (p : Pattern) : Bool :=
  let s := p.shape
  s.forwardSize ≤ sizeLimit && s.backwardSize ≤ sizeLimit

end SqlGateway.Pattern
