import SqlGateway.Pattern.Basic

/-! The shape of a pattern, from which an automaton is built: sequences and
alternatives are flat, neighbouring characters are one text, and what has one
meaning has one form. -/

namespace SqlGateway.Pattern

/-- The shape of a pattern. -/
inductive Shape where
  | empty
  | text (cs : List Char)
  | chars (set : CharSet)
  | anchor (a : Anchor)
  | group (s : Shape)
  | repeated (s : Shape) (least : Nat) (most : Option Nat)
  | seq (parts : List Shape)
  | alt (branches : List Shape)
  deriving Inhabited

namespace Shape

/-! ### Properties -/

mutual

/-- Whether two shapes are the same. Groups are told apart, so that no two are the same. -/
def same : Shape → Shape → Bool
  | .empty, .empty => true
  | .text a, .text b => a == b
  | .chars a, .chars b => a == b
  | .anchor a, .anchor b => a == b
  | .repeated a l m, .repeated b l' m' => l == l' && m == m' && a.same b
  | .seq as, .seq bs | .alt as, .alt bs => allSame as bs
  | _, _ => false

/-- Whether the shapes of two lists are the same one by one. -/
def allSame : List Shape → List Shape → Bool
  | [], [] => true
  | a :: as, b :: bs => a.same b && allSame as bs
  | _, _ => false

end

mutual

/-- Whether a shape matches nothing but the empty text. -/
def isEmptyOnly : Shape → Bool
  | .empty | .anchor _ => true
  | .text _ | .chars _ => false
  | .group s | .repeated s _ _ => s.isEmptyOnly
  | .seq ss | .alt ss => areEmptyOnly ss

/-- Whether all shapes match nothing but the empty text. -/
def areEmptyOnly : List Shape → Bool
  | [] => true
  | s :: ss => s.isEmptyOnly && areEmptyOnly ss

end

mutual

/-- Whether a shape never matches the empty text. -/
def consumes : Shape → Bool
  | .empty | .anchor _ => false
  | .text _ => true
  | .chars set => set != .empty
  | .group s => s.consumes
  | .repeated s least _ => 0 < least && s.consumes
  | .seq ss => someConsumes ss
  | .alt ss => allConsume ss

/-- Whether one of the shapes never matches the empty text. -/
def someConsumes : List Shape → Bool
  | [] => false
  | s :: ss => s.consumes || someConsumes ss

/-- Whether none of the shapes matches the empty text. -/
def allConsume : List Shape → Bool
  | [] => true
  | s :: ss => s.consumes && allConsume ss

end

mutual

/-- Whether every match of a shape starts where an anchor holds. -/
def startsAt (a : Anchor) : Shape → Bool
  | .anchor b => a == b
  | .group s => s.startsAt a
  | .repeated s least _ => 0 < least && s.startsAt a
  | .seq ss => sequenceStartsAt a ss
  | .alt ss => allStartAt a ss
  | .empty | .text _ | .chars _ => false

/-- Whether every match of a sequence starts where an anchor holds. -/
def sequenceStartsAt (a : Anchor) : List Shape → Bool
  | [] => false
  | s :: ss => s.startsAt a || (s.isEmptyOnly && sequenceStartsAt a ss)

/-- Whether every match of every shape starts where an anchor holds. -/
def allStartAt (a : Anchor) : List Shape → Bool
  | [] => true
  | s :: ss => s.startsAt a && allStartAt a ss

end

mutual

/-- Whether every match of a shape ends where an anchor holds. -/
def endsAt (a : Anchor) : Shape → Bool
  | .anchor b => a == b
  | .group s => s.endsAt a
  | .repeated s least _ => 0 < least && s.endsAt a
  | .seq ss => sequenceEndsAt a ss
  | .alt ss => allEndAt a ss
  | .empty | .text _ | .chars _ => false

/-- Whether every match of a sequence ends where an anchor holds. -/
def sequenceEndsAt (a : Anchor) : List Shape → Bool
  | [] => false
  | s :: ss => sequenceEndsAt a ss || (areEmptyOnly ss && s.endsAt a)

/-- Whether every match of every shape ends where an anchor holds. -/
def allEndAt (a : Anchor) : List Shape → Bool
  | [] => true
  | s :: ss => s.endsAt a && allEndAt a ss

end

/-! ### Building -/

/-- The shape of a set: a text if it holds a single character. -/
def ofSet (set : CharSet) : Shape :=
  match set.single? with
  | some c => .text [c]
  | none => .chars set

/-- The parts of a sequence. -/
def parts : Shape → List Shape
  | .empty => []
  | .seq ss => ss
  | s => [s]

/-- Joins two sequences; texts that meet become one. -/
def joinParts : List Shape → List Shape → List Shape
  | [], right => right
  | [.text a], .text b :: right => .text (a ++ b) :: right
  | s :: left, right => s :: joinParts left right

/-- The shape of parts in sequence. -/
def ofParts : List Shape → Shape
  | [] => .empty
  | [s] => s
  | ss => .seq ss

/-- One shape after another. -/
def append (s t : Shape) : Shape := ofParts (joinParts s.parts t.parts)

/-- The branches of alternatives. -/
def branches : Shape → List Shape
  | .alt ss => ss
  | s => [s]

/-- The character of a text that has only one. -/
def char? : Shape → Option Char
  | .text [c] => some c
  | _ => none

/-- The set of a shape that is one. -/
def set? : Shape → Option CharSet
  | .chars set => some set
  | _ => none

/-- The set that alternatives amount to, if all are single characters or all are sets. -/
def commonSet? (ss : List Shape) : Option CharSet :=
  (ss.mapM fun s => s.char?.map CharSet.single) <|> ss.mapM set? |>.map CharSet.unions

/-- The parts of a shape that is a sequence. -/
def sequence? : Shape → Option (List Shape)
  | .seq ss => some ss
  | _ => none

/-- How many parts two sequences have in common at their starts. -/
def commonLength : List Shape → List Shape → Nat
  | a :: as, b :: bs => if a.same b then commonLength as bs + 1 else 0
  | _, _ => 0

/-- The shape of alternatives. What sequences have in common at their starts comes before what is
left of them; at most `fuel` times. -/
def ofBranches : Nat → List Shape → Shape
  | _, [s] => s
  | fuel, ss =>
    match commonSet? ss with
    | some set => ofSet set
    | none =>
      match fuel, ss.mapM sequence? with
      | fuel + 1, some (first :: rest) =>
        let n := rest.foldl (fun n other => min n (commonLength first other)) first.length
        if n = 0 then .alt ss
        else
          let tails := (first :: rest).map fun ps => ofParts (ps.drop n)
          append (ofParts (first.take n)) (ofBranches fuel (tails.flatMap branches))
      | _, _ => .alt ss

/-- The greatest number of parts of alternatives. -/
def longest (ss : List Shape) : Nat := ss.foldl (fun n s => max n s.parts.length) 0

/-- A shape repeated. One that is always empty is repeated at most once. -/
def repeat_ (s : Shape) (least : Nat) (most : Option Nat) : Shape :=
  let (least, most) :=
    if s.isEmptyOnly then (min least 1, some (min (most.getD 1) 1)) else (least, most)
  if most = some 0 then .empty
  else if least = 1 && most = some 1 then s
  else .repeated s least most

end Shape

mutual

/-- The shape of a pattern. -/
def shape : Pattern → Shape
  | .empty => .empty
  | .chars set => .ofSet set
  | .anchor a => .anchor a
  | .seq p q => p.shape.append q.shape
  | .alt p q =>
    let ss := p.shape.branches ++ q.branchShapes
    .ofBranches (Shape.longest ss + 1) ss
  | .group p => .group p.shape
  | .repeated p least most => p.shape.repeat_ least most

/-- The shapes of the branches of a pattern. -/
def branchShapes : Pattern → List Shape
  | .alt p q => p.shape.branches ++ q.branchShapes
  | .empty => Shape.empty.branches
  | .chars set => (Shape.ofSet set).branches
  | .anchor a => [.anchor a]
  | .seq p q => (p.shape.append q.shape).branches
  | .group p => [.group p.shape]
  | .repeated p least most => (p.shape.repeat_ least most).branches

end

end SqlGateway.Pattern
