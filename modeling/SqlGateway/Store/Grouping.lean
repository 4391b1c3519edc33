import SqlGateway.Store.Expression
import SqlGateway.Value.Order

/-! Groups of documents that share a key, and the values accumulated over each
group. -/

namespace SqlGateway

/-- A function over the values of a group. -/
inductive AccumulatorKind where
  | sum | avg | min | max | first | last | addToSet | push
  deriving DecidableEq, Repr

/-- The function with a written name. -/
def AccumulatorKind.ofName? : String → Option AccumulatorKind
  | "$sum" => some .sum
  | "$avg" => some .avg
  | "$min" => some .min
  | "$max" => some .max
  | "$first" => some .first
  | "$last" => some .last
  | "$addToSet" => some .addToSet
  | "$push" => some .push
  | _ => none

/-- What has been accumulated so far. -/
inductive Accumulator where
  | sum (total : Value)
  | avg (total : Value) (count : Nat)
  /-- The least or greatest value, by the order that a better one has to it. -/
  | extremum (wanted : Ordering) (current : Option Value)
  | first (value : Option Value)
  | last (value : Value)
  | addToSet (items : List Value)
  | push (items : List Value)

namespace Accumulator

/-- Nothing accumulated yet. -/
def start : AccumulatorKind → Accumulator
  | .sum => .sum (.int 0)
  | .avg => .avg (.int 0) 0
  | .min => .extremum .lt none
  | .max => .extremum .gt none
  | .first => .first none
  | .last => .last .null
  | .addToSet => .addToSet []
  | .push => .push []

/-- Whether a value counts as absent for least and greatest values. -/
def isAbsent : Value → Bool
  | .null | .undefined => true
  | _ => false

/-- Takes in the value of one more document. -/
def accept (a : Accumulator) (v : Option Value) : Accumulator :=
  match a with
  | .sum total => .sum ((v.bind total.add?).getD total)
  | .avg total count =>
    match v.bind total.add? with
    | some next => .avg next (count + 1)
    | none => .avg total count
  | .extremum wanted current =>
    match v with
    | none => a
    | some v =>
      if isAbsent v then a
      else match current with
      | none => .extremum wanted (some v)
      | some c => if v.order c = wanted then .extremum wanted (some v) else a
  | .first none => .first (some (v.getD .null))
  | .first (some w) => .first (some w)
  | .last _ => .last (v.getD .null)
  | .addToSet items =>
    match v with
    | some v => if items.any (·.equal v) then a else .addToSet (items ++ [v])
    | none => a
  | .push items => .push (items ++ [v.getD .null])

/-- The accumulated value. -/
def finish : Accumulator → Value
  | .sum total => total
  | .avg total count => if count = 0 then .null else (total.divide? count).getD .null
  | .extremum _ current => current.getD .null
  | .first v => v.getD .null
  | .last v => v
  | .addToSet items | .push items => .array items

end Accumulator

/-- A field of the result, its function, and the expression it takes in. -/
structure GroupField where
  name : String
  kind : AccumulatorKind
  expression : Value

/-- A key and what has been accumulated for each field. -/
structure Group where
  key : Value
  accumulated : List Accumulator

namespace Group

/-- Reads a field of a group. -/
def readField (name : String) : Value → Except CommandFailure GroupField
  | .document [(op, e)] =>
    match AccumulatorKind.ofName? op with
    | some kind => .ok ⟨name, kind, e⟩
    | none => .error (.invalidPipelineOperator ("unknown group operator '" ++ op ++ "'"))
  | .document _ =>
    .error (.failedToParse ("the field '" ++ name ++ "' must specify one accumulator"))
  | _ => .error (.failedToParse ("the field '" ++ name ++ "' must be an accumulator object"))

/-- A group without documents. -/
def start (fields : List GroupField) (key : Value) : Group :=
  ⟨key, fields.map fun f => .start f.kind⟩

/-- Takes in a document. -/
def accept (fields : List GroupField) (d : Document) (g : Group) :
    Except CommandFailure Group := do
  let vs ← fields.mapM fun f => Expression.evaluate d f.expression
  return ⟨g.key, (g.accumulated.zip vs).map fun (a, v) => a.accept v⟩

/-- Takes a document with a key into the first group with an equal key, or into a new one. -/
def place (fields : List GroupField) (key : Value) (d : Document) :
    List Group → Except CommandFailure (List Group)
  | [] => return [← accept fields d (start fields key)]
  | g :: gs => do
    if g.key.equal key then return (← accept fields d g) :: gs
    else return g :: (← place fields key d gs)

/-- The document of a finished group. -/
def finish (fields : List GroupField) (g : Group) : Document :=
  ("_id", g.key) :: (fields.zip g.accumulated).map fun (f, a) => (f.name, a.finish)

/-- The documents of all groups, in the order in which their keys appear. -/
def collect (docs : List Document) (spec : Document) : Except CommandFailure (List Document) := do
  match spec.get? "_id" with
  | none => throw (.failedToParse "a group specification must include an _id")
  | some key =>
    let fields ← (spec.filter (·.1 != "_id")).mapM fun (name, a) => readField name a
    let groups ← docs.foldlM (fun gs d => do
      place fields ((← Expression.evaluate d key).getD .null) d gs) []
    return groups.map (finish fields)

end Group

end SqlGateway
