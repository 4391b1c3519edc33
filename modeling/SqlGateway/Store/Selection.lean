import SqlGateway.Number.Shortest
import SqlGateway.Store.Expression
import SqlGateway.Value.Order

/-! Choosing fields of documents and putting documents in order. -/

namespace SqlGateway

/-- Whether a value keeps or drops a field of a projection; any other value is an expression. -/
def Value.flag? : Value → Option Bool
  | .bool b => some b
  | .int n => some (n != 0)
  | .long n => some (n != 0)
  | .double x => some (x.toFloat != 0.0)
  | _ => none

/-- Whether a value drops a field. -/
def Value.isDropped (v : Value) : Bool := v.flag? == some false

namespace Document

/-! ### Projection -/

/-- Whether a projection only drops fields. -/
def isExclusion (spec : Document) : Bool :=
  (spec.filter (·.1 != "_id")).all (·.2.isDropped)

/-- Takes one entry of a projection that keeps fields into the result. -/
def projectField (d : Document) (result : Document) (key : String) (v : Value) :
    Except CommandFailure Document :=
  if key = "_id" && v.flag?.isSome then .ok result
  else match v.flag? with
  | some true => match d.getPath? key with
    | some found => .ok (result.setPath key found)
    | none => .ok result
  | some false =>
    .error ⟨31254, "Location31254",
      "Cannot do exclusion on field " ++ key ++ " in inclusion projection"⟩
  | none => do
    match ← Expression.evaluate d v with
    | some computed => return result.setPath key computed
    | none => return result

/-- The identifier, unless the projection drops it. -/
def keptIdentity (d spec : Document) : Document :=
  if ((spec.get? "_id").map (·.isDropped)).getD false then []
  else match d.get? "_id" with
    | some id => [("_id", id)]
    | none => []

/-- The chosen fields of a document. -/
def project (d spec : Document) : Except CommandFailure Document :=
  if spec.isExclusion then
    .ok ((spec.filter (·.2.isDropped)).foldl (fun r (key, _) => (r.removePath key).1) d)
  else
    spec.foldlM (fun r (key, v) => projectField d r key v) (d.keptIdentity spec)

/-! ### Order -/

/-- The fields of an order, each with whether it descends. -/
abbrev SortKeys := List (String × Bool)

/-- Whether a direction descends. -/
def descends? (v : Value) : Option Bool :=
  let direction : Option Int := match v with
    | .int n => some n.toInt
    | .long n => some n.toInt
    | .double x => some (wholeOfDouble x.toFloat)
    | _ => none
  match direction with
  | some 1 => some false
  | some (-1) => some true
  | _ => none

/-- Reads the fields of an order. -/
def sortKeys (spec : Document) : Except CommandFailure SortKeys :=
  spec.mapM fun (field, v) =>
    match descends? v with
    | some descending => .ok (field, descending)
    | none =>
      .error <| .badValue <|
        "$sort key ordering must be 1 (for ascending) or -1 (for descending): " ++ field

/-- The order of two documents by fields; a missing field counts as null. -/
def orderBy : SortKeys → Document → Document → Ordering
  | [], _, _ => .eq
  | (field, descending) :: keys, a, b =>
    let o := ((a.getPath? field).getD .null).order ((b.getPath? field).getD .null)
    (if descending then o.swap else o).then (orderBy keys a b)

/-- Puts a document into a run that stands in reverse order, after those that come behind it. -/
def insertReversed (keys : SortKeys) (d : Document) : List Document → List Document
  | [] => [d]
  | e :: es =>
    if orderBy keys d e = .lt then e :: insertReversed keys d es else d :: e :: es

/-- Puts documents in order; equal ones stay as they are. For more than twenty documents this holds
only if they are compared transitively, as `sortComesBack` has it. -/
def sort (docs : List Document) (spec : Document) : Except CommandFailure (List Document) := do
  let keys ← sortKeys spec
  return (docs.foldl (fun run d => insertReversed keys d run) []).reverse

end Document

end SqlGateway
