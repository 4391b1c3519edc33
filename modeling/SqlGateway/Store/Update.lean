import SqlGateway.Error.Store
import SqlGateway.Value.Order
import SqlGateway.Value.Path

/-! Changes of one document: operators on fields, or a new document in its
place. The identifier never changes. -/

namespace SqlGateway.Update

/-- The identifier would change. -/
def immutableIdentity : CommandFailure :=
  ⟨66, "ImmutableField",
    "Performing an update on the path '_id' would modify the immutable field '_id'"⟩

/-- Refuses a path to the identifier or into it. -/
def guardIdentity (path : String) : Except CommandFailure Unit :=
  if path = "_id" || "_id.".toList.isPrefixOf path.toList then .error immutableIdentity else .ok ()

/-- Applies an operator to one field. -/
def applyField (op : String) (d : Document) (path : String) (v : Value) :
    Except CommandFailure Document := do
  guardIdentity path
  match op with
  | "$set" => return d.setPath path v
  | "$unset" => return (d.removePath path).1
  | "$rename" =>
    match v with
    | .string target =>
      guardIdentity target
      match d.removePath path with
      | (rest, some moved) => return rest.setPath target moved
      | (_, none) => return d
    | _ => throw (.badValue "The 'to' field for $rename must be a string")
  | "$inc" =>
    match ((d.getPath? path).getD (.int 0)).add? v with
    | some sum => return d.setPath path sum
    | none =>
      throw <| .typeMismatch <|
        "Cannot apply $inc to a value of non-numeric type at '" ++ path ++ "'"
  | other => throw (.failedToParse ("Unknown modifier: " ++ other))

/-- Applies an operator to its fields, one after another. -/
def applyOperator (d : Document) (op : String) : Value → Except CommandFailure Document
  | .document fields => fields.foldlM (fun d (path, v) => applyField op d path v) d
  | _ =>
    .error <| .failedToParse <|
      "Modifiers operate on fields but we found type " ++ op ++ " instead"

/-- Whether two documents have the same fields in the same order. -/
def sameDocument (a b : Document) : Bool :=
  a.length == b.length && (a.zip b).all fun (x, y) => x.1 == y.1 && x.2.same y.2

/-- Puts a new document in place of another one and keeps the identifier. -/
def replace (d replacement : Document) : Except CommandFailure Document :=
  let rest := replacement.filter (·.1 != "_id")
  match d.get? "_id", replacement.get? "_id" with
  | some id, some new =>
    if id.equal new then .ok (("_id", id) :: rest) else .error immutableIdentity
  | some id, none => .ok (("_id", id) :: rest)
  | none, _ => .ok rest

/-- The changed document and whether it differs. -/
def apply (d change : Document) : Except CommandFailure (Document × Bool) := do
  let next ←
    if change.keys.any fun k => k.toList.head? == some '$' then
      change.foldlM (fun d (op, fields) => applyOperator d op fields) d
    else replace d change
  return (next, !sameDocument d next)

end SqlGateway.Update
