import SqlGateway.Filter.Lowering
import SqlGateway.Plan.Definition
import SqlGateway.Plan.Select
import SqlGateway.Plan.Write

/-! The plan of a query tree. Planning looks at nothing but the tree; the
identifier of an inserted document is given to it. It comes to an end unless it
lowers a predicate list whose filter is never found; a statement that is refused
before that is refused. -/

namespace SqlGateway.Plan

/-- The plan of a statement. -/
def ofStatement [Host] (id : ObjectId) : Statement → Except GatewayError Plan
  | .select s => ofSelect s
  | .insert collection autoIncrement values => .ok (ofInsert id collection autoIncrement values)
  | .update collection values wheres => ofUpdate collection values wheres
  | .delete collection wheres => ofDelete collection wheres
  | .create collection columns => .ok (ofCreate collection columns)
  | .alter collection actions => ofAlter collection actions
  | .drop collection => .ok (ofDrop collection)
  | .truncate collection => .ok (ofTruncate collection)

/-- The plan of a tree, which must hold one statement for the document store. -/
def ofTree [Host] (id : ObjectId) (t : QueryTree) : Except GatewayError Plan :=
  if t.target ≠ .document then .error (.invalidGateway t.target.name)
  else match t.statements with
  | [s] => ofStatement id s
  | ss =>
    .error <| .unsupportedStatement <|
      "expected exactly one statement, got " ++ String.ofList (digitsOf ss.length)

end SqlGateway.Plan

/-! ### Whether planning comes back -/

namespace SqlGateway

variable [Host]

namespace Plan

/-- The predicates of a SELECT with the names of their columns, when nothing refuses the statement
before they are lowered. -/
def loweredPredicates (s : Select) : Except GatewayError (Naming × List Predicate) := do
  let join ← singleJoin s
  let names := Naming.ofJoin join
  match ← strategyOf names join s with
  | .grouping =>
    discard (groupKey names s.groupBy)
    discard (accumulators names s.columns)
    discard (projectionOf names s.columns)
    return (names, s.wheres ++ s.having)
  | _ => return (names, s.wheres)

/-- Whether the planning of a SELECT comes back. -/
def selectComesBack (s : Select) : Bool :=
  match loweredPredicates s with
  | .ok (names, ps) => Filter.comesBack names ps
  | .error _ => true

end Plan

/-- Whether the planning of a statement comes back. -/
def Statement.planComesBack : Statement → Bool
  | .select s => Plan.selectComesBack s
  | .update _ values wheres => values.isEmpty || Filter.comesBack .plain wheres
  | .delete _ wheres => Filter.comesBack .plain wheres
  | _ => true

/-- Whether the planning of a tree comes back. -/
def QueryTree.planComesBack (t : QueryTree) : Bool :=
  match t.target, t.statements with
  | .document, [s] => s.planComesBack
  | _, _ => true

end SqlGateway
