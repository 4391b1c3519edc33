import SqlGateway.Error.Gateway
import SqlGateway.Query.Statement

/-! The names of fields in the store: an aggregate is found under its function
and column, a joined column inside the document that the join adds. Under these
names results are chosen, named, ordered and cut. -/

namespace SqlGateway

/-- The field that holds a joined document. -/
def joinPrefix (collection : String) : String := "join_" ++ collection

/-- The field that holds an aggregate. -/
def aggregatedName (f : Aggregation) (column : String) : String := f.name ++ "_" ++ column

/-- The column behind the name of an aggregate; any other name is left as it is. -/
def stripAggregation (name : String) : String :=
  let rest? (f : Aggregation) : Option (List Char) :=
    let head := (f.name ++ "_").toList
    let rest := name.toList.drop head.length
    if head.isPrefixOf name.toList && !rest.isEmpty then some rest else none
  match Aggregation.all.findSome? rest? with
  | some rest => String.ofList rest
  | none => name

/-- How the columns of a statement are named: with the collection it joins, if any. -/
structure Naming where
  joined : Option String

namespace Naming

/-- The names in a statement without a join. -/
def plain : Naming := ⟨none⟩

/-- The names in a statement with at most one join. -/
def ofJoin (j : Option Join) : Naming := ⟨j.map (·.collection)⟩

/-- The field that holds the joined document. -/
def joinPrefix (n : Naming) : Except GatewayError String :=
  match n.joined with
  | some collection => .ok (SqlGateway.joinPrefix collection)
  | none => .error (.unsupportedJoin "join-sourced column without a join")

/-- The field of a column. -/
def field (n : Naming) (c : Column) : Except GatewayError String :=
  match c.aggregation, c.joinSourced with
  | some _, true =>
    .error <| .unsupportedAggregation <|
      "column '" ++ c.name ++ "' cannot be both aggregated and join-sourced"
  | some f, false => .ok (aggregatedName f c.name)
  | none, true => return (← n.joinPrefix) ++ "." ++ c.name
  | none, false => .ok c.name

/-- The name of a column in the result: its alias, if it has one, and else its field. A column that
has no field has no output name either. -/
def output (n : Naming) (c : Column) : Except GatewayError String := do
  let field ← n.field c
  return c.asName.getD field

end Naming

/-! ### Projections, orders and windows -/

/-- The field that identifies a document. -/
def idField : String := "_id"

/-- The expression that reads a column: a path, or the size of the set that a count collected. -/
def columnExpression (names : Naming) (c : Column) : Except GatewayError Value := do
  let source := Value.string ("$" ++ (← names.field c))
  match c.aggregation with
  | some .count => return .document [("$size", source)]
  | _ => return source

/-- The output name and expression of every column but wildcards; the identifier is left out. -/
def projectionOf (names : Naming) (columns : List Column) : Except GatewayError Document := do
  let fields ← (columns.filter (!·.isWildcard)).mapM fun c => do
    return (← names.output c, ← columnExpression names c)
  return (Fields.ofList fields).set idField (.int 0)

/-- The directions of the fields of an ORDER BY. -/
def sortOf (names : Naming) (terms : List OrderTerm) : Except GatewayError Document := do
  let fields ← terms.mapM fun t => do
    return (← names.field t.column, Value.int (if t.ascending then 1 else -1))
  return Fields.ofList fields

/-- How many results are left out and how many are kept. -/
structure Window where
  skip : Int64
  limit : Int64

/-- The greatest long that is not above an unsigned number. -/
def saturate (n : UInt64) : Int64 :=
  if n.toNat ≤ Int64.maxValue.toInt then n.toInt64 else Int64.maxValue

/-- The window of a limit; a limit of no rows is no limit. -/
def Window.ofLimit? (l : Option Limit) : Option Window := do
  let l ← l
  if l.count = 0 then none else some ⟨saturate l.offset, saturate l.count⟩

end SqlGateway
