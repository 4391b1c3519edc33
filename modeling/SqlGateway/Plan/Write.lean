import SqlGateway.Filter.Lowering
import SqlGateway.Plan.Basic
import SqlGateway.Naming

/-! Plans of INSERT, UPDATE, DELETE and TRUNCATE. -/

namespace SqlGateway.Plan

variable [Host]

/-- Columns with the values to store in them. -/
def storedValues (values : Assignments) : Document :=
  Fields.ofList (values.map fun (column, l) => (column, l.toValue))

/-- The document of an INSERT: its identifier, the place of the counted column, and the other
columns. -/
def insertedDocument (id : ObjectId) (autoIncrement : Option String) (values : Assignments) :
    Document :=
  let start : Document := [(idField, .objectId id)]
  let counted := match autoIncrement with
    | some column => start.set column Value.null
    | none => start
  counted.setAll <|
    (values.filter fun (column, _) => autoIncrement ≠ some column).map
      fun (column, l) => (column, Literal.toValue l)

/-- The plan of an INSERT. -/
def ofInsert (id : ObjectId) (collection : String) (autoIncrement : Option String)
    (values : Assignments) : Plan where
  statement := "insert"
  shape := .insert
  commands :=
    [((Command.of .insert collection).withField "documents"
      (.array [.document (insertedDocument id autoIncrement values)])).withField
        "ordered" (.bool true)]
  autoIncrement := autoIncrement.map (⟨collection, ·⟩)

/-- The plan of an UPDATE. -/
def ofUpdate (collection : String) (values : Assignments) (wheres : List Predicate) :
    Except GatewayError Plan := do
  if values.isEmpty then
    throw (.unsupportedStatement ("UPDATE of '" ++ collection ++ "' assigns no columns"))
  let filter ← Filter.ofPredicates? .plain wheres
  return {
    statement := "update"
    shape := .update
    commands :=
      [.updateMany collection (filter.getD []) [("$set", .document (storedValues values))]] }

/-- The plan of a DELETE; it must have a filter. -/
def ofDelete (collection : String) (wheres : List Predicate) : Except GatewayError Plan := do
  let filter := (← Filter.ofPredicates? .plain wheres).getD []
  if filter.isEmpty then
    throw <| .unsupportedFilter <|
      "DELETE from '" ++ collection
        ++ "' without a filter; use TRUNCATE to empty a collection"
  return { statement := "delete", shape := .delete, commands := [.deleteMany collection filter] }

/-- The plan of a TRUNCATE. -/
def ofTruncate (collection : String) : Plan where
  statement := "truncate"
  shape := .delete
  commands := [.deleteMany collection []]

end SqlGateway.Plan
