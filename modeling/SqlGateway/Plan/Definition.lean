import SqlGateway.Error.Gateway
import SqlGateway.Plan.Basic
import SqlGateway.Query.Statement

/-! Plans of CREATE, ALTER and DROP. Primary keys and unique columns are backed
by unique indexes on one field; other constraints need nothing of the store. -/

namespace SqlGateway

/-- The name of the index that backs a column. -/
def indexName (collection column : String) : String := collection ++ "_" ++ column ++ "_puk"

namespace Plan

/-- The names of the columns that are backed by an index. -/
def indexedNames (columns : List ColumnDef) : List String :=
  (columns.filter (·.isIndexed)).map (·.name)

/-- The column of a constraint that is backed by an index. -/
def constrainedNames (c : ConstraintDef) : List String :=
  if c.kind.isIndexed then [c.column] else []

/-- The index that backs a column. -/
def indexSpec (collection column : String) : Document :=
  [("key", .document [(column, .int 1)]), ("name", .string (indexName collection column)),
    ("unique", .bool true)]

/-- The command that backs columns, if there are any. -/
def createIndexes (collection : String) (columns : List String) : List Command :=
  if columns.isEmpty then []
  else
    [(Command.of .createIndexes collection).withField "indexes"
      (.array (columns.map fun c => .document (indexSpec collection c)))]

/-- The command that no longer backs columns, if there are any. -/
def dropIndexes (collection : String) (columns : List String) : List Command :=
  if columns.isEmpty then []
  else
    [(Command.of .dropIndexes collection).withField "index"
      (.array (columns.map fun c => .string (indexName collection c)))]

/-- The command that applies one operator to every document. -/
def changeAll (collection operator : String) (fields : List (String × Value)) : Command :=
  .updateMany collection [] [(operator, .document (Fields.ofList fields))]

/-- The commands of an action. -/
def alterCommands [Host] (collection : String) : AlterAction → List Command
  | .addColumns columns =>
    let default (c : ColumnDef) : Value := (c.default.map (·.toValue)).getD .null
    changeAll collection "$set" (columns.map fun c => (c.name, default c))
      :: createIndexes collection (indexedNames columns)
  | .renameColumns renames =>
    let indexed := renames.filter (·.indexed)
    dropIndexes collection (indexed.map (·.source))
      ++ changeAll collection "$rename" (renames.map fun r => (r.source, .string r.target))
      :: createIndexes collection (indexed.map (·.target))
  | .dropColumns columns =>
    dropIndexes collection (indexedNames columns)
      ++ [changeAll collection "$unset" (columns.map fun c => (c.name, .string ""))]
  | .addConstraint c => createIndexes collection (constrainedNames c)
  | .dropConstraint c => dropIndexes collection (constrainedNames c)
  | .renameConstraint source target =>
    dropIndexes collection (constrainedNames source)
      ++ createIndexes collection (constrainedNames target)

/-- The plan of a CREATE. -/
def ofCreate (collection : String) (columns : List ColumnDef) : Plan where
  statement := "create"
  shape := .definition
  commands := Command.of .create collection :: createIndexes collection (indexedNames columns)

/-- The plan of an ALTER; it must have an action. -/
def ofAlter [Host] (collection : String) (actions : List AlterAction) : Except GatewayError Plan :=
  if actions.isEmpty then
    .error (.unsupportedStatement ("ALTER of '" ++ collection ++ "' has no actions"))
  else .ok {
    statement := "alter"
    shape := .definition
    commands := actions.flatMap (alterCommands collection) }

/-- The plan of a DROP. -/
def ofDrop (collection : String) : Plan where
  statement := "drop"
  shape := .definition
  commands := [Command.of .drop collection]

end Plan

end SqlGateway
