import SqlGateway.Json.Basic
import SqlGateway.Number.DecimalText
import SqlGateway.Query.Statement

/-! The JSON form of query trees. Every field is written, in a fixed order, and
the tag of a tagged record comes first. -/

namespace SqlGateway

namespace Literal

/-- The name of a literal's type in its JSON form. -/
def typeName : Literal → String
  | .null => "null"
  | l => l.tag.name

/-- A literal with a type and content. -/
def typed (type : String) (content : Json) : Json :=
  .object [("type", .string type), ("value", content)]

mutual

/-- The JSON form of a literal. -/
def toJson : Literal → Json
  | .null => .object [("type", .string "null")]
  | .string s => typed "string" (.string s)
  | .bool b => typed "bool" (.bool b)
  | .sbyte n => typed "sbyte" (.integer n.toInt)
  | .short n => typed "short" (.integer n.toInt)
  | .integer n => typed "integer" (.integer n.toInt)
  | .long n => typed "long" (.integer n.toInt)
  | .byte n => typed "byte" (.integer n.toNat)
  | .ushort n => typed "ushort" (.integer n.toNat)
  | .uinteger n => typed "uinteger" (.integer n.toNat)
  | .ulong n => typed "ulong" (.integer n.toNat)
  | .float x => typed "float" (.single x)
  | .double x => typed "double" (.double x.toFloat)
  | .decimal d => typed "decimal" (.string d.text)
  | .localDateTime t => typed "localdatetime" (.string t.isoText)
  | .localDate d => typed "localdate" (.string d.text)
  | .localTime t => typed "localtime" (.string t.text)
  | .list items => typed "list" (.array (toJsons items))

/-- The JSON forms of literals. -/
def toJsons : List Literal → List Json
  | [] => []
  | l :: ls => l.toJson :: toJsons ls

end

end Literal

/-- A value that may be missing; a missing one is null. -/
def Json.ofOption {α : Type} (write : α → Json) (o : Option α) : Json := (o.map write).getD .null

/-- The JSON form of a list. -/
def Json.ofList {α : Type} (write : α → Json) (l : List α) : Json := .array (l.map write)

/-- The JSON form of a column. -/
def Column.toJson (c : Column) : Json := .object
  [("name", .string c.name),
    ("alias", .ofOption .string c.asName),
    ("aggregation", .ofOption (.string ·.name) c.aggregation),
    ("join_sourced", .bool c.joinSourced)]

/-- The JSON form of a predicate. -/
def Predicate.toJson (p : Predicate) : Json := .object
  [("column", p.column.toJson),
    ("op", .string p.op.name),
    ("value", p.value.toJson),
    ("connective", .ofOption (.string ·.name) p.connective),
    ("bracket_start", .bool p.opens),
    ("bracket_end", .bool p.closes)]

/-- The JSON form of a relation. -/
def Relation.toJson (r : Relation) : Json :=
  .object [("left", .string r.left), ("right", .string r.right)]

/-- The JSON form of a join. -/
def Join.toJson (j : Join) : Json := .object
  [("kind", .string j.kind.name),
    ("collection", .string j.collection),
    ("relations", .ofList (·.toJson) j.relations)]

/-- The JSON form of an order term. -/
def OrderTerm.toJson (t : OrderTerm) : Json :=
  .object [("column", t.column.toJson), ("ascending", .bool t.ascending)]

/-- The JSON form of a limit. -/
def Limit.toJson (l : Limit) : Json :=
  .object [("offset", .integer l.offset.toNat), ("count", .integer l.count.toNat)]

/-- The JSON form of a column definition. -/
def ColumnDef.toJson (c : ColumnDef) : Json := .object
  [("name", .string c.name),
    ("data_type", .ofOption .string c.dataType),
    ("constraints", .ofList (.string ·.name) c.constraints),
    ("default", .ofOption (·.toJson) c.default)]

/-- The JSON form of a renamed column. -/
def ColumnRename.toJson (r : ColumnRename) : Json := .object
  [("from", .string r.source), ("to", .string r.target), ("indexed", .bool r.indexed)]

/-- The JSON form of a constraint. -/
def ConstraintDef.toJson (c : ConstraintDef) : Json :=
  .object [("column", .string c.column), ("kind", .string c.kind.name)]

/-- The JSON form of an action. -/
def AlterAction.toJson (a : AlterAction) : Json :=
  let action (name : String) (fields : List (String × Json)) : Json :=
    .object (("action", .string name) :: fields)
  match a with
  | .addColumns cs => action "add_columns" [("columns", .ofList (·.toJson) cs)]
  | .renameColumns rs => action "rename_columns" [("renames", .ofList (·.toJson) rs)]
  | .dropColumns cs => action "drop_columns" [("columns", .ofList (·.toJson) cs)]
  | .addConstraint c => action "add_constraint" [("constraint", c.toJson)]
  | .dropConstraint c => action "drop_constraint" [("constraint", c.toJson)]
  | .renameConstraint s t => action "rename_constraint" [("from", s.toJson), ("to", t.toJson)]

/-- The JSON form of assignments: pairs of a column and a literal. -/
def assignmentsJson (values : Assignments) : Json :=
  .ofList (fun (column, l) => .array [.string column, l.toJson]) values

/-- The JSON form of a statement. -/
def Statement.toJson (s : Statement) : Json :=
  let statement (kind : String) (fields : List (String × Json)) : Json :=
    .object (("kind", .string kind) :: ("collection", .string s.collection) :: fields)
  match s with
  | .select q => statement "select"
    [("distinct", .bool q.distinct),
      ("columns", .ofList (·.toJson) q.columns),
      ("wheres", .ofList (·.toJson) q.wheres),
      ("joins", .ofList (·.toJson) q.joins),
      ("group_by", .ofList (·.toJson) q.groupBy),
      ("having", .ofList (·.toJson) q.having),
      ("order_by",
        .ofOption (fun terms => .object [("terms", .ofList (·.toJson) terms)]) q.orderBy),
      ("limit", .ofOption (·.toJson) q.limit)]
  | .insert _ autoIncrement values => statement "insert"
    [("auto_increment", .ofOption .string autoIncrement), ("values", assignmentsJson values)]
  | .update _ values wheres => statement "update"
    [("values", assignmentsJson values), ("wheres", .ofList (·.toJson) wheres)]
  | .delete _ wheres => statement "delete" [("wheres", .ofList (·.toJson) wheres)]
  | .create _ columns => statement "create" [("columns", .ofList (·.toJson) columns)]
  | .alter _ actions => statement "alter" [("actions", .ofList (·.toJson) actions)]
  | .drop _ => statement "drop" []
  | .truncate _ => statement "truncate" []

/-- The JSON form of a query tree. -/
def QueryTree.toJson (t : QueryTree) : Json := .object
  [("target", .string t.target.name), ("statements", .ofList (·.toJson) t.statements)]

end SqlGateway
