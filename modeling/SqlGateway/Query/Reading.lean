import SqlGateway.Calendar.Reading
import SqlGateway.Json.Basic
import SqlGateway.Number.DecimalText
import SqlGateway.Query.Statement

/-! Reading query trees from their JSON form. Members that are not fields are
left out of account; fields that may be missing have a default, and whole
numbers must be in the range of their type. What a statement holds is read
leniently, and all of it must be readable. -/

namespace SqlGateway

namespace Literal

/-- The double of a JSON number. -/
def readDouble? : Json → Option Float
  | .integer n =>
    some (if n < 0 then -n.natAbs.toUInt64.toFloat else n.natAbs.toUInt64.toFloat)
  | .double x => some x
  | _ => none

/-- The single of a JSON number. -/
def readSingle? : Json → Option Float32
  | .integer n =>
    some (if n < 0 then -n.natAbs.toUInt64.toFloat32 else n.natAbs.toUInt64.toFloat32)
  | .double x => some x.toFloat32
  | _ => none

/-- The decimal of a JSON string or number. -/
def readDecimal? : Json → Option Decimal
  | .string s => Decimal.ofText? s
  | .integer n => Decimal.ofParts? n 0
  | .double x => Decimal.ofPlain? (doubleText .plain x).toList
  | _ => none

/-- The written types of literals, in the order of their numbers. -/
def typeNames : List String := "null" :: LiteralTag.all.tail.map LiteralTag.name

/-- The literal of a type other than lists, from its content. -/
def ofContent? (mode : Json.Mode) (type : String) (content : Option Json) : Option Literal :=
  if type = "null" then
    if content.all (·.isNothing mode) then some .null else none
  else do
    let j ← content
    match ← LiteralTag.ofName? type with
    | .string => j.string?.map .string
    | .bool => j.bool?.map .bool
    | .sbyte => (j.integer? Int8.minValue.toInt Int8.maxValue.toInt).map (.sbyte ∘ Int8.ofInt)
    | .short => (j.integer? Int16.minValue.toInt Int16.maxValue.toInt).map (.short ∘ Int16.ofInt)
    | .integer =>
      (j.integer? Int32.minValue.toInt Int32.maxValue.toInt).map (.integer ∘ Int32.ofInt)
    | .long => (j.integer? Int64.minValue.toInt Int64.maxValue.toInt).map (.long ∘ Int64.ofInt)
    | .byte => (j.integer? 0 (UInt8.size - 1)).map (.byte ∘ UInt8.ofNat ∘ Int.toNat)
    | .ushort => (j.integer? 0 (UInt16.size - 1)).map (.ushort ∘ UInt16.ofNat ∘ Int.toNat)
    | .uinteger => (j.integer? 0 (UInt32.size - 1)).map (.uinteger ∘ UInt32.ofNat ∘ Int.toNat)
    | .ulong => (j.integer? 0 (UInt64.size - 1)).map (.ulong ∘ UInt64.ofNat ∘ Int.toNat)
    | .float => (readSingle? j).map .float
    | .double => (readDouble? j).map (.double ∘ Double.ofFloat)
    | .decimal => (readDecimal? j).map .decimal
    | .localDateTime => (j.string?.bind DateTime.ofText?).map .localDateTime
    | .localDate => (j.string?.bind Date.ofText?).map .localDate
    | .localTime => (j.string?.bind TimeOfDay.ofText?).map .localTime
    | .object | .list => none

/-- How the content among members is read: leniently if it stands before the type. -/
def contentMode (mode : Json.Mode) : List (String × Json) → Json.Mode
  | [] => mode
  | (key, _) :: ms =>
    if key = "type" then mode else if key = "value" then .lenient else contentMode mode ms

/-- The only value of a key among members; `none` for a repeated key. -/
def single? (key : String) (members : List (String × Json)) : Option (Option Json) :=
  match members.filter (·.1 == key) with
  | [] => some none
  | [(_, v)] => some (some v)
  | _ => none

mutual

/-- The literal of a JSON value: an object with type and content, or an array of the two. -/
def ofJson? (mode : Json.Mode) : Json → Option Literal
  | .object members => do
    let type ← (← single? "type" members).bind (Json.name? mode)
    let content ← single? "value" members
    if type = "list" then
      let items ← ofListMember? (contentMode mode members) members
      return .list items
    else ofContent? (contentMode mode members) type content
  | .array [type, .array items] => do
    if type.tag? mode typeNames = some "list" then return .list (← ofJsons? mode items) else none
  | .array [type, content] => do ofContent? mode (← type.tag? mode typeNames) (some content)
  | _ => none

/-- The literals of the member that holds the content. -/
def ofListMember? (mode : Json.Mode) : List (String × Json) → Option (List Literal)
  | [] => none
  | (key, .array items) :: ms =>
    if key = "value" then ofJsons? mode items else ofListMember? mode ms
  | (key, _) :: ms => if key = "value" then none else ofListMember? mode ms

/-- The literals of JSON values. -/
def ofJsons? (mode : Json.Mode) : List Json → Option (List Literal)
  | [] => some []
  | j :: js => do return (← ofJson? mode j) :: (← ofJsons? mode js)

end

end Literal

/-! ### Columns and predicates -/

/-- Reads an enumerated value by its written name. -/
def readName? {α : Type} (mode : Json.Mode) (ofName? : String → Option α) (j : Json) : Option α :=
  (j.name? mode).bind ofName?

/-- Reads a column. -/
def Column.ofJson? (mode : Json.Mode) (j : Json) : Option Column := do
  let [name, asName, aggregation, joinSourced] ←
    j.fields? ["name", "alias", "aggregation", "join_sourced"] | none
  return {
    name := ← (← name).string?
    asName := ← Json.optional? Json.string? asName
    aggregation := ← Json.optional? (readName? mode Aggregation.ofName?) aggregation
    joinSourced := ← Json.defaulted? false Json.bool? joinSourced }

/-- Reads a predicate. -/
def Predicate.ofJson? (mode : Json.Mode) (j : Json) : Option Predicate := do
  let [column, op, value, connective, opens, closes] ←
    j.fields? ["column", "op", "value", "connective", "bracket_start", "bracket_end"] | none
  return {
    column := ← Column.ofJson? mode (← column)
    op := ← readName? mode Comparison.ofName? (← op)
    value := ← Literal.ofJson? mode (← value)
    connective := ← Json.optional? (readName? mode Connective.ofName?) connective
    opens := ← Json.defaulted? false Json.bool? opens
    closes := ← Json.defaulted? false Json.bool? closes }

/-! ### Clauses -/

/-- Reads a relation. -/
def Relation.ofJson? (j : Json) : Option Relation := do
  let [left, right] ← j.fields? ["left", "right"] | none
  return { left := ← (← left).string?, right := ← (← right).string? }

/-- Reads a join. -/
def Join.ofJson? (mode : Json.Mode) (j : Json) : Option Join := do
  let [kind, collection, relations] ← j.fields? ["kind", "collection", "relations"] | none
  return {
    kind := ← readName? mode JoinKind.ofName? (← kind)
    collection := ← (← collection).string?
    relations := ← (← relations).arrayOf? Relation.ofJson? }

/-- Reads an order term. -/
def OrderTerm.ofJson? (mode : Json.Mode) (j : Json) : Option OrderTerm := do
  let [column, ascending] ← j.fields? ["column", "ascending"] | none
  return { column := ← Column.ofJson? mode (← column), ascending := ← (← ascending).bool? }

/-- Reads the terms of an ORDER BY. -/
def OrderTerm.listOfJson? (mode : Json.Mode) (j : Json) : Option (List OrderTerm) := do
  let [terms] ← j.fields? ["terms"] | none
  (← terms).arrayOf? (OrderTerm.ofJson? mode)

/-- Reads an unsigned whole number of 64 bits. -/
def readUInt64? (j : Json) : Option UInt64 :=
  (j.integer? 0 (UInt64.size - 1)).map (UInt64.ofNat ∘ Int.toNat)

/-- Reads a limit. -/
def Limit.ofJson? (j : Json) : Option Limit := do
  let [offset, count] ← j.fields? ["offset", "count"] | none
  return { offset := ← readUInt64? (← offset), count := ← readUInt64? (← count) }

/-! ### Definitions -/

/-- Reads a column definition. -/
def ColumnDef.ofJson? (mode : Json.Mode) (j : Json) : Option ColumnDef := do
  let [name, dataType, constraints, default] ←
    j.fields? ["name", "data_type", "constraints", "default"] | none
  return {
    name := ← (← name).string?
    dataType := ← Json.optional? Json.string? dataType
    constraints :=
      ← Json.defaulted? [] (Json.arrayOf? (readName? mode ConstraintKind.ofName?)) constraints
    default := ← Json.optional? (Literal.ofJson? mode) default }

/-- Reads a renamed column. -/
def ColumnRename.ofJson? (j : Json) : Option ColumnRename := do
  let [source, target, indexed] ← j.fields? ["from", "to", "indexed"] | none
  return {
    source := ← (← source).string?
    target := ← (← target).string?
    indexed := ← Json.defaulted? false Json.bool? indexed }

/-- Reads a constraint. -/
def ConstraintDef.ofJson? (mode : Json.Mode) (j : Json) : Option ConstraintDef := do
  let [column, kind] ← j.fields? ["column", "kind"] | none
  return {
    column := ← (← column).string?
    kind := ← readName? mode ConstraintKind.ofName? (← kind) }

/-- The written kinds of actions, in the order of their numbers. -/
def AlterAction.kinds : List String :=
  ["add_columns", "rename_columns", "drop_columns", "add_constraint", "drop_constraint",
    "rename_constraint"]

/-- Reads an action. -/
def AlterAction.ofJson? (mode : Json.Mode) (j : Json) : Option AlterAction := do
  let (kind, j) ← j.tagged? mode "action" kinds
  let only (name : String) : Option Json := do
    let [field] ← j.fields? [name] | none
    field
  let columns (j : Json) := j.arrayOf? (ColumnDef.ofJson? .lenient)
  let constraint := ConstraintDef.ofJson? .lenient
  match kind with
  | "add_columns" => return .addColumns (← columns (← only "columns"))
  | "rename_columns" => return .renameColumns (← (← only "renames").arrayOf? ColumnRename.ofJson?)
  | "drop_columns" => return .dropColumns (← columns (← only "columns"))
  | "add_constraint" => return .addConstraint (← constraint (← only "constraint"))
  | "drop_constraint" => return .dropConstraint (← constraint (← only "constraint"))
  | "rename_constraint" =>
    let [source, target] ← j.fields? ["from", "to"] | none
    return .renameConstraint (← constraint (← source)) (← constraint (← target))
  | _ => none

/-! ### Statements -/

/-- Reads a pair of a column and a literal. -/
def readAssignment? : Json → Option (String × Literal)
  | .array [column, value] => do return (← column.string?, ← Literal.ofJson? .lenient value)
  | _ => none

/-- Reads the predicates of a statement. -/
def Predicate.listOfJson? : Option Json → Option (List Predicate) :=
  Json.defaulted? [] (Json.arrayOf? (Predicate.ofJson? .lenient))

/-- Reads a SELECT without its tag. -/
def Select.ofJson? (j : Json) : Option Select := do
  let [collection, distinct, columns, wheres, joins, groupBy, having, orderBy, limit] ←
    j.fields? ["collection", "distinct", "columns", "wheres", "joins", "group_by", "having",
      "order_by", "limit"] | none
  return {
    collection := ← (← collection).string?
    distinct := ← Json.defaulted? false Json.bool? distinct
    columns := ← (← columns).arrayOf? (Column.ofJson? .lenient)
    wheres := ← Predicate.listOfJson? wheres
    joins := ← Json.defaulted? [] (Json.arrayOf? (Join.ofJson? .lenient)) joins
    groupBy := ← Json.defaulted? [] (Json.arrayOf? (Column.ofJson? .lenient)) groupBy
    having := ← Predicate.listOfJson? having
    orderBy := ← Json.optional? (OrderTerm.listOfJson? .lenient) orderBy
    limit := ← Json.optional? Limit.ofJson? limit }

/-- Reads a statement. All of it must be readable, even what is left out of account. -/
def Statement.ofJson? (j : Json) : Option Statement := do
  guard j.isReadable
  let (kind, j) ← j.tagged? .strict "kind" []
  match kind with
  | "select" => return .select (← Select.ofJson? j)
  | "insert" =>
    let [collection, autoIncrement, values] ←
      j.fields? ["collection", "auto_increment", "values"] | none
    return .insert (← (← collection).string?) (← Json.optional? Json.string? autoIncrement)
      (← (← values).arrayOf? readAssignment?)
  | "update" =>
    let [collection, values, wheres] ← j.fields? ["collection", "values", "wheres"] | none
    return .update (← (← collection).string?) (← (← values).arrayOf? readAssignment?)
      (← Predicate.listOfJson? wheres)
  | "delete" =>
    let [collection, wheres] ← j.fields? ["collection", "wheres"] | none
    return .delete (← (← collection).string?) (← Predicate.listOfJson? wheres)
  | "create" =>
    let [collection, columns] ← j.fields? ["collection", "columns"] | none
    return .create (← (← collection).string?)
      (← Json.defaulted? [] (Json.arrayOf? (ColumnDef.ofJson? .lenient)) columns)
  | "alter" =>
    let [collection, actions] ← j.fields? ["collection", "actions"] | none
    return .alter (← (← collection).string?) (← (← actions).arrayOf? (AlterAction.ofJson? .lenient))
  | "drop" =>
    let [collection] ← j.fields? ["collection"] | none
    return .drop (← (← collection).string?)
  | "truncate" =>
    let [collection] ← j.fields? ["collection"] | none
    return .truncate (← (← collection).string?)
  | _ => none

/-- Reads a query tree. -/
def QueryTree.ofJson? (j : Json) : Option QueryTree := do
  let [target, statements] ← j.fields? ["target", "statements"] | none
  return {
    target := ← readName? .strict Dialect.ofName? (← target)
    statements := ← (← statements).arrayOf? Statement.ofJson? }

end SqlGateway
