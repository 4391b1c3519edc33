import SqlGateway.Value.Basic

/-! The types of stored values, by name. Names without a type of their own are
kept as they are. -/

namespace SqlGateway

/-- The type of a stored value. -/
inductive TypeTag where
  | double | string | object | array | binary | undefined | objectId | bool | date | null | regex
  | int | timestamp | long | decimal
  /-- The type of a field that does not exist. -/
  | missing
  | other (name : String)
  deriving DecidableEq, Repr

namespace TypeTag

/-- The types with a name of their own. -/
def known : List TypeTag :=
  [.double, .string, .object, .array, .binary, .undefined, .objectId, .bool, .date, .null, .regex,
    .int, .timestamp, .long, .decimal, .missing]

/-- The written name. -/
def name : TypeTag → String
  | .double => "double"
  | .string => "string"
  | .object => "object"
  | .array => "array"
  | .binary => "binData"
  | .undefined => "undefined"
  | .objectId => "objectId"
  | .bool => "bool"
  | .date => "date"
  | .null => "null"
  | .regex => "regex"
  | .int => "int"
  | .timestamp => "timestamp"
  | .long => "long"
  | .decimal => "decimal"
  | .missing => "missing"
  | .other name => name

/-- The type with a written name. -/
def ofName (s : String) : TypeTag := (known.find? (·.name == s)).getD (.other s)

/-- The type of a value. -/
def ofValue : Value → TypeTag
  | .double _ => .double
  | .string _ => .string
  | .document _ => .object
  | .array _ => .array
  | .binary _ => .binary
  | .undefined => .undefined
  | .objectId _ => .objectId
  | .bool _ => .bool
  | .date _ => .date
  | .null => .null
  | .regex _ => .regex
  | .int _ => .int
  | .timestamp _ => .timestamp
  | .long _ => .long
  | .decimal _ => .decimal
  | .code _ => .other "javascript"
  | .codeWithScope _ _ => .other "javascriptWithScope"
  | .symbol _ => .other "symbol"
  | .minKey => .other "minKey"
  | .maxKey => .other "maxKey"

/-- The type of a field's value, if the field exists. -/
def ofField (v : Option Value) : TypeTag := (v.map ofValue).getD .missing

/-- Whether values of a type are numbers. -/
def isNumeric : TypeTag → Bool
  | .int | .long | .double | .decimal => true
  | _ => false

/-- The type under which a value of type `actual` is read in a column of type `nominal`: whole
numbers are widened to doubles and decimals, and any other value keeps its own type. -/
def reconcile (nominal actual : TypeTag) : TypeTag :=
  match nominal, actual with
  | .double, .int | .double, .long => .double
  | .decimal, .int | .decimal, .long => .decimal
  | _, actual => actual

theorem ofName_name_ofValue (v : Value) : ofName (ofValue v).name = ofValue v := by
  cases v <;> rfl

end TypeTag

end SqlGateway
