import SqlGateway.Calendar.Time
import SqlGateway.Json.Basic
import SqlGateway.Number.DecimalText
import SqlGateway.Value.Fields

/-! Result rows: cells by column, in the order of the columns. A cell holds a typed scalar, or null. -/

namespace SqlGateway

/-- A cell of a row. -/
inductive Cell where
  | null
  | int (n : Int32)
  | long (n : Int64)
  | double (x : Float)
  | decimal (d : Decimal)
  | bool (b : Bool)
  | string (s : String)
  | datetime (t : DateTime)
  | time (t : TimeOfDay)
  deriving Inhabited

namespace Cell

/-- The name of a cell's type. -/
def typeName : Cell → String
  | .null => "null"
  | .int _ => "int"
  | .long _ => "long"
  | .double _ => "double"
  | .decimal _ => "decimal"
  | .bool _ => "bool"
  | .string _ => "string"
  | .datetime _ => "datetime"
  | .time _ => "time"

/-- Whether a cell is null. -/
def isNull : Cell → Bool
  | .null => true
  | _ => false

/-- The whole number in a cell. -/
def integer? : Cell → Option Int
  | .int n => some n.toInt
  | .long n => some n.toInt
  | _ => none

/-- The text in a cell. -/
def string? : Cell → Option String
  | .string s => some s
  | _ => none

/-- The readable text of a cell. -/
def text : Cell → String
  | .null => "NULL"
  | .int n => String.ofList (signedDigits n.toInt)
  | .long n => String.ofList (signedDigits n.toInt)
  | .double x => doubleText .plain x
  | .decimal d => d.text
  | .bool true => "true"
  | .bool false => "false"
  | .string s => s
  | .datetime t => t.text
  | .time t => t.text

/-- The JSON form of a cell; decimals, dates and times are strings. -/
def toJson : Cell → Json
  | .null => .null
  | .int n => .integer n.toInt
  | .long n => .integer n.toInt
  | .double x => .double x
  | .decimal d => .string d.text
  | .bool b => .bool b
  | .string s => .string s
  | .datetime t => .string t.isoText
  | .time t => .string t.text

end Cell

/-- The cells of a row by column. -/
abbrev Row := Fields Cell

/-- The JSON form of a row. -/
def Row.toJson (r : Row) : Json := .object (r.map fun (column, cell) => (column, cell.toJson))

end SqlGateway
