import SqlGateway.Calendar.Instant
import SqlGateway.Value.Basic

/-! Typed literals of statements and the stored values they become. -/

namespace SqlGateway

/-- A literal of a statement. -/
inductive Literal where
  | null
  | string (s : String)
  | bool (b : Bool)
  | sbyte (n : Int8)
  | short (n : Int16)
  | integer (n : Int32)
  | long (n : Int64)
  | byte (n : UInt8)
  | ushort (n : UInt16)
  | uinteger (n : UInt32)
  | ulong (n : UInt64)
  | float (x : Float32)
  | double (x : Double)
  | decimal (d : Decimal)
  | localDateTime (t : DateTime)
  | localDate (d : Date)
  | localTime (t : TimeOfDay)
  | list (items : List Literal)
  deriving Inhabited

/-- The names of literal types. -/
inductive LiteralTag where
  | object | string | bool | sbyte | short | integer | long | byte | ushort | uinteger | ulong
  | float | double | decimal | localDateTime | localDate | localTime | list
  deriving DecidableEq, Repr

namespace LiteralTag

/-- Every tag. -/
def all : List LiteralTag :=
  [.object, .string, .bool, .sbyte, .short, .integer, .long, .byte, .ushort, .uinteger, .ulong,
    .float, .double, .decimal, .localDateTime, .localDate, .localTime, .list]

/-- The written name. -/
def name : LiteralTag → String
  | .object => "object"
  | .string => "string"
  | .bool => "bool"
  | .sbyte => "sbyte"
  | .short => "short"
  | .integer => "integer"
  | .long => "long"
  | .byte => "byte"
  | .ushort => "ushort"
  | .uinteger => "uinteger"
  | .ulong => "ulong"
  | .float => "float"
  | .double => "double"
  | .decimal => "decimal"
  | .localDateTime => "localdatetime"
  | .localDate => "localdate"
  | .localTime => "localtime"
  | .list => "list"

/-- The tag with a written name. -/
def ofName? (s : String) : Option LiteralTag := all.find? (·.name == s)

end LiteralTag

namespace Literal

/-- The tag of a literal. -/
def tag : Literal → LiteralTag
  | .null => .object
  | .string _ => .string
  | .bool _ => .bool
  | .sbyte _ => .sbyte
  | .short _ => .short
  | .integer _ => .integer
  | .long _ => .long
  | .byte _ => .byte
  | .ushort _ => .ushort
  | .uinteger _ => .uinteger
  | .ulong _ => .ulong
  | .float _ => .float
  | .double _ => .double
  | .decimal _ => .decimal
  | .localDateTime _ => .localDateTime
  | .localDate _ => .localDate
  | .localTime _ => .localTime
  | .list _ => .list

/-- Whether a literal is null. -/
def isNull : Literal → Bool
  | .null => true
  | _ => false

/-- The text of a string literal. -/
def string? : Literal → Option String
  | .string s => some s
  | _ => none

mutual

/-- The stored value of a literal: whole numbers of up to 32 bits become ints and wider ones longs,
those past the range of a long decimals; dates and date-times become instants and times strings. -/
def toValue [Host] : Literal → Value
  | .null => .null
  | .string s => .string s
  | .bool b => .bool b
  | .sbyte n => .int n.toInt32
  | .short n => .int n.toInt32
  | .integer n => .int n
  | .long n => .long n
  | .byte n => .ofInt32 n.toNat
  | .ushort n => .ofInt32 n.toNat
  | .uinteger n => .ofInt64 n.toNat
  | .ulong n =>
    if n.toNat ≤ Int64.maxValue.toInt then .ofInt64 n.toNat
    else .decimal (Decimal128.ofDecimal (Decimal.ofUInt64 n))
  | .float x => .ofFloat x.toFloat
  | .double x => .double x
  | .decimal d => .decimal (Decimal128.ofDecimal d)
  | .localDateTime t => .date (Int64.ofInt t.toMillis)
  | .localDate d => .date (Int64.ofInt d.toMillis)
  | .localTime t => .string t.text
  | .list items => .array (toValues items)

/-- The stored values of literals. -/
def toValues [Host] : List Literal → List Value
  | [] => []
  | l :: ls => l.toValue :: toValues ls

end

end Literal

end SqlGateway
