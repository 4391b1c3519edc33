import SqlGateway.Number.Decimal128
import SqlGateway.Value.Fields

/-! Stored values and documents. -/

namespace SqlGateway

/-- A stored double, kept as its raw word: a NaN keeps its sign. -/
structure Double where
  bits : UInt64
  deriving DecidableEq, Inhabited

namespace Double

/-- The word of a number. -/
def ofFloat (x : Float) : Double := ⟨x.toBits⟩

/-- The number of a word. -/
def toFloat (x : Double) : Float := Float.ofBits x.bits

/-- Whether the sign bit is set. -/
def isNegative (x : Double) : Bool := x.bits.toBitVec.msb

end Double

/-- The twelve bytes that identify a document. -/
structure ObjectId where
  bits : BitVec 96
  deriving DecidableEq, Inhabited

namespace ObjectId

/-- The twenty-four hexadecimal digits of an identifier. -/
def text (id : ObjectId) : String := String.ofList (hexDigits 24 id.bits.toNat)

/-- The identifier of twenty-four hexadecimal digits. -/
def ofText? (s : String) : Option ObjectId :=
  if s.length = 24 then (ofHex? s.toList).map fun n => ⟨BitVec.ofNat 96 n⟩ else none

/-- The `n`th of a run of identifiers. -/
def numbered (n : Nat) : ObjectId := ⟨0x68#8 ++ BitVec.ofNat 88 n⟩

end ObjectId

/-- Seconds and a counter within the second. -/
structure Timestamp where
  seconds : UInt32
  increment : UInt32
  deriving DecidableEq, Inhabited

/-- Bytes with the number of their kind. -/
structure Binary where
  subtype : UInt8
  bytes : List UInt8
  deriving DecidableEq, Inhabited

/-- A stored regular expression. -/
structure StoredPattern where
  pattern : String
  options : String
  deriving DecidableEq, Inhabited

/-- A stored value. -/
inductive Value where
  | null
  | undefined
  | minKey
  | maxKey
  | bool (b : Bool)
  | int (n : Int32)
  | long (n : Int64)
  | double (x : Double)
  | decimal (d : Decimal128)
  | string (s : String)
  | symbol (s : String)
  | code (s : String)
  | codeWithScope (s : String) (scope : List (String × Value))
  | objectId (id : ObjectId)
  /-- Milliseconds from the start of 1970 in universal time. -/
  | date (millis : Int64)
  | timestamp (t : Timestamp)
  | binary (b : Binary)
  | regex (p : StoredPattern)
  | array (items : List Value)
  | document (fields : List (String × Value))
  deriving Inhabited

/-- A stored document. -/
abbrev Document := Fields Value

namespace Value

/-- The text of a string. -/
def string? : Value → Option String
  | .string s => some s
  | _ => none

/-- The fields of a document. -/
def document? : Value → Option Document
  | .document d => some d
  | _ => none

/-- The items of an array. -/
def array? : Value → Option (List Value)
  | .array vs => some vs
  | _ => none

/-- A whole number stored as such. -/
def integer? : Value → Option Int
  | .int n => some n.toInt
  | .long n => some n.toInt
  | _ => none

/-- A whole number as a long. -/
def ofInt64 (n : Int) : Value := .long (Int64.ofInt n)

/-- A number as a double. -/
def ofFloat (x : Float) : Value := .double (.ofFloat x)

/-- A whole number as an int. -/
def ofInt32 (n : Int) : Value := .int (Int32.ofInt n)

end Value

end SqlGateway
