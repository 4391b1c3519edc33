import SqlGateway.Value.Text
import SqlGateway.Json.Basic

/-! Stored values as JSON. Values without a JSON form become objects whose
single member names their type; in the scope of code some forms are plainer. -/

namespace SqlGateway

/-- An instant of the years 1970 to 9999 in the form `YYYY-MM-DDTHH:MM:SS.fZ`. -/
def isoInstant (millis : Int) : String :=
  let second := (millis % 86400000 / 1000).toNat
  let fraction := millisDigits millis
  String.ofList <|
    Date.civilChars (Date.civilOfDay (millis / 86400000))
      ++ 'T' :: paddedDigits 2 (second / 3600)
      ++ ':' :: paddedDigits 2 (second / 60 % 60)
      ++ ':' :: paddedDigits 2 (second % 60)
      ++ (if fraction.isEmpty then [] else '.' :: fraction) ++ ['Z']

namespace Value

/-- An object with one member that names a type. -/
def typedJson (name : String) (content : Json) : Json := .object [(name, content)]

/-- The instants that are written as calendar dates. -/
def isIsoInstant (millis : Int) : Bool := 0 ≤ millis && millis ≤ 253402300799999

/-- The JSON form of a double. In a scope, numbers that are not finite have none. -/
def doubleJson (inScope : Bool) (x : Double) : Json :=
  let sign := if x.isNegative then "-" else ""
  if inScope || x.toFloat.isFinite then .double x.toFloat
  else typedJson "$numberDouble" (.string (sign ++ if x.toFloat.isNaN then "NaN" else "Infinity"))

/-- The JSON form of an instant: a calendar date, or its milliseconds out of the range of these and
in a scope. -/
def dateJson (inScope : Bool) (millis : Int) : Json :=
  typedJson "$date" <|
    if !inScope && isIsoInstant millis then .string (isoInstant millis)
    else typedJson "$numberLong" (.string (String.ofList (signedDigits millis)))

/-- The JSON form of bytes. In a scope, plain bytes are an array of numbers. -/
def binaryJson (inScope : Bool) (b : Binary) : Json :=
  if inScope && b.subtype = 0 then .array (b.bytes.map fun n => .integer n.toNat)
  else
    typedJson "$binary" <| .object
      [("base64", .string (String.ofList (Base64.encode b.bytes))),
        ("subType", .string (String.ofList (hexDigits 2 b.subtype.toNat)))]

/-- The JSON form of a regular expression. Outside scopes its options are in order. -/
def regexJson (inScope : Bool) (p : StoredPattern) : Json :=
  let options :=
    if inScope then p.options else String.ofList (p.options.toList.mergeSort (· ≤ ·))
  typedJson "$regularExpression" <| .object
    [("pattern", .string p.pattern), ("options", .string options)]

mutual

/-- The JSON form of a value, which may stand in the scope of code. -/
def jsonIn (inScope : Bool) : Value → Json
  | .null => .null
  | .undefined => typedJson "$undefined" (.bool true)
  | .minKey => typedJson "$minKey" (.integer 1)
  | .maxKey => typedJson "$maxKey" (.integer 1)
  | .bool b => .bool b
  | .int n => .integer n.toInt
  | .long n => .integer n.toInt
  | .double x => doubleJson inScope x
  | .decimal d => typedJson "$numberDecimal" (.string d.text)
  | .string s => .string s
  | .symbol s => typedJson "$symbol" (.string s)
  | .code s => typedJson "$code" (.string s)
  | .codeWithScope s scope =>
    .object [("$code", .string s), ("$scope", .object (fieldsJsonIn true scope))]
  | .objectId id => typedJson "$oid" (.string id.text)
  | .date millis => dateJson inScope millis.toInt
  | .timestamp t =>
    typedJson "$timestamp"
      (.object [("t", .integer t.seconds.toNat), ("i", .integer t.increment.toNat)])
  | .binary b => binaryJson inScope b
  | .regex p => regexJson inScope p
  | .array items => .array (itemsJsonIn inScope items)
  | .document fields => .object (fieldsJsonIn inScope fields)

/-- The JSON forms of items. -/
def itemsJsonIn (inScope : Bool) : List Value → List Json
  | [] => []
  | v :: vs => v.jsonIn inScope :: itemsJsonIn inScope vs

/-- The JSON forms of fields. -/
def fieldsJsonIn (inScope : Bool) : List (String × Value) → List (String × Json)
  | [] => []
  | (k, v) :: fs => (k, v.jsonIn inScope) :: fieldsJsonIn inScope fs

end

/-- The JSON form of a value. -/
def toJson (v : Value) : Json := v.jsonIn false

end Value

/-- The JSON form of a document. -/
def Document.toJson (d : Document) : Json := .object (Value.fieldsJsonIn false d)

end SqlGateway
