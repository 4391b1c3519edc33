import SqlGateway.Calendar.Date
import SqlGateway.Number.FloatText
import SqlGateway.Value.Basic

/-! The readable text of stored values, as it stands in messages. Strings are
put between quotes as they are, bytes are written in base 64 with padding. -/

/-! ### Base 64 -/

namespace SqlGateway.Base64

/-- The digit of a number below 64. -/
def digit (n : Nat) : Char :=
  if n < 26 then Char.ofNat (n + 65)
  else if n < 52 then Char.ofNat (n + 71)
  else if n < 62 then Char.ofNat (n - 4)
  else if n = 62 then '+' else '/'

/-- Four digits for every three bytes. -/
def encode : List UInt8 → List Char
  | a :: b :: c :: rest =>
    let n := a.toNat * 65536 + b.toNat * 256 + c.toNat
    digit (n / 262144) :: digit (n / 4096 % 64) :: digit (n / 64 % 64) :: digit (n % 64)
      :: encode rest
  | [a, b] =>
    let n := a.toNat * 1024 + b.toNat * 4
    [digit (n / 4096), digit (n / 64 % 64), digit (n % 64), '=']
  | [a] =>
    let n := a.toNat * 16
    [digit (n / 64), digit (n % 64), '=', '=']
  | [] => []

end SqlGateway.Base64

/-! ### Values -/

namespace SqlGateway

/-- The digits of the thousandths of a second of an instant, without zeros at the end. -/
def millisDigits (millis : Int) : List Char :=
  ((paddedDigits 3 (millis % 1000).toNat).reverse.dropWhile (· = '0')).reverse

/-- The years that are written as such, on either side of zero. -/
def greatestYear : Nat := 999999

/-- An instant in universal time, with at least one digit of fraction and its zone; out of the
range of years, its milliseconds. -/
def instantText (millis : Int) : String :=
  let civil := Date.civilOfDay (millis / 86400000)
  if greatestYear < civil.1.natAbs then String.ofList (signedDigits millis)
  else
    let second := (millis % 86400000 / 1000).toNat
    let fraction := millisDigits millis
    String.ofList <|
      Date.civilChars civil
        ++ ' ' :: digitsOf (second / 3600)
        ++ ':' :: paddedDigits 2 (second / 60 % 60)
        ++ ':' :: paddedDigits 2 (second % 60)
        ++ '.' :: (if fraction.isEmpty then ['0'] else fraction)
        ++ " +00:00:00".toList

namespace Value

mutual

/-- The readable text of a value. -/
def text : Value → String
  | .null => "null"
  | .undefined => "undefined"
  | .minKey => "MinKey"
  | .maxKey => "MaxKey"
  | .bool true => "true"
  | .bool false => "false"
  | .int n => String.ofList (signedDigits n.toInt)
  | .long n => String.ofList (signedDigits n.toInt)
  | .double x => doubleText .plain x.toFloat
  | .decimal d => d.text
  | .string s => "\"" ++ s ++ "\""
  | .symbol s => "Symbol(\"" ++ s ++ "\")"
  | .code s => s
  | .codeWithScope s _ => s
  | .objectId id => "ObjectId(\"" ++ id.text ++ "\")"
  | .date millis => "DateTime(\"" ++ instantText millis.toInt ++ "\")"
  | .timestamp t =>
    "Timestamp(" ++ String.ofList (digitsOf t.seconds.toNat) ++ ", "
      ++ String.ofList (digitsOf t.increment.toNat) ++ ")"
  | .binary b =>
    "Binary(0x" ++ String.ofList (hexDigits 1 b.subtype.toNat) ++ ", "
      ++ String.ofList (Base64.encode b.bytes) ++ ")"
  | .regex p => "/" ++ p.pattern ++ "/" ++ p.options
  | .array items => "[" ++ itemsText items ++ "]"
  | .document [] => "\x7b\x7d"
  | .document fields => "\x7b " ++ fieldsText fields ++ " \x7d"

/-- Items with commas between them. -/
def itemsText : List Value → String
  | [] => ""
  | [v] => v.text
  | v :: vs => v.text ++ ", " ++ itemsText vs

/-- Fields with commas between them. -/
def fieldsText : List (String × Value) → String
  | [] => ""
  | [(k, v)] => "\"" ++ k ++ "\": " ++ v.text
  | (k, v) :: fs => "\"" ++ k ++ "\": " ++ v.text ++ ", " ++ fieldsText fs

end

end Value

/-- The readable text of a document. -/
def Document.text (d : Document) : String := (Value.document d).text

end SqlGateway
