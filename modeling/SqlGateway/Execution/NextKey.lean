import SqlGateway.Error.Gateway
import SqlGateway.Number.Shortest
import SqlGateway.Plan.Basic
import SqlGateway.Query.Statement
import SqlGateway.Text.Parts
import SqlGateway.Value.Text

/-! Keys of counted columns: one more than the greatest key in the collection. -/

namespace SqlGateway.NextKey

/-- The greatest 64-bit signed integer. -/
def greatest : Int := Int64.maxValue.toInt

/-- The query for the greatest key. -/
def query (c : CountedColumn) : Select where
  collection := c.collection
  columns := [.named c.column]
  orderBy := some [⟨.named c.column, false⟩]
  limit := some ⟨0, 1⟩

/-- An integer of 64 bits. -/
def bounded? (n : Int) : Option Int :=
  if Int64.minValue.toInt ≤ n && n ≤ greatest then some n else none

/-- The whole number that a value stands for. -/
def integral? : Value → Option Int
  | .int n => some n.toInt
  | .long n => some n.toInt
  | .double x => wholeOfDouble? x.toFloat
  | .decimal d => do bounded? (← (← d.toDecimal?).toInt?)
  | .string s => do bounded? (← readSigned? (trimBlanks s.toList))
  | _ => none

/-- The key after that of a sampled document; keys start at one. -/
def following (column : String) (sampled : Option Document) : Except GatewayError Int :=
  match sampled.bind (·.get? column) with
  | none | some .null => .ok 1
  | some v =>
    match integral? v with
    | none => .error (.nonNumericAutoIncrement column v.text)
    | some n =>
      if n = greatest then .error (.nonNumericAutoIncrement column "overflowing key")
      else .ok (n + 1)

end SqlGateway.NextKey
