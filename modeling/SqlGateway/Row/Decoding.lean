import SqlGateway.Calendar.Reading
import SqlGateway.Error.Gateway
import SqlGateway.Naming
import SqlGateway.Row.Cell
import SqlGateway.Value.Order
import SqlGateway.Value.TypeTag

/-! Result documents as rows. A value is read under the type of its column; the
identifier is left out, and a joined document is spread over columns of its
own. -/

namespace SqlGateway

variable [Host]

/-- Types by column. -/
abbrev TypeMap := Fields TypeTag

/-- Whether a value stands for an absent one. -/
def Value.isAbsent : Value → Bool
  | .null | .undefined => true
  | .string s => s == "NULL"
  | _ => false

/-- Reads a value under the type of its column. -/
def Cell.decode (column : String) (nominal : TypeTag) (v : Value) : Except GatewayError Cell :=
  if v.isAbsent then .ok .null
  else
    let type := nominal.reconcile (.ofValue v)
    let orMismatch (cell : Option Cell) : Except GatewayError Cell :=
      match cell with
      | some cell => .ok cell
      | none => .error (.unknownColumnType column type.name)
    match type, v with
    | .int, .int n => .ok (.int n)
    | .long, .long n => .ok (.long n)
    | .double, .double x => .ok (.double x.toFloat)
    | .double, .int n => .ok (.double (doubleOfInt n.toInt))
    | .double, .long n => .ok (.double (doubleOfInt n.toInt))
    | .decimal, .decimal d =>
      match d.toDecimal? with
      | some d => .ok (.decimal d)
      | none =>
        .error <| .executionFailed <|
          "column '" ++ column ++ "' holds a decimal outside the supported range"
    | .decimal, .int n => .ok (.decimal (.ofInt64 n.toInt64))
    | .decimal, .long n => .ok (.decimal (.ofInt64 n))
    | .decimal, .double x => orMismatch ((Decimal.ofDouble? x.toFloat).map .decimal)
    | .bool, .bool b => .ok (.bool b)
    | .string, .string s =>
      match TimeOfDay.ofLiteral? s with
      | some t => .ok (.time t)
      | none => .ok (.string s)
    | .date, .date millis => orMismatch ((DateTime.ofMillis? millis.toInt).map .datetime)
    | .timestamp, .timestamp t =>
      orMismatch ((DateTime.ofEpochSeconds? t.seconds.toNat).map .datetime)
    | _, _ => orMismatch none

namespace Row

/-- Reads a value of a column. -/
def cellOf (types : TypeMap) (column : String) (v : Value) : Except GatewayError Cell :=
  Cell.decode column ((types.get? column).getD .missing) v

/-- Adds the columns of a joined document. A column that the document around it has too is named
with the joined field in front. -/
def addJoined (types : TypeMap) (field : String) (outer : Document) (r : Row) :
    List (String × Value) → Except GatewayError Row
  | [] => .ok r
  | (key, v) :: rest =>
    if key = idField then addJoined types field outer r rest
    else do
      let qualified := field ++ "." ++ key
      let cell ← cellOf types qualified v
      addJoined types field outer (r.set (if outer.has key then qualified else key) cell) rest

/-- Adds the column of a field, or the columns of a joined document. -/
def addField (types : TypeMap) (joined : Option String) (outer : Document) (r : Row)
    (key : String) (v : Value) : Except GatewayError Row :=
  if key = idField then .ok r
  else match v with
  | .document fields =>
    if joined = some key then addJoined types key outer r fields
    else return r.set key (← cellOf types key v)
  | _ => return r.set key (← cellOf types key v)

/-- The row of a result document. -/
def ofDocument (types : TypeMap) (joined : Option String) (d : Document) :
    Except GatewayError Row :=
  d.foldlM (fun r (key, v) => addField types joined d r key v) []

/-- The rows of result documents. -/
def ofDocuments (types : TypeMap) (joined : Option String) (docs : List Document) :
    Except GatewayError (List Row) :=
  docs.mapM (ofDocument types joined)

end Row

end SqlGateway
