import SqlGateway.Error.Gateway
import SqlGateway.Number.Shortest
import SqlGateway.Value.Text

/-! What the responses of a store say: whether a command succeeded, the
documents of a batch, and how many documents were affected. -/

namespace SqlGateway.Response

/-- Whether a success indicator indicates success, if it is a number. -/
def succeeded? : Option Value → Option Bool
  | some (.double x) => some (x.toFloat == 1.0)
  | some (.int n) => some (n == 1)
  | some (.long n) => some (n == 1)
  | _ => none

/-- A string field of a response. -/
def stringField? (response : Document) (key : String) : Option String :=
  (response.get? key).bind Value.string?

/-- The name of the failure that a response reports, or else its number. -/
def failureName (response : Document) : String :=
  match stringField? response "codeName", response.get? "code" with
  | some name, _ => name
  | none, some (.int code) => String.ofList (signedDigits code.toInt)
  | none, _ => ""

/-- Fails unless a response reports success without write errors. -/
def check (verb : String) (response : Document) : Except GatewayError Unit :=
  match succeeded? (response.get? "ok") with
  | none => .error (.executionFailed (verb ++ " response carries no success indicator"))
  | some false =>
    let reason := (stringField? response "errmsg").getD "unknown error"
    .error <| .executionFailed <|
      verb ++ " failed: " ++ reason ++ " (" ++ failureName response ++ ")"
  | some true =>
    match response.get? "writeErrors" with
    | some (.array (.document first :: more)) =>
      .error <| .executionFailed <|
        verb ++ " rejected " ++ String.ofList (digitsOf (more.length + 1)) ++ " document(s): "
          ++ (stringField? first "errmsg").getD "write error"
    | _ => .ok ()

/-- A batch of documents, and the cursor that has more; zero if there are no more. -/
structure Batch where
  id : Int
  documents : List Document

namespace Batch

/-- A failure to read a response. -/
def fault (reason : String) : GatewayError := .executionFailed reason

/-- Reads the batch under a key. -/
def read (key : String) (response : Document) : Except GatewayError Batch := do
  let cursor ← match response.get? "cursor" with
    | some (.document cursor) => .ok cursor
    | _ => .error (fault "response carries no cursor document")
  let id ← match Fields.get? cursor "id" with
    | none => .ok 0
    | some v => match v.integer? with
      | some id => .ok id
      | none => .error (fault ("cursor id has unexpected type: " ++ v.text))
  let items ← match Fields.get? cursor key with
    | some (.array items) => .ok items
    | _ => .error (fault ("cursor carries no '" ++ key ++ "' array"))
  let documents ← items.mapM fun
    | .document d => .ok d
    | other => .error (fault ("cursor entry is not a document: " ++ other.text))
  return ⟨id, documents⟩

/-- The first batch of a result. -/
def first (response : Document) : Except GatewayError Batch := read "firstBatch" response

/-- A later batch of a result. -/
def next (response : Document) : Except GatewayError Batch := read "nextBatch" response

end Batch

/-- How many documents a write has affected, if the response says so. -/
def affected? (response : Document) : Option Int64 :=
  match response.get? "n" with
  | some (.int n) => some n.toInt64
  | some (.long n) => some n
  | some (.double x) => (wholeOfDouble? x.toFloat).map Int64.ofInt
  | _ => none

/-- The different values of a column. -/
def distinctValues (response : Document) : Except GatewayError (List Value) :=
  match response.get? "values" with
  | some (.array values) => .ok values
  | _ => .error (.executionFailed "distinct response carries no 'values' array")

end SqlGateway.Response
