import SqlGateway.Error.Gateway
import SqlGateway.Json.Reading
import SqlGateway.Query.Reading

/-! Requests: one line of JSON with a query tree. A line that is no request is refused, and so are a
configuration or an input that cannot be read. -/

namespace SqlGateway

/-- What part of the service an error concerns. -/
inductive ServiceErrorKind where
  | config
  | io
  | badRequest
  deriving DecidableEq, Repr

/-- An error of the service. -/
structure ServiceError where
  kind : ServiceErrorKind
  message : String
  deriving DecidableEq, Repr

namespace ServiceError

/-- The code of an error. -/
def code (e : ServiceError) : String :=
  match e.kind with
  | .config => "AERO_CLI_CONFIG_ERROR"
  | .io => "AERO_CLI_IO_ERROR"
  | .badRequest => "AERO_CLI_BAD_REQUEST"

/-- Code and message. -/
def text (e : ServiceError) : String := e.code ++ ": " ++ e.message

/-- A response that cannot be written as JSON. -/
def ofJsonFault (reason : String) : ServiceError := ⟨.io, "JSON error: " ++ reason⟩

/-- A configuration that cannot be used. -/
def ofGatewayError (e : GatewayError) : ServiceError := ⟨.config, e.text⟩

end ServiceError

/-- A request to run or explain a query tree. -/
structure Request where
  tree : QueryTree
  /-- Whether to commit automatically, if not as configured. -/
  autoCommit : Option Bool

namespace Request

/-- Reads a request from its JSON form. -/
def ofJson? (j : Json) : Option Request := do
  let [tree, autoCommit] ← j.fields? ["tree", "auto_commit"] | none
  return ⟨← QueryTree.ofJson? (← tree), ← Json.optional? Json.bool? autoCommit⟩

/-- Reads a request. -/
def ofText [Host] (line : String) : Except ServiceError Request :=
  match (Json.ofText? line).bind ofJson? with
  | some r => .ok r
  | none => .error ⟨.badRequest, "invalid request: " ++ Host.requestFault line⟩

end Request

end SqlGateway
