import SqlGateway.Execution.Gateway
import SqlGateway.Service.Request
import SqlGateway.Text.Parts

/-! Serving requests line by line: every line that is not blank gets one line
in answer, and a request that fails does not end the service. A session comes
back if every request that it comes to does so. -/

namespace SqlGateway.Service

variable [Host]

/-- The lines of a text; a last line without an end counts too. -/
def linesOf (s : String) : List String :=
  let lines := s.toList.foldr (fun c lines =>
    if c = '\n' then [] :: lines
    else match lines with
      | [] => [[c]]
      | l :: ls => (c :: l) :: ls) [[]]
  let lines := if lines.getLast? == some [] then lines.dropLast else lines
  lines.map String.ofList

/-- The answer to a request that succeeded. -/
def success (data : Json) : String :=
  (Json.object [("status", .string "ok"), ("data", data)]).text

/-- The answer to a request that failed. -/
def failure (code message : String) : String :=
  (Json.object [("status", .string "error"), ("code", .string code),
    ("message", .string message)]).text

/-- The answer with a result or an error of the gateway. -/
def outcome : Except GatewayError Json → String
  | .ok data => success data
  | .error e => failure e.code e.text

/-- Lines with an identifier each, for the document that the line may insert. -/
def numbered (lines : List String) : List (ObjectId × String) :=
  lines.zipIdx.map fun (line, n) => (ObjectId.numbered n, line)

section

variable {σ : Type} (store : DocumentStore σ) (config : Config)

/-- Runs the request on a line; gives the answer and the state of the store that follows. There is
none for a request that does not come back. -/
def answerQuery (id : ObjectId) (line : String) (s : σ) : Option (String × σ) :=
  match Request.ofText line with
  | .error e => some (failure e.code e.message, s)
  | .ok request => do
    let autoCommit := request.autoCommit.getD config.autoCommit
    guard (Gateway.comesBack store config.database id request.tree autoCommit s)
    let (result, r) ← Gateway.execute store config.database id request.tree autoCommit s
    return (outcome (result.map fun rows => .array (rows.map Row.toJson)), r.store)

/-- Runs the requests on lines one after another, if all of them come back. -/
def serveQueries : List (ObjectId × String) → σ → Option (List String × σ)
  | [], s => some ([], s)
  | (id, line) :: rest, s =>
    if isBlankText line then serveQueries rest s
    else do
      let (answer, s) ← answerQuery store config id line s
      let (answers, s) ← serveQueries rest s
      return (answer :: answers, s)

end

/-- Explains the plan of the request on a line, which must be one whose planning comes back. -/
def answerExplain (id : ObjectId) (line : String) : String :=
  match Request.ofText line with
  | .error e => failure e.code e.message
  | .ok request => outcome ((Plan.ofTree id request.tree).map Plan.explain)

/-- Whether explaining the request on a line comes back. -/
def explainComesBack (line : String) : Bool :=
  match Request.ofText line with
  | .error _ => true
  | .ok request => request.tree.planComesBack

/-- Explains the plans of the requests on lines. -/
def serveExplain (lines : List (ObjectId × String)) : List String :=
  (lines.filter fun (_, line) => !isBlankText line).map fun (id, line) => answerExplain id line

end SqlGateway.Service

/-! ### Whether a session comes back -/

namespace SqlGateway

variable [Host] {σ : Type}

/-- A request with the identifier that it is given and the store that it finds. -/
structure MetRequest (σ : Type) where
  id : ObjectId
  tree : QueryTree
  autoCommit : Bool
  store : σ

/-- Whether a request comes back, with rows or an error. -/
def MetRequest.comesBack (store : DocumentStore σ) (config : Config) (m : MetRequest σ) : Bool :=
  Gateway.comesBack store config.database m.id m.tree m.autoCommit m.store

namespace Service

/-- The requests that a session comes to. -/
def met (store : DocumentStore σ) (config : Config) :
    List (ObjectId × String) → σ → List (MetRequest σ)
  | [], _ => []
  | (id, line) :: rest, s =>
    if isBlankText line then met store config rest s
    else match Request.ofText line with
      | .error _ => met store config rest s
      | .ok request =>
        ⟨id, request.tree, request.autoCommit.getD config.autoCommit, s⟩ ::
          match answerQuery store config id line s with
          | some (_, s) => met store config rest s
          | none => []

end Service

end SqlGateway
