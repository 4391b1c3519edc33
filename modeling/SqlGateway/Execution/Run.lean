import SqlGateway.Execution.Phase
import SqlGateway.Execution.Response
import SqlGateway.Plan.Basic
import SqlGateway.Store.DocumentStore

/-! A run of a statement against a store: calls to the store one after another,
up to the first that fails. A run whose cursor never ends has no outcome. -/

namespace SqlGateway

/-- The state of a run. -/
structure Run (σ : Type) where
  store : σ
  progress : Progress := .start
  /-- The key that was found for the inserted document. -/
  lastInsertId : Option Int := none
  /-- Whether the run has opened a transaction that it has not committed. -/
  ownsTransaction : Bool := false

/-- A part of a run, with a result or an error. -/
abbrev Execution (σ : Type) := ExceptT GatewayError (StateT (Run σ) Option)

namespace Execution

variable {σ α : Type}

/-- Goes on to a phase. -/
def enter (p : Phase) : Execution σ Unit :=
  modify fun r => { r with progress := r.progress.enter p }

/-- Calls the store. -/
def call (f : σ → Except StoreError α × σ) : Execution σ α := do
  let r ← get
  let (answer, s) := f r.store
  set { r with store := s }
  match answer with
  | .ok a => return a
  | .error e => throw (.storeFailed e)

/-- No outcome. -/
def never : Execution σ α := ExceptT.lift (StateT.lift none)

variable (store : DocumentStore σ) (database : String)

/-- Runs a command and checks its response. -/
def respond (verb : String) (command : Document) : Execution σ Document := do
  let response ← call (store.run · database command)
  Response.check verb response
  return response

/-- Runs a planned command. -/
def dispatch (c : Command) : Execution σ Document := respond store database c.verb.name c.document

/-- The documents of a batch and of all that follow it, up to a number of further batches. -/
def drain (collection : String) : Nat → Response.Batch → Execution σ (List Document)
  | patience, batch =>
    if batch.id = 0 then return batch.documents
    else match patience with
    | 0 => never
    | patience + 1 => do
      let response ← respond store database "getMore"
        [("getMore", .ofInt64 batch.id), ("collection", .string collection)]
      return batch.documents ++ (← drain collection patience (← Response.Batch.next response))

/-- All documents that a command gives. -/
def fetch (c : Command) : Execution σ (List Document) := do
  if !c.verb.returnsCursor then
    throw (.executionFailed ("'" ++ c.verb.name ++ "' does not return a cursor"))
  let batch ← Response.Batch.first (← dispatch store database c)
  drain store database c.collection (store.patience (← get).store) batch

end Execution

end SqlGateway
