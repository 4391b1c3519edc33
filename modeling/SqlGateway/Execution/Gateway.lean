import SqlGateway.Config
import SqlGateway.Execution.NextKey
import SqlGateway.Execution.Run
import SqlGateway.Execution.Typing
import SqlGateway.Plan.Tree

/-! The gateway: plans a query tree, runs the plan's commands against a store,
and gives the result as rows. With automatic commit a statement runs in a
transaction of its own, unless one is open already. Planning may go on for ever,
and so may a sort of the store. -/

namespace SqlGateway.Gateway

variable [Host]

variable {σ : Type} (store : DocumentStore σ) (database : String)

open Execution

/-- The column that tells how many documents a write has affected. -/
def affectedRows : String := "AffectedRows"

/-- The column that tells the key of an inserted document. -/
def lastInsertId : String := "LastInsertId"

/-- Stands for an unknown number of affected documents. -/
def unknownAffected : Int64 := -1

/-- The only command of a SELECT. -/
def singleCommand (p : Plan) : Except GatewayError Command :=
  match p.commands with
  | [c] => .ok c
  | cs =>
    .error <| .executionFailed <|
      "select plan must hold one command, got " ++ String.ofList (digitsOf cs.length)

/-- The next key of a counted column. -/
def sampleNextKey (c : CountedColumn) : Execution σ Int := do
  let plan ← Plan.ofSelect (NextKey.query c)
  let docs ← fetch store database (← singleCommand plan)
  NextKey.following c.column docs.head?

/-- The rows of a SELECT. -/
def runSelect (p : Plan) : Strategy → Execution σ (List Row)
  | .distinct output => do
    let response ← dispatch store database (← singleCommand p)
    enter .rowDecode
    (← Response.distinctValues response).mapM fun v => do
      return [(output, ← Cell.decode output (.ofValue v) v)]
  | _ => do
    match ← fetch store database (← singleCommand p) with
    | [] => return []
    | sample :: docs =>
      enter .typeInference
      match p.probe with
      | none => throw (.missingMetadata "select plan carries no type probe target")
      | some target =>
        let types ← Typing.infer (fetch store database) target sample
        enter .rowDecode
        Row.ofDocuments types (target.join.map (·.field)) (sample :: docs)

/-- Runs commands and adds up the documents that the writes among them have affected. -/
def runCommands (affected : Int64) : List Command → Execution σ Int64
  | [] => return affected
  | c :: cs => do
    let response ← dispatch store database c
    let affected :=
      if !c.verb.isWrite || affected == unknownAffected then affected
      else match Response.affected? response with
        | some n => affected + n
        | none => unknownAffected
    runCommands affected cs

/-- The row of a statement that writes. -/
def runWrites (p : Plan) : Execution σ Row := do
  let affected ← runCommands store database 0 p.commands
  let row : Row := [(affectedRows, .long affected)]
  if p.shape = .insert then
    let key := (← get).lastInsertId.getD 0
    return row ++ [(lastInsertId, .long (Int64.ofInt key))]
  else return row

/-- A plan whose inserted documents have their keys. -/
def withKey (p : Plan) : Execution σ Plan :=
  match p.autoIncrement with
  | none => return p
  | some c => do
    enter .autoIncrementProbe
    let key ← sampleNextKey store database c
    modify fun r => { r with lastInsertId := some key }
    let number (command : Command) : Command := (command.setInserted c.column (.ofInt64 key)).1
    return { p with commands := p.commands.map number }

/-- Opens a transaction unless one is open. -/
def openTransaction : Execution σ Unit := do
  if !store.inTransaction (← get).store then
    enter .transactionStart
    call store.startTransaction
    modify fun r => { r with ownsTransaction := true }

/-- Commits the transaction that the run has opened. -/
def closeTransaction : Execution σ Unit := do
  if (← get).ownsTransaction then
    enter .commit
    call store.commitTransaction
    modify fun r => { r with ownsTransaction := false }

/-- Plans and runs the statement of a tree. An inserted document is given the identifier `id`. -/
def runTree (id : ObjectId) (t : QueryTree) (autoCommit : Bool) : Execution σ (List Row) := do
  enter .planning
  let plan ← withKey store database (← Plan.ofTree id t)
  if autoCommit then openTransaction store
  enter .executing
  let rows ← match plan.shape with
    | .select strategy => runSelect store database plan strategy
    | _ => (fun row => [row]) <$> runWrites store database plan
  closeTransaction store
  return rows

/-- Ends a run: a transaction that a failed run has left open is aborted. -/
def settle (failed : Bool) (r : Run σ) : Run σ :=
  let r :=
    if failed && r.ownsTransaction && store.inTransaction r.store then
      { r with
        store := (store.abortTransaction r.store).2
        progress := r.progress.enter .rollback }
    else r
  { r with progress := r.progress.enter .idle }

/-- Runs the statement of a tree from a state of the store: its rows or its error, and the state of
the run at the end. -/
def execute (id : ObjectId) (t : QueryTree) (autoCommit : Bool) (s : σ) :
    Option (Except GatewayError (List Row) × Run σ) := do
  let (result, r) ← (runTree store database id t autoCommit).run.run { store := s }
  let failed := match result with
    | .error _ => true
    | .ok _ => false
  return (result, settle store failed r)

/-- A call to the store on behalf of the caller. -/
def request {α : Type} (f : σ → Except StoreError α × σ) (s : σ) : Except GatewayError α × σ :=
  let (answer, s) := f s
  (answer.mapError .storeFailed, s)

/-- Whether the store answers in time. -/
def testConnection (timeout : Nat) (s : σ) : Bool × σ :=
  let (answer, s) := store.ping s timeout
  (answer.isOk, s)

/-! ### Whether a statement comes back

The probes for types sort nothing, so that only the first reading command of a run is asked. -/

/-- The commands that ask for the next key of a counted column. -/
def keyCommands (c : CountedColumn) : List Command :=
  match Plan.ofSelect (NextKey.query c) with
  | .ok p => p.commands
  | .error _ => []

/-- The state in which the commands of a plan are run. -/
def opened (autoCommit : Bool) (s : σ) : σ :=
  if autoCommit && !store.inTransaction s then (store.startTransaction s).2 else s

/-- Whether the commands of a plan come back, or that for its key if it needs one. -/
def commandsComeBack (p : Plan) (autoCommit : Bool) (s : σ) : Bool :=
  match p.autoIncrement with
  | some c => (keyCommands c).all fun command => store.comesBack s database command.document
  | none => p.commands.all fun c => store.comesBack (opened store autoCommit s) database c.document

/-- Whether a statement comes back, with rows or an error. -/
def comesBack (id : ObjectId) (t : QueryTree) (autoCommit : Bool) (s : σ) : Bool :=
  t.planComesBack &&
    match Plan.ofTree id t with
    | .ok p => commandsComeBack store database p autoCommit s
    | .error _ => true

end SqlGateway.Gateway
