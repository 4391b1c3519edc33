import SqlGateway.Store.DocumentStore
import SqlGateway.Store.Retrieval

/-! A document store held in memory. A transaction keeps a snapshot of the
databases, which aborting brings back. Long results are delivered in batches
through cursors, which know nothing of later changes. -/

namespace SqlGateway

variable [Host]

/-- The documents that have still to be delivered. -/
structure OpenCursor where
  ns : String
  remaining : List Document

/-- The state of a store. -/
structure MemoryStore where
  databases : Databases := []
  /-- The databases at the start of the open transaction. -/
  snapshot : Option Databases := none
  /-- Whether a transaction is open. -/
  transactionActive : Bool := false
  /-- Whether the store is without transactions. -/
  standalone : Bool := false
  online : Bool := true
  /-- The milliseconds that a ping takes. -/
  latency : Nat := 0
  batchSize : Nat := 101
  cursors : List (Nat × OpenCursor) := []
  nextCursor : Nat := 1
  /-- The identifiers to issue, one after another. -/
  ids : Nat → ObjectId := ObjectId.numbered
  /-- How many identifiers have been issued. -/
  issued : Nat := 0
  batchSize_pos : 0 < batchSize := by decide

namespace MemoryStore

/-- A store without databases. -/
def new (standalone : Bool) : MemoryStore := { standalone }

/-- A store with a batch size of at least one. -/
def withBatchSize (s : MemoryStore) (n : Nat) : MemoryStore :=
  { s with
    batchSize := max n 1
    batchSize_pos := Nat.lt_of_lt_of_le Nat.one_pos (Nat.le_max_right n 1) }

/-- Whether a transaction is open. -/
def inTransaction (s : MemoryStore) : Bool := s.transactionActive

/-- Issues an identifier. -/
def issueId (s : MemoryStore) : ObjectId × MemoryStore :=
  (s.ids s.issued, { s with issued := s.issued + 1 })

/-! ### Cursors -/

/-- The reply with a batch of a cursor. -/
def batchReply (key : String) (batch : List Document) (id : Nat) (ns : String) : Document :=
  [("cursor", .document [(key, .array (batch.map .document)), ("id", .ofInt64 id),
    ("ns", .string ns)])]

/-- Delivers the first batch of a result; the rest waits under the next cursor. -/
def openCursor (s : MemoryStore) (r : ResultSet) : MemoryStore × Document :=
  let size := match r.batchSize with
    | some (n + 1) => n + 1
    | _ => s.batchSize
  let batch := r.documents.take size
  let rest := r.documents.drop size
  if rest.isEmpty then (s, batchReply "firstBatch" batch 0 r.ns)
  else
    ({ s with
        cursors := s.cursors ++ [(s.nextCursor, ⟨r.ns, rest⟩)]
        nextCursor := s.nextCursor + 1 },
      batchReply "firstBatch" batch s.nextCursor r.ns)

/-- The open cursor with an id. -/
def cursor? (s : MemoryStore) (id : Int) : Option (Nat × OpenCursor) :=
  s.cursors.find? fun (n, _) => (n : Int) == id

/-- The cursor and the batch size that a command asks for. -/
def moreParts (s : MemoryStore) (command : Document) :
    Except CommandFailure ((Nat × OpenCursor) × Nat) := do
  match (command.get? "getMore").bind Value.integer? with
  | none => throw (.typeMismatch "getMore requires a long cursor id")
  | some id =>
    let size := (← CommandField.count? command "batchSize").getD s.batchSize
    match s.cursor? id with
    | none => throw (.cursorNotFound id)
    | some found => return (found, size)

/-- Delivers the next batch of a cursor, which is closed with the last one. -/
def getMore (s : MemoryStore) (command : Document) : MemoryStore × Databases.Reply :=
  match s.moreParts command with
  | .error f => (s, .error f)
  | .ok ((id, c), size) =>
    let batch := c.remaining.take size
    let rest := c.remaining.drop size
    if rest.isEmpty then
      ({ s with cursors := s.cursors.filter (·.1 != id) },
        .ok (batchReply "nextBatch" batch 0 c.ns))
    else
      ({ s with
          cursors := s.cursors.map fun (n, o) => if n = id then (n, ⟨o.ns, rest⟩) else (n, o) },
        .ok (batchReply "nextBatch" batch id c.ns))

/-! ### Commands -/

/-- The state with changed databases. -/
def changed (s : MemoryStore) : Databases × Databases.Reply → MemoryStore × Databases.Reply
  | (dbs, reply) => ({ s with databases := dbs }, reply)

/-- The state with a cursor over a result. -/
def opened (s : MemoryStore) : Except CommandFailure ResultSet → MemoryStore × Databases.Reply
  | .error f => (s, .error f)
  | .ok r => ((s.openCursor r).1, .ok (s.openCursor r).2)

/-- Stores documents under identifiers that have not been issued. -/
def insert (s : MemoryStore) (database : String) (command : Document) :
    MemoryStore × Databases.Reply :=
  let count := (((command.get? "documents").bind Value.array?).getD []).length
  let ids (i : Nat) : ObjectId := s.ids (s.issued + i)
  { s with issued := s.issued + count }.changed (s.databases.insert ids database command)

/-- Runs a command by its verb. -/
def dispatch (s : MemoryStore) (database verb : String) (command : Document) :
    MemoryStore × Databases.Reply :=
  match verb with
  | "ping" => (s, .ok [])
  | "create" => s.changed (s.databases.create database command)
  | "drop" => s.changed (s.databases.drop database command)
  | "createIndexes" => s.changed (s.databases.createIndexes database command)
  | "dropIndexes" => s.changed (s.databases.dropIndexes database command)
  | "insert" => s.insert database command
  | "update" => s.changed (s.databases.update database command)
  | "delete" => s.changed (s.databases.delete database command)
  | "find" => s.opened (s.databases.find database command)
  | "aggregate" => s.opened (s.databases.aggregate database command)
  | "distinct" => (s, s.databases.distinct database command)
  | "getMore" => s.getMore command
  | other => (s, .error (.commandNotFound other))

/-- Why a store without transactions refuses. -/
def noTransactions : String :=
  "Transaction numbers are only allowed on a replica set member or mongos"

/-- The response to a command that was carried out or refused. -/
def response : Databases.Reply → Document
  | .ok reply => reply.set "ok" (.ofFloat 1.0)
  | .error f => f.toResponse

/-- Why a store that is switched off fails. -/
def offline : StoreError := .unreachable "memory store is switched offline"

/-- Runs a command. -/
def run (s : MemoryStore) (database : String) (command : Document) :
    Except StoreError Document × MemoryStore :=
  if !s.online then (.error offline, s)
  else match command with
  | [] => (.error (.malformed "empty command document"), s)
  | (verb, _) :: _ =>
    if s.standalone && s.inTransaction then
      (.ok (CommandFailure.illegalOperation noTransactions).toResponse, s)
    else
      let (s, reply) := s.dispatch database verb command
      (.ok (response reply), s)

/-- The stages that a command comes to; one that is refused comes to none. -/
def met (s : MemoryStore) (database : String) (command : Document) : List MetStage :=
  if s.online && !(s.standalone && s.inTransaction) then s.databases.met database command else []

/-- Whether a command comes back. -/
def comesBack (s : MemoryStore) (database : String) (command : Document) : Bool :=
  (s.met database command).all (·.comesBack)

/-! ### Transactions -/

/-- Opens a transaction. -/
def startTransaction (s : MemoryStore) : Except StoreError Unit × MemoryStore :=
  if !s.online then (.error offline, s)
  else if s.inTransaction then (.error (.transaction "transaction already in progress"), s)
  else (.ok (), { s with snapshot := some s.databases, transactionActive := true })

/-- Closes the open transaction and keeps its changes. -/
def commitTransaction (s : MemoryStore) : Except StoreError Unit × MemoryStore :=
  if !s.online then (.error offline, s)
  else if !s.inTransaction then (.error (.transaction "no transaction started"), s)
  else if s.standalone then (.error (.transaction noTransactions), s)
  else (.ok (), { s with snapshot := none, transactionActive := false })

/-- Closes the open transaction and brings the snapshot back. -/
def abortTransaction (s : MemoryStore) : Except StoreError Unit × MemoryStore :=
  if !s.inTransaction then (.error (.transaction "no transaction started"), s)
  else
    (.ok (), { s with
      databases := s.snapshot.getD s.databases
      snapshot := none
      transactionActive := false })

/-- Answers if it can do so in time. -/
def ping (s : MemoryStore) (timeout : Nat) : Except StoreError Unit × MemoryStore :=
  if !s.online then (.error offline, s)
  else if timeout < s.latency then (.error (.timeout timeout), s)
  else (.ok (), s)

/-- The number of documents that wait under cursors. -/
def waiting (s : MemoryStore) : Nat := s.cursors.foldl (fun n (_, c) => n + c.remaining.length) 0

/-- The store in memory. Every batch delivers a document, so no cursor needs more batches than
documents wait. -/
def store : DocumentStore MemoryStore where
  run := run
  startTransaction := startTransaction
  commitTransaction := commitTransaction
  abortTransaction := abortTransaction
  inTransaction := inTransaction
  ping := ping
  comesBack := comesBack
  patience := waiting

/-! ### Contents -/

/-- The names of the indexes of a collection. -/
def indexNames (s : MemoryStore) (database name : String) : List String :=
  ((s.databases.collection? database name).map fun c => c.indexes.map (·.name)).getD []

end MemoryStore

end SqlGateway
