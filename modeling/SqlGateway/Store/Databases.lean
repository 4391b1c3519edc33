import SqlGateway.Store.Collection

/-! Databases: tables of collections by name, in the order of the names. A
collection comes into being with the first document or index that is stored in
it. -/

namespace SqlGateway

/-! ### Tables -/

/-- Entries in the order of their names. -/
abbrev Table (α : Type) := List (String × α)

namespace Table

variable {α : Type}

/-- The entry of a name. -/
def get? (t : Table α) (name : String) : Option α := t.lookup name

/-- Puts an entry in its place; an old one of the name is replaced. -/
def put (name : String) (a : α) : Table α → Table α
  | [] => [(name, a)]
  | (n, b) :: t =>
    if n = name then (n, a) :: t
    else if name < n then (name, a) :: (n, b) :: t
    else (n, b) :: put name a t

/-- Removes the entry of a name. -/
def remove (t : Table α) (name : String) : Table α := t.filter (·.1 != name)

/-- The names of the entries. -/
def names (t : Table α) : List String := t.map (·.1)

end Table

/-! ### Databases -/

/-- Collections by database and name. -/
abbrev Databases := Table (Table Collection)

namespace Databases

/-- The collections of a database. -/
def collections (dbs : Databases) (database : String) : Table Collection :=
  (Table.get? dbs database).getD []

/-- A collection of a database. -/
def collection? (dbs : Databases) (database name : String) : Option Collection :=
  Table.get? (dbs.collections database) name

/-- The documents of a collection; there are none in one that does not exist. -/
def documents (dbs : Databases) (database name : String) : List Document :=
  ((dbs.collection? database name).map (·.documents)).getD []

/-- Puts a collection in its place. -/
def putCollection (dbs : Databases) (database name : String) (c : Collection) : Databases :=
  Table.put database (Table.put name c (dbs.collections database)) dbs

/-- Removes a collection. -/
def dropCollection (dbs : Databases) (database name : String) : Databases :=
  Table.put database (Table.remove (dbs.collections database) name) dbs

/-! ### Commands that change collections -/

/-- The name of a collection with its database. -/
def namespaceOf (database name : String) : String := database ++ "." ++ name

/-- The answer to a command, or why it was refused. -/
abbrev Reply := Except CommandFailure Document

/-- Creates a collection, which must not exist. -/
def create (dbs : Databases) (database : String) (command : Document) : Databases × Reply :=
  match CommandField.target command "create" with
  | .error f => (dbs, .error f)
  | .ok name =>
    match dbs.collection? database name with
    | some _ =>
      (dbs, .error (.namespaceExists
        ("Collection " ++ namespaceOf database name ++ " already exists.")))
    | none => (dbs.putCollection database name .new, .ok [])

/-- Removes a collection with its documents and indexes. -/
def drop (dbs : Databases) (database : String) (command : Document) : Databases × Reply :=
  match CommandField.target command "drop" with
  | .error f => (dbs, .error f)
  | .ok name =>
    let reply : Document := [("ns", .string (namespaceOf database name))]
    match dbs.collection? database name with
    | some c =>
      (dbs.dropCollection database name,
        .ok (reply ++ [("nIndexesWas", .ofInt32 c.indexes.length)]))
    | none => (dbs, .ok reply)

/-- Adds indexes to a collection, which is created if need be. -/
def createIndexes (dbs : Databases) (database : String) (command : Document) :
    Databases × Reply :=
  let parts : Except CommandFailure (String × List Value) := do
    let name ← CommandField.target command "createIndexes"
    return (name, ← CommandField.array command "indexes")
  match parts with
  | .error f => (dbs, .error f)
  | .ok (name, specs) =>
    let found := dbs.collection? database name
    let c := found.getD .new
    let (after, added) := c.addIndexes (namespaceOf database name) specs
    (dbs.putCollection database name after, do
      added
      return [("createdCollectionAutomatically", .bool found.isNone),
        ("numIndexesBefore", .ofInt32 c.indexes.length),
        ("numIndexesAfter", .ofInt32 after.indexes.length)])

/-- Drops indexes of a collection, which must exist. -/
def dropIndexes (dbs : Databases) (database : String) (command : Document) : Databases × Reply :=
  let dropped : Except CommandFailure (String × Collection × Collection) := do
    let name ← CommandField.target command "dropIndexes"
    match dbs.collection? database name with
    | none => throw (.namespaceNotFound ("ns not found " ++ namespaceOf database name))
    | some c => return (name, c, ← c.dropIndexes (command.get? "index"))
  match dropped with
  | .error f => (dbs, .error f)
  | .ok (name, before, after) =>
    (dbs.putCollection database name after,
      .ok [("nIndexesWas", .ofInt32 before.indexes.length)])

/-! ### Commands that change documents -/

/-- A document with an identifier; a new one stands first. -/
def withIdentity (id : ObjectId) (d : Document) : Document :=
  if d.has "_id" then d else ("_id", .objectId id) :: d

/-- The documents of an insert, each with an identifier. -/
def identified (ids : Nat → ObjectId) (items : List Value) : List (Option Document) :=
  items.zipIdx.map fun (v, i) => v.document?.map (withIdentity (ids i))

/-- A reply with the errors of single writes, if there are any. -/
def withWriteErrors (reply : Document) (w : Collection.Written) : Document :=
  if w.errors.isEmpty then reply else reply ++ [("writeErrors", .array w.errors)]

/-- Stores documents in a collection, which is created if need be. -/
def insert (dbs : Databases) (ids : Nat → ObjectId) (database : String) (command : Document) :
    Databases × Reply :=
  let parts : Except CommandFailure (String × List Value) := do
    let name ← CommandField.target command "insert"
    return (name, ← CommandField.array command "documents")
  match parts with
  | .error f => (dbs, .error f)
  | .ok (name, items) =>
    let ordered := match command.get? "ordered" with
      | some (.bool b) => b
      | _ => true
    let c := (dbs.collection? database name).getD .new
    let (after, written) :=
      c.insert (namespaceOf database name) ordered .none 0 (identified ids items)
    (dbs.putCollection database name after, do
      let w ← written
      return withWriteErrors [("n", .ofInt32 w.count)] w)

/-- Changes documents of a collection; nothing happens to one that does not exist. -/
def update [Host] (dbs : Databases) (database : String) (command : Document) : Databases × Reply :=
  let parts : Except CommandFailure (String × List Value) := do
    let name ← CommandField.target command "update"
    return (name, ← CommandField.array command "updates")
  match parts with
  | .error f => (dbs, .error f)
  | .ok (name, statements) =>
    let reply (w : Collection.Written) : Document :=
      withWriteErrors [("n", .ofInt32 w.count), ("nModified", .ofInt32 w.modified)] w
    match dbs.collection? database name with
    | none => (dbs, .ok (reply .none))
    | some c =>
      let (after, written) := c.update (namespaceOf database name) .none 0 statements
      (dbs.putCollection database name after, written.map reply)

/-- Deletes documents of a collection; nothing happens to one that does not exist. -/
def delete [Host] (dbs : Databases) (database : String) (command : Document) : Databases × Reply :=
  let parts : Except CommandFailure (String × List Value) := do
    let name ← CommandField.target command "delete"
    return (name, ← CommandField.array command "deletes")
  match parts with
  | .error f => (dbs, .error f)
  | .ok (name, statements) =>
    match dbs.collection? database name with
    | none => (dbs, .ok [("n", .int 0)])
    | some c =>
      let (after, removed) := c.delete 0 statements
      (dbs.putCollection database name after, removed.map fun n => [("n", .ofInt32 n)])

end Databases

end SqlGateway
