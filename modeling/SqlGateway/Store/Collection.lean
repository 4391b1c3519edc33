import SqlGateway.Error.Store
import SqlGateway.Store.CommandField
import SqlGateway.Store.Matching
import SqlGateway.Store.Update
import SqlGateway.Value.Text

/-! Collections: documents in the order in which they were stored, and the
indexes over them. A unique index refuses a document whose key another document
has. An operation that fails part of the way leaves what it has done so far. -/

namespace SqlGateway

variable [Host]

/-- The index that every collection has. -/
def identityIndexName : String := "_id_"

/-- An index on fields. -/
structure Index where
  name : String
  /-- The fields with their directions. -/
  key : Document
  unique : Bool

namespace Index

/-- The unique index on the identifier. -/
def identity : Index := ⟨identityIndexName, [("_id", .int 1)], true⟩

/-- The fields of an index. -/
def fields (i : Index) : List String := i.key.keys

/-- The key of a document; a missing field counts as null. -/
def keyOf (i : Index) (d : Document) : List Value :=
  i.fields.map fun f => (d.getPath? f).getD .null

/-- Whether two keys are equal field by field. -/
def keysEqual (a b : List Value) : Bool := (a.zip b).all fun (x, y) => x.equal y

/-- The text of a key with its fields. -/
def keyText (i : Index) (key : List Value) : String :=
  let entries := (i.fields.zip key).map fun (field, v) => field ++ ": " ++ v.text
  "\x7b " ++ String.intercalate ", " entries ++ " \x7d"

/-- Whether an index has a given key; the order of the fields does not count. -/
def hasKey (i : Index) (key : Document) : Bool := (Value.document i.key).same (.document key)

/-- Another document has the key of an index. -/
def duplicate (ns : String) (i : Index) (key : List Value) : CommandFailure :=
  .duplicateKey <|
    "E11000 duplicate key error collection: " ++ ns ++ " index: " ++ i.name ++ " dup key: "
      ++ i.keyText key

/-- Reads the specification of an index. -/
def ofSpec : Value → Except CommandFailure Index
  | .document spec => do
    let key ← match Fields.get? spec "key" with
      | some (.document key) => .ok key
      | _ => .error (.failedToParse "index specification needs a 'key' object")
    if key.isEmpty then throw (.badValue "index key pattern cannot be empty")
    let name ← match Fields.get? spec "name" with
      | some (.string name) => .ok name
      | _ => .error (.failedToParse "index specification needs a 'name'")
    let unique := match Fields.get? spec "unique" with
      | some (.bool b) => b
      | _ => false
    return ⟨name, key, unique⟩
  | _ => .error (.typeMismatch "index specifications must be objects")

end Index

/-- Documents in the order in which they were stored, and indexes. -/
structure Collection where
  documents : List Document
  indexes : List Index

namespace Collection

/-- A collection without documents. -/
def new : Collection := ⟨[], [.identity]⟩

/-- The first unique index by which some document has the key of a candidate. -/
def clash? (indexes : List Index) (others : List Document) (d : Document) : Option Index :=
  indexes.find? fun i =>
    i.unique && others.any fun o => Index.keysEqual (i.keyOf o) (i.keyOf d)

/-- The failure of a document that clashes with other documents. -/
def violation? (indexes : List Index) (ns : String) (others : List Document) (d : Document) :
    Option CommandFailure :=
  (clash? indexes others d).map fun i => i.duplicate ns (i.keyOf d)

/-! ### Indexes -/

/-- Another index has the name of a new one. -/
def specsConflict (name : String) : CommandFailure :=
  ⟨86, "IndexKeySpecsConflict",
    "An existing index has the same name as the requested index: " ++ name⟩

/-- The failure of the first document that clashes with one before it under a new index. -/
def indexViolation? (ns : String) (i : Index) : List Document → List Document →
    Option CommandFailure
  | _, [] => none
  | before, d :: rest =>
    match violation? [i] ns before d with
    | some f => some f
    | none => indexViolation? ns i (before ++ [d]) rest

/-- Adds an index; one that exists already is left as it is. -/
def addIndex (ns : String) (c : Collection) (i : Index) : Except CommandFailure Collection :=
  match c.indexes.find? (·.name == i.name) with
  | some old =>
    if old.hasKey i.key && old.unique == i.unique then .ok c else .error (specsConflict i.name)
  | none =>
    match if i.unique then indexViolation? ns i [] c.documents else none with
    | some f => .error f
    | none => .ok { c with indexes := c.indexes ++ [i] }

/-- Adds indexes one after another, up to the first that fails. -/
def addIndexes (ns : String) (c : Collection) : List Value → Collection × Except CommandFailure Unit
  | [] => (c, .ok ())
  | spec :: specs =>
    match (do addIndex ns c (← Index.ofSpec spec) : Except CommandFailure Collection) with
    | .ok c => addIndexes ns c specs
    | .error f => (c, .error f)

/-- The names of the indexes to drop. -/
def namesToDrop (c : Collection) : Option Value → Except CommandFailure (List String)
  | some (.string s) =>
    if s = "*" then .ok ((c.indexes.map (·.name)).filter (· != identityIndexName)) else .ok [s]
  | some (.array names) => names.mapM fun
    | .string s => .ok s
    | _ => .error (.typeMismatch "index names must be strings")
  | some (.document key) =>
    match c.indexes.find? (·.hasKey key) with
    | some i => .ok [i.name]
    | none =>
      .error (.indexNotFound ("can't find index with key: " ++ Document.text key))
  | _ => .error (.failedToParse "'index' must be a string, array or object")

/-- Drops indexes, all or none. -/
def dropIndexes (c : Collection) (selector : Option Value) : Except CommandFailure Collection := do
  let names ← c.namesToDrop selector
  names.forM fun name => do
    if name = identityIndexName then throw ⟨72, "InvalidOptions", "cannot drop _id index"⟩
    if !c.indexes.any (·.name == name) then
      throw (.indexNotFound ("index not found with name [" ++ name ++ "]"))
  return { c with indexes := c.indexes.filter fun i => !names.contains i.name }

/-! ### Documents -/

/-- What a list of writes has done: how many, and the failures of single documents. -/
structure Written where
  count : Nat
  modified : Nat
  errors : List Value

/-- Nothing written. -/
def Written.none : Written := ⟨0, 0, []⟩

/-- Stores documents one after another. A document that clashes is refused; if the order counts, the
rest is refused with it. -/
def insert (ns : String) (ordered : Bool) (c : Collection) (w : Written) (position : Nat) :
    List (Option Document) → Collection × Except CommandFailure Written
  | [] => (c, .ok w)
  | none :: _ => (c, .error (.typeMismatch "documents must be objects"))
  | some d :: rest =>
    match violation? c.indexes ns c.documents d with
    | some f =>
      let w := { w with errors := w.errors ++ [.document (f.toWriteError position)] }
      if ordered then (c, .ok w) else insert ns ordered c w (position + 1) rest
    | none =>
      insert ns ordered { c with documents := c.documents ++ [d] } { w with count := w.count + 1 }
        (position + 1) rest

/-- The positions of the documents that satisfy a filter: all, or the first. -/
def positions (filter : Document) (multi : Bool) (start : Nat) :
    List Document → Except CommandFailure (List Nat)
  | [] => .ok []
  | d :: ds => do
    if ← d.matches filter then
      if multi then return start :: (← positions filter multi (start + 1) ds) else return [start]
    else positions filter multi (start + 1) ds

/-- Changes the document at a position. -/
def changeAt (ns : String) (change : Document) (c : Collection) (i : Nat) :
    Except CommandFailure (Except CommandFailure (Collection × Bool)) := do
  let d := c.documents.getD i []
  let (next, changed) ← Update.apply d change
  match violation? c.indexes ns (c.documents.eraseIdx i) next with
  | some f => return .error f
  | none => return .ok ({ c with documents := c.documents.set i next }, changed)

/-- Changes the documents at positions, up to the first that cannot be changed; `true` with the
result when a clash ended it. -/
def changeAll (ns : String) (statement : Nat) (change : Document) (c : Collection) (w : Written) :
    List Nat → Collection × Except CommandFailure (Written × Bool)
  | [] => (c, .ok (w, false))
  | i :: is =>
    match changeAt ns change c i with
    | .error f => (c, .error f)
    | .ok (.error f) =>
      (c, .ok ({ w with errors := w.errors ++ [.document (f.toWriteError statement)] }, true))
    | .ok (.ok (c, changed)) =>
      changeAll ns statement change c
        { w with count := w.count + 1, modified := w.modified + (if changed then 1 else 0) } is

/-- The filter, the change and the reach of an update statement. -/
def updateParts : Value → Except CommandFailure (Document × Document × Bool)
  | .document s => do
    let filter ← match Fields.get? s "q" with
      | some (.document q) => .ok q
      | _ => .error (.failedToParse "update statement needs a 'q' document")
    let change ← match Fields.get? s "u" with
      | some (.document u) => .ok u
      | _ => .error (.failedToParse "update statement needs a 'u' document")
    let multi := match Fields.get? s "multi" with
      | some (.bool b) => b
      | _ => false
    return (filter, change, multi)
  | _ => .error (.typeMismatch "update statements must be objects")

/-- Runs update statements one after another, up to the first clash. -/
def update (ns : String) (c : Collection) (w : Written) (position : Nat) :
    List Value → Collection × Except CommandFailure Written
  | [] => (c, .ok w)
  | s :: ss =>
    let targets : Except CommandFailure (Document × List Nat) := do
      let (filter, change, multi) ← updateParts s
      return (change, ← positions filter multi 0 c.documents)
    match targets with
    | .error f => (c, .error f)
    | .ok (change, targets) =>
      match changeAll ns position change c w targets with
      | (c, .error f) => (c, .error f)
      | (c, .ok (w, true)) => (c, .ok w)
      | (c, .ok (w, false)) => update ns c w (position + 1) ss

/-! ### Deleting -/

/-- The documents that do not satisfy a filter, and how many do; at most one is taken out if
`single` holds. -/
def reject (filter : Document) (single : Bool) (removed : Nat) :
    List Document → Except CommandFailure (List Document × Nat)
  | [] => .ok ([], removed)
  | d :: ds => do
    if (!single || removed = 0) && (← satisfiesUnlessDone d) then
      reject filter single (removed + 1) ds
    else
      let (kept, removed) ← reject filter single removed ds
      return (d :: kept, removed)
where
  satisfiesUnlessDone (d : Document) : Verdict :=
    if !single || removed = 0 then d.matches filter else .ok false

/-- The filter of a delete statement, and whether it takes out at most one document. -/
def deleteParts : Value → Except CommandFailure (Document × Bool)
  | .document s => do
    let filter ← match Fields.get? s "q" with
      | some (.document q) => .ok q
      | _ => .error (.failedToParse "delete statement needs a 'q' document")
    return (filter, (← CommandField.count? s "limit") == some 1)
  | _ => .error (.typeMismatch "delete statements must be objects")

/-- Runs delete statements one after another. A filter that cannot be evaluated takes every
document with it. -/
def delete (c : Collection) (removed : Nat) : List Value → Collection × Except CommandFailure Nat
  | [] => (c, .ok removed)
  | s :: ss =>
    match deleteParts s with
    | .error f => (c, .error f)
    | .ok (filter, single) =>
      match reject filter single 0 c.documents with
      | .error f => ({ c with documents := [] }, .error f)
      | .ok (kept, n) => delete { c with documents := kept } (removed + n) ss

end Collection

end SqlGateway
