import SqlGateway.Store.Databases
import SqlGateway.Store.Pipeline

/-! Reading collections: the documents that a command asks for, all at once. -/

namespace SqlGateway

section

variable [Host]

/-- The whole result of a command, and how many documents its first batch may hold. -/
structure ResultSet where
  ns : String
  documents : List Document
  batchSize : Option Nat

namespace Databases

/-- The documents that satisfy a filter, if there is one. -/
def filtered (docs : List Document) : Option Document → Except CommandFailure (List Document)
  | some f => Pipeline.filter docs f
  | none => .ok docs

/-- The documents of a collection that satisfy a filter, in order, without the first few, up to a
limit, and with chosen fields. -/
def find (dbs : Databases) (database : String) (command : Document) :
    Except CommandFailure ResultSet := do
  let name ← CommandField.target command "find"
  let docs ← filtered (dbs.documents database name) (← CommandField.document? command "filter")
  let docs ← match ← CommandField.document? command "sort" with
    | some order => Document.sort docs order
    | none => .ok docs
  let docs := docs.drop ((← CommandField.count? command "skip").getD 0)
  let docs := match ← CommandField.count? command "limit" with
    | some (n + 1) => docs.take (n + 1)
    | _ => docs
  let docs ← match ← CommandField.document? command "projection" with
    | some projection => docs.mapM (·.project projection)
    | none => .ok docs
  return ⟨namespaceOf database name, docs, ← CommandField.count? command "batchSize"⟩

/-- The documents at the end of a pipeline over a collection. -/
def aggregate (dbs : Databases) (database : String) (command : Document) :
    Except CommandFailure ResultSet := do
  let name ← CommandField.target command "aggregate"
  let stages ← (← CommandField.array command "pipeline").mapM fun
    | .document stage => .ok stage
    | _ => .error (.typeMismatch "pipeline stages must be objects")
  match ← CommandField.document? command "cursor" with
  | none => throw (.failedToParse "The 'cursor' option is required")
  | some options =>
    let batchSize ← CommandField.count? options "batchSize"
    let docs ← Pipeline.run (dbs.documents database) (dbs.documents database name) stages
    return ⟨namespaceOf database name, docs, batchSize⟩

/-- The values at a path of a document; an array stands for its items. -/
def valuesAt (path : String) (d : Document) : List Value :=
  match d.getPath? path with
  | some (.array items) => items
  | some v => [v]
  | none => []

/-- Values without those that equal an earlier one. -/
def distinctValues (values : List Value) : List Value :=
  values.foldl (fun seen v => if seen.any (·.equal v) then seen else seen ++ [v]) []

/-- The different values at a path of the documents that satisfy a filter. -/
def distinct (dbs : Databases) (database : String) (command : Document) : Reply := do
  let name ← CommandField.target command "distinct"
  let path ← match command.get? "key" with
    | some (.string path) => .ok path
    | _ => .error (.failedToParse "'key' must be a string")
  let docs ← filtered (dbs.documents database name) (← CommandField.document? command "query")
  return [("values", .array (distinctValues (docs.flatMap (valuesAt path))))]

end Databases

end

/-! ### Whether commands come back

A sort of more than twenty documents may give up when its comparison is no total order; fewer are
put in order by insertion. The comparison of documents is reflexive, and turns round when its sides
do, so that only transitivity can fail. -/

namespace Document

/-- Whether the comparison of documents by fields is transitive on some of them. -/
def comparesTransitively (keys : SortKeys) (docs : List Document) : Bool :=
  docs.all fun a => docs.all fun b => docs.all fun c =>
    !((orderBy keys a b).isLE && (orderBy keys b c).isLE) || (orderBy keys a c).isLE

/-- The greatest number of documents that are put in order by insertion. -/
def insertionLimit : Nat := 20

/-- Whether a sort comes back, with documents or a failure. -/
def sortComesBack (docs : List Document) (order : Document) : Bool :=
  match sortKeys order with
  | .ok keys => docs.length ≤ insertionLimit || comparesTransitively keys docs
  | .error _ => true

end Document

/-- A stage of a pipeline with the documents that it is given. -/
structure MetStage where
  documents : List Document
  name : String
  spec : Value

namespace MetStage

/-- Whether a stage comes back. Only sorts may not. -/
def comesBack (m : MetStage) : Bool :=
  match m.name, m.spec with
  | "$sort", .document order => Document.sortComesBack m.documents order
  | _, _ => true

end MetStage

variable [Host]

/-- The stages that a pipeline comes to. -/
def Pipeline.met (source : Source) (docs : List Document) : List Document → List MetStage
  | [(name, spec)] :: stages =>
    ⟨docs, name, spec⟩ ::
      match runStage source docs name spec with
      | .ok docs => met source docs stages
      | .error _ => []
  | _ => []

namespace Databases

/-- The documents that a `find` comes to sort, and the order that it asks for. -/
def sortedByFind (dbs : Databases) (database : String) (command : Document) :
    Except CommandFailure (List Document × Option Document) := do
  let name ← CommandField.target command "find"
  let docs ← filtered (dbs.documents database name) (← CommandField.document? command "filter")
  return (docs, ← CommandField.document? command "sort")

/-- The sort that a `find` comes to, if it asks for one. -/
def metByFind (dbs : Databases) (database : String) (command : Document) : List MetStage :=
  match sortedByFind dbs database command with
  | .ok (docs, some order) => [⟨docs, "$sort", .document order⟩]
  | _ => []

/-- The collection and the stages of an `aggregate`. -/
def pipelineOf (command : Document) : Except CommandFailure (String × List Document) := do
  let name ← CommandField.target command "aggregate"
  let stages ← (← CommandField.array command "pipeline").mapM fun
    | .document stage => .ok stage
    | _ => .error (.typeMismatch "pipeline stages must be objects")
  match ← CommandField.document? command "cursor" with
  | none => throw (.failedToParse "The 'cursor' option is required")
  | some options =>
    discard (CommandField.count? options "batchSize")
    return (name, stages)

/-- The stages that an `aggregate` comes to. -/
def metByAggregate (dbs : Databases) (database : String) (command : Document) : List MetStage :=
  match pipelineOf command with
  | .ok (name, stages) => Pipeline.met (dbs.documents database) (dbs.documents database name) stages
  | .error _ => []

/-- The stages that a command comes to. -/
def met (dbs : Databases) (database : String) (command : Document) : List MetStage :=
  match command with
  | ("find", _) :: _ => dbs.metByFind database command
  | ("aggregate", _) :: _ => dbs.metByAggregate database command
  | _ => []

end Databases

end SqlGateway
