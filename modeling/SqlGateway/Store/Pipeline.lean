import SqlGateway.Store.Grouping
import SqlGateway.Store.Matching
import SqlGateway.Store.Selection

/-! Pipelines: stages that each take a list of documents to another one. -/

namespace SqlGateway.Pipeline

variable [Host]

/-- The documents after a stage. -/
abbrev Staged := Except CommandFailure (List Document)

/-- The documents of the collections that a stage may look into. -/
abbrev Source := String → List Document

/-! ### Arguments of stages -/

/-- The document that a stage takes. -/
def documentOf (stage : String) : Value → Except CommandFailure Document
  | .document d => .ok d
  | _ => .error (.failedToParse (stage ++ " specification must be an object"))

/-- The count that a stage takes. -/
def countOf (stage : String) (v : Value) : Except CommandFailure Nat :=
  let whole : Option Int := match v with
    | .int n => some n.toInt
    | .long n => some n.toInt
    | .double x => wholeOfDouble? x.toFloat
    | _ => none
  match whole with
  | none => .error (.failedToParse (stage ++ " must be an integer"))
  | some n =>
    if n < 0 then .error (.badValue (stage ++ " must be non-negative")) else .ok n.toNat

/-- A string field of a document. -/
def stringField? (d : Document) (key : String) : Option String := (d.get? key).bind Value.string?

/-! ### Stages -/

/-- The documents that satisfy a filter. -/
def filter (docs : List Document) (f : Document) : Staged := docs.filterM (·.matches f)

/-- Whether the key of a document equals that of another one; an array has every item as a key. -/
def keysMeet (near far : Value) : Bool :=
  match near with
  | .array items => items.any (·.equal far)
  | v => v.equal far

/-- Adds to every document the list of its partners in a collection. -/
def lookup (source : Source) (docs : List Document) (spec : Document) : Staged := do
  let field (name : String) : Except CommandFailure String :=
    match stringField? spec name with
    | some s => .ok s
    | none => .error (.failedToParse ("$lookup argument '" ++ name ++ "' must be a string"))
  let others := source (← field "from")
  let near ← field "localField"
  let far ← field "foreignField"
  let target ← field "as"
  return docs.map fun d =>
    let key := (d.getPath? near).getD .null
    let partners := others.filter fun o => keysMeet key ((o.getPath? far).getD .null)
    d.setPath target (.array (partners.map .document))

/-- The field that a stage takes apart, and whether documents without items are kept. -/
def unwindField : Value → Except CommandFailure (String × Bool)
  | .string s => named s false
  | .document d =>
    match stringField? d "path" with
    | none => .error (.failedToParse "$unwind requires a 'path' option")
    | some s =>
      match Fields.get? d "preserveNullAndEmptyArrays" with
      | some (.bool b) => named s b
      | _ => named s false
  | _ => .error (.failedToParse "$unwind requires a string or object argument")
where
  named (s : String) (preserve : Bool) : Except CommandFailure (String × Bool) :=
    match s.toList with
    | '$' :: field => .ok (String.ofList field, preserve)
    | _ =>
      .error (.failedToParse "path option to $unwind stage should be prefixed with a '$'")

/-- The copies of a document with one item each. -/
def unwindOne (field : String) (preserve : Bool) (d : Document) : List Document :=
  match d.getPath? field with
  | some (.array []) => if preserve then [(d.removePath field).1] else []
  | some (.array items) => items.map (d.setPath field)
  | none | some .null => if preserve then [d] else []
  | some _ => [d]

/-- Takes the array in a field apart. -/
def unwind (docs : List Document) (spec : Value) : Staged := do
  let (field, preserve) ← unwindField spec
  return docs.flatMap (unwindOne field preserve)

/-- Puts a computed document in place of each document. -/
def replaceRoot (docs : List Document) (spec : Document) : Staged :=
  match spec.get? "newRoot" with
  | none => .error (.failedToParse "no newRoot specified for the $replaceRoot stage")
  | some e => docs.mapM fun d => do
    match ← Expression.evaluate d e with
    | some (.document root) => return root
    | _ => throw ⟨40228, "Location40228", "'newRoot' expression must evaluate to an object"⟩

/-- The number of documents in a field of its own, if there are any. -/
def count (docs : List Document) : Value → Staged
  | .string field =>
    if docs.isEmpty then .ok [] else .ok [[(field, .ofInt32 docs.length)]]
  | _ => .error (.failedToParse "the count field must be a non-empty string")

/-- Runs one stage. -/
def runStage (source : Source) (docs : List Document) (name : String) (spec : Value) : Staged :=
  match name with
  | "$match" => do filter docs (← documentOf name spec)
  | "$project" => do
    let spec ← documentOf name spec
    docs.mapM (·.project spec)
  | "$sort" => do Document.sort docs (← documentOf name spec)
  | "$skip" => return docs.drop (← countOf name spec)
  | "$limit" => do
    let n ← countOf name spec
    if n = 0 then throw (.badValue "the limit must be positive") else return docs.take n
  | "$lookup" => do lookup source docs (← documentOf name spec)
  | "$unwind" => unwind docs spec
  | "$group" => do Group.collect docs (← documentOf name spec)
  | "$replaceRoot" => do replaceRoot docs (← documentOf name spec)
  | "$count" => count docs spec
  | other =>
    .error (.invalidPipelineOperator ("Unrecognized pipeline stage name: '" ++ other ++ "'"))

/-- Runs stages one after another. -/
def run (source : Source) (docs : List Document) : List Document → Staged
  | [] => .ok docs
  | [(name, spec)] :: stages => do run source (← runStage source docs name spec) stages
  | _ :: _ =>
    .error (.failedToParse
      "a pipeline stage specification object must contain exactly one field")

end SqlGateway.Pipeline
