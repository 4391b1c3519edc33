import SqlGateway.Plan.Basic
import SqlGateway.Naming
import SqlGateway.Row.Decoding

/-! The types of result columns. They are those of the first stored document,
which is asked for the type of every column's field; a column that it lacks is
missing. -/

namespace SqlGateway.Typing

/-- The field of a type in the answer to a probe. -/
def probeKey (source : String) : String :=
  String.ofList (source.toList.map fun c => if c = '.' then '_' else c) ++ "Type"

/-- Asks for the types of fields of a collection's first document. -/
def probe (collection : String) (sources : List String) : Command :=
  let types := sources.map fun s => (probeKey s, Value.document [("$type", .string ("$" ++ s))])
  Command.aggregate collection
    [[("$skip", .int 0)], [("$limit", .int 1)],
      [("$project", .document ((Fields.ofList types).set idField (.int 0)))]]

/-- The columns that the fields of a result document are. -/
def documentColumns (joined : Option String) (d : Document) : List ProbeColumn :=
  d.flatMap fun (key, v) =>
    if key = idField then []
    else match v with
    | .document fields =>
      if joined = some key then
        ((Fields.keys fields).filter (· ≠ idField)).map fun sub => ⟨key ++ "." ++ sub, sub, true⟩
      else [⟨key, stripAggregation key, false⟩]
    | _ => [⟨key, stripAggregation key, false⟩]

/-- The columns of a plan, and those columns of a result document that it does not name. -/
def probedColumns (t : ProbeTarget) (sample : Document) : List ProbeColumn :=
  (documentColumns (t.join.map (·.field)) sample).foldl
    (fun cs c => if cs.any (·.key == c.key) then cs else cs ++ [c]) t.columns

/-- Texts without repetitions, each in its first place. -/
def withoutRepeats (ss : List String) : List String :=
  ss.foldl (fun seen s => if seen.contains s then seen else seen ++ [s]) []

/-- Takes the types of columns from the answer to a probe. -/
def readProbe (collection : String) (answer : Document) (types : TypeMap) (cs : List ProbeColumn) :
    Except GatewayError TypeMap :=
  cs.foldlM (fun types c =>
    match (answer.get? (probeKey c.source)).bind Value.string? with
    | some name => .ok (types.set c.key (.ofName name))
    | none =>
      .error <| .missingMetadata <|
        "type probe of '" ++ collection ++ "' has no entry for '" ++ c.source ++ "'") types

section

variable {m : Type → Type} [Monad m] (run : Command → ExceptT GatewayError m (List Document))

/-- Looks up the types of columns in a collection. If it has no document, the columns are missing
in a joined collection and there is no result otherwise. -/
def ofCollection (collection : String) (isJoined : Bool) (types : TypeMap) (cs : List ProbeColumn) :
    ExceptT GatewayError m TypeMap :=
  if cs.isEmpty then return types
  else do
    match ← run (probe collection (withoutRepeats (cs.map (·.source)))) with
    | answer :: _ => readProbe collection answer types cs
    | [] =>
      if isJoined then return cs.foldl (fun types c => types.set c.key .missing) types
      else
        throw <| .missingMetadata <|
          "type probe of '" ++ collection ++ "' returned no document"

/-- The types of the columns of a result whose first document is given. -/
def infer (t : ProbeTarget) (sample : Document) : ExceptT GatewayError m TypeMap := do
  let (joined, base) := (probedColumns t sample).partition (·.joined)
  let types ← ofCollection run t.collection false [] base
  match t.join with
  | some j => ofCollection run j.collection true types joined
  | none => return types

end

end SqlGateway.Typing
