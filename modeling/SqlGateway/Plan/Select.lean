import SqlGateway.Filter.Lowering
import SqlGateway.Plan.Basic
import SqlGateway.Naming

/-! Plans of SELECT statements. DISTINCT takes one column; grouping and
aggregates take a pipeline with a group stage, and so does a join a pipeline
with a lookup; all else is a `find`. -/

namespace SqlGateway.Plan

variable [Host]

/-- The field of a group that keeps its first document. -/
def recordField : String := "Record"

/-! ### Joins -/

/-- The name of a kind of join as it stands in messages. -/
def joinKindText : JoinKind → String
  | .inner => "Inner"
  | .left => "Left"
  | .right => "Right"
  | .full => "Full"

/-- The only join of a SELECT. It must be inner or left and compare one pair of columns. -/
def singleJoin (s : Select) : Except GatewayError (Option Join) :=
  match s.joins with
  | [] => .ok none
  | [j] =>
    if j.relations.length ≠ 1 then
      .error <| .unsupportedJoin <|
        "join on '" ++ j.collection ++ "' must have exactly one relation, got "
          ++ String.ofList (digitsOf j.relations.length)
    else if j.kind = .right || j.kind = .full then
      .error <| .unsupportedJoin <|
        joinKindText j.kind ++ " join on '" ++ j.collection ++ "' cannot be expressed as a lookup"
    else .ok (some j)
  | js =>
    .error <| .unsupportedJoin <|
      "at most one join is supported, got " ++ String.ofList (digitsOf js.length)

/-- The stages that add to every document its partners of the joined collection, one by one. -/
def lookupStages (j : Join) : Except GatewayError (List Document) :=
  match j.relations with
  | [] => .error (.unsupportedJoin ("join on '" ++ j.collection ++ "' has no relation"))
  | r :: _ =>
    let field := joinPrefix j.collection
    let unwind : Value :=
      if j.kind = .left then
        .document [("path", .string ("$" ++ field)), ("preserveNullAndEmptyArrays", .bool true)]
      else .string ("$" ++ field)
    .ok [[("$lookup", .document
          [("from", .string j.collection), ("localField", .string r.left),
            ("foreignField", .string r.right), ("as", .string field)])],
      [("$unwind", unwind)]]

/-! ### Choice of strategy -/

/-- The columns that are not wildcards. -/
def namedColumns (s : Select) : List Column := s.columns.filter (!·.isWildcard)

/-- The only column of a DISTINCT. -/
def distinctColumn (s : Select) : Except GatewayError Column :=
  match namedColumns s with
  | [c] =>
    if !s.joins.isEmpty then .error (.unsupportedJoin "DISTINCT cannot be combined with a join")
    else if c.aggregation.isSome then
      .error (.unsupportedAggregation "DISTINCT cannot be combined with an aggregation")
    else .ok c
  | cs =>
    .error <| .unsupportedStatement <|
      "DISTINCT requires exactly one column, got " ++ String.ofList (digitsOf cs.length)

/-- The strategy of a SELECT. Every column must have a field before one is chosen. -/
def strategyOf (names : Naming) (join : Option Join) (s : Select) :
    Except GatewayError Strategy := do
  (namedColumns s).forM fun c => discard (names.field c)
  if s.distinct then
    return .distinct (← names.output (← distinctColumn s))
  else if !s.groupBy.isEmpty || !s.having.isEmpty || s.hasAggregation then return .grouping
  else if join.isSome then return .joinOnly
  else return .find

/-! ### Commands -/

/-- The stages that leave out and cut results. -/
def windowStages (l : Option Limit) : List Document :=
  match Window.ofLimit? l with
  | some w => [[("$skip", .long w.skip)], [("$limit", .long w.limit)]]
  | none => []

/-- A stage with a filter, if there is one. -/
def matchStages (filter : Option Document) : List Document :=
  match filter with
  | some f => [[("$match", .document f)]]
  | none => []

/-- A stage that orders results, if an order is asked for. -/
def sortStages (names : Naming) (s : Select) : Except GatewayError (List Document) :=
  match s.orderBy with
  | some terms => return [[("$sort", .document (← sortOf names terms))]]
  | none => .ok []

/-- The command that gives the different values of a column. -/
def distinctCommand (names : Naming) (s : Select) : Except GatewayError Command := do
  let column ← distinctColumn s
  let filter ← Filter.ofPredicates? names s.wheres
  return ((Command.of .distinct s.collection).withField "key"
    (.string (← names.field column))).withField? "query" (filter.map .document)

/-- The command that reads one collection. -/
def findCommand (names : Naming) (s : Select) : Except GatewayError Command := do
  let filter ← Filter.ofPredicates? names s.wheres
  let sort ← s.orderBy.mapM (sortOf names)
  let projection ← projectionOf names s.columns
  let window := Window.ofLimit? s.limit
  let c := (Command.of .find s.collection).withField? "filter" (filter.map .document)
  let c := c.withField "projection" (.document projection)
  let c := c.withField? "sort" (sort.map .document)
  let c := c.withField? "skip" (window.map (.long ·.skip))
  return c.withField? "limit" (window.map (.long ·.limit))

/-- The command that joins, filters, projects, orders and cuts. -/
def joinCommand (names : Naming) (j : Join) (s : Select) : Except GatewayError Command := do
  let lookup ← lookupStages j
  let filter ← Filter.ofPredicates? names s.wheres
  let projection ← projectionOf names s.columns
  let sort ← sortStages names s
  return .aggregate s.collection <|
    lookup ++ matchStages filter ++ [[("$project", .document projection)]] ++ sort
      ++ windowStages s.limit

/-! ### Grouping -/

/-- The stage that brings the greatest or least value of the first MAX or MIN column to the front,
so that the first document of a group is one that has it. -/
def extremumStages (s : Select) : List Document :=
  let isExtremum (c : Column) : Bool := c.aggregation == some .max || c.aggregation == some .min
  match s.columns.find? isExtremum with
  | some c =>
    let direction : Value := .int (if c.aggregation = some .max then -1 else 1)
    [[("$sort", .document [(c.name, direction)])]]
  | none => []

/-- The key that documents of one group share. Dots in field names become underscores. -/
def groupKey (names : Naming) (columns : List Column) : Except GatewayError Value := do
  if columns.isEmpty then return .null
  let fields ← columns.mapM fun c => do
    let field ← names.field c
    let key := String.ofList (field.toList.map fun ch => if ch = '.' then '_' else ch)
    return (key, Value.string ("$" ++ field))
  return .document (Fields.ofList fields)

/-- The fields of aggregates and their accumulators. -/
def accumulators (names : Naming) (columns : List Column) :
    Except GatewayError (List (String × Value)) :=
  (columns.filterMap fun c => c.aggregation.map (c, ·)).mapM fun (c, f) => do
    return (← names.field c, .document [(f.accumulator, .string ("$" ++ c.name))])

/-- The command that groups, takes aggregates into the first document of each group, projects,
filters, orders and cuts. -/
def groupingCommand (names : Naming) (join : Option Join) (s : Select) :
    Except GatewayError Command := do
  let lookup ← (join.map lookupStages).getD (.ok [])
  let key ← groupKey names s.groupBy
  let accumulators ← accumulators names s.columns
  let group := (Fields.setAll [("_id", key)] accumulators).set recordField
    (.document [("$first", .string "$$ROOT")])
  let aggregates := Fields.ofList (accumulators.map fun (f, _) => (f, .string ("$" ++ f)))
  let root : Document := [("newRoot", .document
    [("$mergeObjects", .array [.string ("$" ++ recordField), .document aggregates])])]
  let projection ← projectionOf names s.columns
  let filter ← Filter.ofPredicates? names (s.wheres ++ s.having)
  let sort ← sortStages names s
  return .aggregate s.collection <|
    extremumStages s ++ lookup
      ++ [[("$group", .document group)], [("$replaceRoot", .document root)],
        [("$project", .document projection)]]
      ++ matchStages filter ++ sort ++ windowStages s.limit

/-! ### Plans -/

/-- Where the types of the columns of a SELECT are looked up. -/
def probeTarget (names : Naming) (join : Option Join) (s : Select) :
    Except GatewayError ProbeTarget := do
  let columns ← (namedColumns s).mapM fun c => do
    let key ← names.output c
    if c.joinSourced then return (⟨key, c.name, true⟩ : ProbeColumn)
    else return ⟨key, stripAggregation (← names.field c), false⟩
  let once := columns.foldl (fun seen c => if seen.contains c then seen else seen ++ [c]) []
  return ⟨s.collection, once, join.map fun j => ⟨j.collection, joinPrefix j.collection⟩⟩

/-- The plan of a SELECT. -/
def ofSelect (s : Select) : Except GatewayError Plan := do
  let join ← singleJoin s
  let names := Naming.ofJoin join
  let strategy ← strategyOf names join s
  let command ← match strategy, join with
    | .distinct _, _ => distinctCommand names s
    | .find, _ => findCommand names s
    | .joinOnly, some j => joinCommand names j s
    | .joinOnly, none => .error (.unsupportedJoin "join strategy without a join")
    | .grouping, _ => groupingCommand names join s
  return {
    statement := "select"
    shape := .select strategy
    commands := [command]
    probe := some (← probeTarget names join s) }

end SqlGateway.Plan
