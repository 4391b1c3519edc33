import SqlGateway.Plan.Command

/-! Plans: the commands of one statement, how their answers become rows, and
what has to be looked up before and after them. -/

namespace SqlGateway

/-- How a SELECT is answered. -/
inductive Strategy where
  /-- The different values of one column, under an output name. -/
  | distinct (output : String)
  | find
  | joinOnly
  | grouping
  deriving DecidableEq, Repr

/-- What the answer to a plan looks like. -/
inductive PlanShape where
  | select (strategy : Strategy)
  | insert
  | update
  | delete
  | definition
  deriving DecidableEq, Repr

/-- A column whose next key has to be found before the insert. -/
structure CountedColumn where
  collection : String
  column : String
  deriving DecidableEq, Repr

/-- A column whose type is looked up: under a key, in a field of one of the collections. -/
structure ProbeColumn where
  key : String
  source : String
  joined : Bool
  deriving DecidableEq, Repr

/-- The joined collection and the field that holds its documents. -/
structure JoinedCollection where
  collection : String
  field : String
  deriving DecidableEq, Repr

/-- Where the types of result columns are looked up. -/
structure ProbeTarget where
  collection : String
  columns : List ProbeColumn
  join : Option JoinedCollection
  deriving DecidableEq, Repr

/-- The plan of a statement. -/
structure Plan where
  statement : String
  shape : PlanShape
  commands : List Command
  autoIncrement : Option CountedColumn := none
  probe : Option ProbeTarget := none

namespace Plan

/-- Whether a plan reads rows. -/
def isSelect (p : Plan) : Bool :=
  match p.shape with
  | .select _ => true
  | _ => false

/-- The verbs of a plan's commands. -/
def verbs (p : Plan) : List Verb := p.commands.map (·.verb)

/-- The JSON form of a shape. -/
def shapeJson : PlanShape → Json
  | .select (.distinct output) =>
    .object [("kind", .string "select"), ("strategy", .string "distinct"),
      ("output", .string output)]
  | .select .find => .object [("kind", .string "select"), ("strategy", .string "find")]
  | .select .joinOnly => .object [("kind", .string "select"), ("strategy", .string "join_only")]
  | .select .grouping => .object [("kind", .string "select"), ("strategy", .string "grouping")]
  | .insert => .object [("kind", .string "insert")]
  | .update => .object [("kind", .string "update")]
  | .delete => .object [("kind", .string "delete")]
  | .definition => .object [("kind", .string "definition")]

/-- The JSON form of a counted column. -/
def countedJson : Option CountedColumn → Json
  | some c => .object [("collection", .string c.collection), ("column", .string c.column)]
  | none => .null

/-- The JSON form of a plan, with its commands. -/
def explain (p : Plan) : Json := .object
  [("statement", .string p.statement),
    ("shape", shapeJson p.shape),
    ("auto_increment", countedJson p.autoIncrement),
    ("commands", .array (p.commands.map (·.document.toJson)))]

end Plan

end SqlGateway
