import SqlGateway.Value.Extended

/-! Commands to the store. A command is a document whose first field names the
verb and the collection. -/

namespace SqlGateway

/-- What a command does. -/
inductive Verb where
  | find | aggregate | distinct | insert | update | delete | create | drop | createIndexes
  | dropIndexes
  deriving DecidableEq, Repr

namespace Verb

/-- Every verb. -/
def all : List Verb :=
  [.find, .aggregate, .distinct, .insert, .update, .delete, .create, .drop, .createIndexes,
    .dropIndexes]

/-- The written name. -/
def name : Verb → String
  | .find => "find"
  | .aggregate => "aggregate"
  | .distinct => "distinct"
  | .insert => "insert"
  | .update => "update"
  | .delete => "delete"
  | .create => "create"
  | .drop => "drop"
  | .createIndexes => "createIndexes"
  | .dropIndexes => "dropIndexes"

/-- The verb with a written name. -/
def ofName? (s : String) : Option Verb := all.find? (·.name == s)

/-- Whether a verb changes documents. -/
def isWrite : Verb → Bool
  | .insert | .update | .delete => true
  | _ => false

/-- Whether a verb is answered with a cursor. -/
def returnsCursor : Verb → Bool
  | .find | .aggregate => true
  | _ => false

end Verb

/-- A command with its verb and collection. -/
structure Command where
  verb : Verb
  collection : String
  document : Document

namespace Command

/-- A command without further fields. -/
def of (verb : Verb) (collection : String) : Command :=
  ⟨verb, collection, [(verb.name, .string collection)]⟩

/-- Writes a field. -/
def withField (c : Command) (key : String) (v : Value) : Command :=
  { c with document := c.document.set key v }

/-- Writes a field if there is a value for it. -/
def withField? (c : Command) (key : String) (v : Option Value) : Command :=
  match v with
  | some v => c.withField key v
  | none => c

/-- Runs a pipeline of stages. -/
def aggregate (collection : String) (stages : List Document) : Command :=
  ((of .aggregate collection).withField "pipeline" (.array (stages.map .document))).withField
    "cursor" (.document [])

/-- Changes every document that satisfies a filter. -/
def updateMany (collection : String) (filter change : Document) : Command :=
  (of .update collection).withField "updates" <| .array
    [.document [("q", .document filter), ("u", .document change), ("multi", .bool true)]]

/-- Deletes every document that satisfies a filter. -/
def deleteMany (collection : String) (filter : Document) : Command :=
  (of .delete collection).withField "deletes" <| .array
    [.document [("q", .document filter), ("limit", .int 0)]]

/-- Writes a field of every document that an insert stores; gives whether there was one. -/
def setInserted (c : Command) (field : String) (v : Value) : Command × Bool :=
  match c.verb, c.document.get? "documents" with
  | .insert, some (.array items) =>
    let touched := items.any fun i => i.document?.isSome
    let items := items.map fun
      | .document d => .document (Fields.set field v d)
      | i => i
    (c.withField "documents" (.array items), touched)
  | _, _ => (c, false)

/-- The JSON text of a command. -/
def text (c : Command) : String := c.document.toJson.text

end Command

end SqlGateway
