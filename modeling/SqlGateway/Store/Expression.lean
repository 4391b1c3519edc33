import SqlGateway.Error.Store
import SqlGateway.Value.Path
import SqlGateway.Value.TypeTag

/-! Expressions over a document: field paths, the document itself, and a few
operators. A missing field has no value. -/

namespace SqlGateway

/-- The value of an expression, if it has one. -/
abbrev Evaluated := Except CommandFailure (Option Value)

namespace Expression

/-- The variable that stands for the whole document. -/
def rootVariable : String := "$$ROOT"

/-- The text after a given beginning. -/
def after? (beginning s : String) : Option String :=
  if beginning.toList.isPrefixOf s.toList then
    some (String.ofList (s.toList.drop beginning.length))
  else none

/-- The value of a string: a variable, a field path or the string itself. -/
def ofString (root : Document) (s : String) : Evaluated :=
  if (after? "$$" s).isSome then
    if s = rootVariable then .ok (some (.document root))
    else match after? (rootVariable ++ ".") s with
    | some path => .ok (root.getPath? path)
    | none => .error (.failedToParse ("use of undefined variable: " ++ s))
  else match after? "$" s with
  | some path => .ok (root.getPath? path)
  | none => .ok (some (.string s))

/-! ### Operators -/

/-- The only argument of an operator. -/
def onlyArgument (op : String) : List Evaluated → Evaluated
  | [v] => v
  | _ => .error (.failedToParse (op ++ " takes exactly one argument"))

/-- The fields of all documents among the arguments, later ones over earlier ones. -/
def mergeObjects (merged : Document) : List Evaluated → Except CommandFailure Document
  | [] => .ok merged
  | v :: vs => do
    match ← v with
    | some (.document d) => mergeObjects (merged.setAll d) vs
    | none | some .null => mergeObjects merged vs
    | some other =>
      throw <| .typeMismatch <|
        "$mergeObjects requires object inputs, but input is of type "
          ++ (TypeTag.ofValue other).name

/-- The first argument that has a value other than null. -/
def firstPresent : List Evaluated → Evaluated
  | [] => .ok (some .null)
  | v :: vs => do
    match ← v with
    | none | some .null => firstPresent vs
    | some v => return some v

/-- Applies an operator to its operand and the values of its arguments. -/
def apply (op : String) (operand : Value) (arguments : List Evaluated) : Evaluated :=
  match op with
  | "$literal" => .ok (some operand)
  | "$size" => do
    match ← onlyArgument op arguments with
    | some (.array items) => return some (.ofInt32 items.length)
    | other =>
      throw <| .typeMismatch <|
        "The argument to $size must be an array. Type of argument: " ++ (TypeTag.ofField other).name
  | "$type" => return some (.string ((TypeTag.ofField (← onlyArgument op arguments)).name))
  | "$mergeObjects" => return some (.document (← mergeObjects [] arguments))
  | "$ifNull" => firstPresent arguments
  | other => .error (.invalidPipelineOperator ("Unrecognized expression '" ++ other ++ "'"))

/-! ### Evaluation -/

/-- Whether a document is an operator with its operand. -/
def isOperation : List (String × Value) → Bool
  | [(op, _)] => op.toList.head? == some '$'
  | _ => false

mutual

/-- The value of an expression. -/
def evaluate (root : Document) : Value → Evaluated
  | .string s => ofString root s
  | .document fields =>
    if isOperation fields then evaluateOperation root fields
    else return some (.document (← evaluateFields root fields))
  | .array items => do
    let vs ← (evaluateEach root items).mapM fun v => return (← v).getD .null
    return some (.array vs)
  | v => .ok (some v)

/-- The value of an operator with its operand. -/
def evaluateOperation (root : Document) : List (String × Value) → Evaluated
  | [(op, .array items)] => apply op (.array items) (evaluateEach root items)
  | [(op, operand)] => apply op operand [evaluate root operand]
  | _ => .ok none

/-- The fields that have a value. -/
def evaluateFields (root : Document) : List (String × Value) → Except CommandFailure Document
  | [] => .ok []
  | (key, e) :: rest => do
    match ← evaluate root e with
    | some v => return (key, v) :: (← evaluateFields root rest)
    | none => evaluateFields root rest

/-- The values of expressions, each with its own failure. -/
def evaluateEach (root : Document) : List Value → List Evaluated
  | [] => []
  | e :: es => evaluate root e :: evaluateEach root es

end

end Expression

end SqlGateway
