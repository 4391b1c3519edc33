import SqlGateway.Error.Store
import SqlGateway.Host
import SqlGateway.Pattern.Reading
import SqlGateway.Value.Order
import SqlGateway.Value.Path

/-! Whether a document satisfies a filter. A field that holds an array
satisfies a comparison when the array or one of its items does; a missing field
counts as null. -/

namespace SqlGateway

variable [Host]

/-- The outcome of a test that may be malformed. -/
abbrev Verdict := Except CommandFailure Bool

/-- Whether a key is an operator. -/
def isOperator (key : String) : Bool := key.toList.head? == some '$'

/-! ### Search patterns -/

/-- The pattern of a text with options. -/
def readPattern (pattern options : String) : Except CommandFailure Pattern :=
  match Pattern.ofText? pattern options with
  | some p => .ok p
  | none => .error (.badValue ("invalid regular expression: " ++ Host.patternFault pattern options))

/-- The pattern of an operand; options beside it replace its own. -/
def operandPattern (operand : Value) (options : String) : Except CommandFailure Pattern :=
  match operand with
  | .string s => readPattern s options
  | .regex r => readPattern r.pattern (if options.isEmpty then r.options else options)
  | _ => .error (.badValue "$regex has to be a string")

namespace Value

/-- Whether a pattern matches in the text of a value. -/
def textMatches (p : Pattern) : Value → Bool
  | .string s | .symbol s => p.isIn s
  | _ => false

/-- A value and the items it holds. -/
def candidates : Value → List Value
  | .array items => .array items :: items
  | v => [v]

end Value

/-! ### Fields -/

/-- Whether a single value equals an expected one; an expected pattern is searched for. -/
def candidateEquals (expected v : Value) : Bool :=
  match expected, v with
  | .regex _, .regex _ => v.equal expected
  | .regex r, v =>
    match readPattern r.pattern r.options with
    | .ok p => v.textMatches p
    | .error _ => false
  | _, _ => v.equal expected

/-- Whether a field equals a value. -/
def fieldEquals (actual : Option Value) (expected : Value) : Bool :=
  match actual with
  | none => match expected with
    | .null => true
    | _ => false
  | some v => v.candidates.any (candidateEquals expected)

/-- Whether a field stands in a relation to a bound of its own class. -/
def fieldOrdered (actual : Option Value) (bound : Value) (accept : Ordering → Bool) : Bool :=
  match actual with
  | none => match bound with
    | .null => accept .eq
    | _ => false
  | some v => (v.candidates.filter (·.sameClass bound)).any fun c => accept (c.order bound)

/-- Whether a field equals one of the values of a list. -/
def fieldIn (actual : Option Value) : Value → Verdict
  | .array vs => .ok (vs.any (fieldEquals actual))
  | _ => .error (.badValue "$in/$nin needs an array")

/-- Whether a value counts as true. -/
def Value.isTrue : Value → Bool
  | .bool b => b
  | .null | .undefined => false
  | .int n => n != 0
  | .long n => n != 0
  | .double x => x.toFloat != 0.0
  | _ => true

/-- Whether a pattern matches in a field. -/
def fieldMatchesPattern (actual : Option Value) (p : Pattern) : Bool :=
  match actual with
  | some v => v.candidates.any (·.textMatches p)
  | none => false

/-- Whether a condition is a document of operators, by its first key. -/
def isOperatorCondition (fields : List (String × Value)) : Bool :=
  match fields with
  | (key, _) :: _ => isOperator key
  | [] => false

/-- The options beside a pattern. -/
def patternOptions (operators : List (String × Value)) : String :=
  ((List.lookup "$options" operators).bind Value.string?).getD ""

mutual

/-- Whether a field satisfies a condition: a document of operators or a value to equal. -/
def fieldMatches (actual : Option Value) : Value → Verdict
  | .document fields =>
    if isOperatorCondition fields then operatorsMatch actual (patternOptions fields) fields
    else .ok (fieldEquals actual (.document fields))
  | v => .ok (fieldEquals actual v)

/-- Whether a field satisfies every operator of a list. -/
def operatorsMatch (actual : Option Value) (options : String) : List (String × Value) → Verdict
  | [] => .ok true
  | (op, operand) :: rest => do
    let satisfied ← match op with
      | "$eq" => .ok (fieldEquals actual operand)
      | "$ne" => .ok (!fieldEquals actual operand)
      | "$gt" => .ok (fieldOrdered actual operand (· == .gt))
      | "$gte" => .ok (fieldOrdered actual operand (· != .lt))
      | "$lt" => .ok (fieldOrdered actual operand (· == .lt))
      | "$lte" => .ok (fieldOrdered actual operand (· != .gt))
      | "$in" => fieldIn actual operand
      | "$nin" => (!·) <$> fieldIn actual operand
      | "$exists" => .ok (actual.isSome == operand.isTrue)
      | "$regex" => fieldMatchesPattern actual <$> operandPattern operand options
      | "$options" => .ok true
      | "$not" => (!·) <$> fieldMatches actual operand
      | other => .error (.badValue ("unknown operator: " ++ other))
    if satisfied then operatorsMatch actual options rest else .ok false

end

/-! ### Documents -/

/-- The branches of a logical operator must be documents. -/
def checkBranches (items : List Value) : Except CommandFailure Unit :=
  if items.all (·.document?.isSome) then .ok ()
  else .error (.badValue "$and/$or/$nor entries must be objects")

/-- No logical operator has a key. -/
def unknownOperator (key : String) : CommandFailure :=
  .badValue ("unknown top level operator: " ++ key)

mutual

/-- Whether a document satisfies every entry of a filter. -/
def satisfies (d : Document) : List (String × Value) → Verdict
  | [] => .ok true
  | (key, condition) :: rest => do
    if ← satisfiesEntry d key condition then satisfies d rest else .ok false

/-- Whether a document satisfies an entry of a filter: filters under a logical operator, or a
condition on a field. -/
def satisfiesEntry (d : Document) (key : String) : Value → Verdict
  | .array items =>
    if key = "$and" then do checkBranches items; allHold d items
    else if key = "$or" then do checkBranches items; anyHolds d items
    else if key = "$nor" then do checkBranches items; (!·) <$> anyHolds d items
    else if isOperator key then .error (unknownOperator key)
    else fieldMatches (d.getPath? key) (.array items)
  | condition =>
    if key = "$and" || key = "$or" || key = "$nor" then
      .error (.badValue "$and/$or/$nor must be an array")
    else if isOperator key then .error (unknownOperator key)
    else fieldMatches (d.getPath? key) condition

/-- Whether a document satisfies every filter of a list. -/
def allHold (d : Document) : List Value → Verdict
  | [] => .ok true
  | .document filter :: rest => do
    if ← satisfies d filter then allHold d rest else .ok false
  | _ :: rest => allHold d rest

/-- Whether a document satisfies some filter of a list. -/
def anyHolds (d : Document) : List Value → Verdict
  | [] => .ok false
  | .document filter :: rest => do
    if ← satisfies d filter then .ok true else anyHolds d rest
  | _ :: rest => anyHolds d rest

end

/-- Whether a document satisfies a filter. -/
def Document.matches (d : Document) (filter : Document) : Verdict := satisfies d filter

end SqlGateway
