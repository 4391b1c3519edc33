import SqlGateway.Naming
import SqlGateway.Pattern.Escape

/-! The structure of a predicate list: single conditions and bracketed groups,
each with the connective that joins it to what stands before it. -/

namespace SqlGateway

variable [Host]

/-- An operator document that a field has to satisfy. -/
structure Condition where
  field : String
  operator : Document

/-- The filter document of a condition. -/
def Condition.toDocument (c : Condition) : Document := [(c.field, .document c.operator)]

/-- A condition, or a bracketed group of conditions under one connective. -/
inductive FilterTerm where
  | single (condition : Condition)
  | group (connective : Connective) (conditions : List Condition)

/-- A term with the connective before it; before the first term it is AND. -/
structure FilterItem where
  connective : Connective
  term : FilterTerm

/-! ### Conditions -/

namespace Predicate

/-- The pattern of a LIKE: the text without its percent signs, anywhere in a line. -/
def likePattern (p : Predicate) : Except GatewayError String :=
  match p.value with
  | .string s =>
    .ok (".*" ++ Pattern.escape (String.ofList (s.toList.filter (· != '%'))) ++ ".*")
  | l =>
    .error <| .unsupportedFilter <|
      p.op.name ++ " on '" ++ p.column.name ++ "' needs a string pattern, got " ++ l.tag.name

/-- The items of an array, or the one item that a scalar is. -/
def listValue : Value → Value
  | .array vs => .array vs
  | v => .array [v]

/-- The operator document of a predicate. -/
def operator (p : Predicate) : Except GatewayError Document :=
  let v := p.value.toValue
  match p.op with
  | .eq | .is => .ok [("$eq", v)]
  | .ne | .isNot => .ok [("$ne", v)]
  | .lt => .ok [("$lt", v)]
  | .lte => .ok [("$lte", v)]
  | .gt => .ok [("$gt", v)]
  | .gte => .ok [("$gte", v)]
  | .isIn => .ok [("$in", listValue v)]
  | .notIn => .ok [("$nin", listValue v)]
  | .like => return [("$regex", .string (← p.likePattern))]
  | .notLike => return [("$not", .document [("$regex", .string (← p.likePattern))])]

/-- The condition of a predicate. -/
def condition (names : Naming) (p : Predicate) : Except GatewayError Condition := do
  return ⟨← names.field p.column, ← p.operator⟩

end Predicate

/-! ### Brackets -/

/-- A group whose closing bracket has not been seen. -/
structure OpenGroup where
  connective : Connective
  /-- The connective of the conditions after the first. -/
  inner : Option Connective
  conditions : List Condition

namespace FilterItem

/-- The item of a group that is closed. -/
def ofGroup (g : OpenGroup) : FilterItem := ⟨g.connective, .group (g.inner.getD .and) g.conditions⟩

/-- A group with one more condition; all conditions after the first share one connective. -/
def extend (g : OpenGroup) (connective : Connective) (c : Condition) :
    Except GatewayError OpenGroup :=
  let inner := g.inner.getD connective
  if inner = connective then .ok ⟨g.connective, some inner, g.conditions ++ [c]⟩
  else
    .error <| .unsupportedFilter <|
      "bracket mixes " ++ inner.name ++ " and " ++ connective.name

/-- The items of the predicates after the first, given the group that is open. -/
def ofRest (names : Naming) (first : Bool) (current : Option OpenGroup) :
    List Predicate → Except GatewayError (List FilterItem)
  | [] => match current with
    | some _ => .error (.unsupportedFilter "unmatched opening bracket")
    | none => .ok []
  | p :: ps => do
    let connective := if first then .and else p.effectiveConnective
    if p.opens && p.closes then
      throw <| .unsupportedFilter <|
        "predicate on '" ++ p.column.name ++ "' both opens and closes a bracket"
    let c ← p.condition names
    match current with
    | some g =>
      if p.opens then throw (.unsupportedFilter "nested brackets are not supported")
      let g ← extend g connective c
      if p.closes then return ofGroup g :: (← ofRest names false none ps)
      else ofRest names false (some g) ps
    | none =>
      if p.opens then ofRest names false (some ⟨connective, none, [c]⟩) ps
      else if p.closes then
        throw <| .unsupportedFilter <|
          "closing bracket on '" ++ p.column.name ++ "' without an opening bracket"
      else return ⟨connective, .single c⟩ :: (← ofRest names false none ps)

/-- The items of a predicate list. -/
def ofPredicates (names : Naming) (ps : List Predicate) : Except GatewayError (List FilterItem) :=
  match ps.find? (·.connective = some .xor) with
  | some p =>
    .error <| .unsupportedFilter <|
      "XOR connective on '" ++ p.column.name ++ "' has no document-store equivalent"
  | none => ofRest names true none ps

end FilterItem

end SqlGateway
