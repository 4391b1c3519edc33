import SqlGateway.Query.Literal

/-! Columns, and the predicates of WHERE and HAVING lists. -/

namespace SqlGateway

/-- An aggregate function. -/
inductive Aggregation where
  | avg | count | max | min | sum
  deriving DecidableEq, Repr

namespace Aggregation

/-- Every aggregate function. -/
def all : List Aggregation := [.avg, .count, .max, .min, .sum]

/-- The written name. -/
def name : Aggregation → String
  | .avg => "AVG"
  | .count => "COUNT"
  | .max => "MAX"
  | .min => "MIN"
  | .sum => "SUM"

/-- The aggregate function with a written name. -/
def ofName? (s : String) : Option Aggregation := all.find? (·.name == s)

/-- The accumulator that computes it. A count collects the distinct values, and its size is taken
where it is read. -/
def accumulator : Aggregation → String
  | .avg => "$avg"
  | .count => "$addToSet"
  | .max => "$max"
  | .min => "$min"
  | .sum => "$sum"

end Aggregation

/-- What joins a predicate to the one before it. -/
inductive Connective where
  | and | or | xor
  deriving DecidableEq, Repr

namespace Connective

/-- Every connective. -/
def all : List Connective := [.and, .or, .xor]

/-- The written name. -/
def name : Connective → String
  | .and => "AND"
  | .or => "OR"
  | .xor => "XOR"

/-- The connective with a written name. -/
def ofName? (s : String) : Option Connective := all.find? (·.name == s)

end Connective

/-- A comparison. -/
inductive Comparison where
  | eq | lt | lte | gt | gte | ne | like | notLike | isIn | notIn | is | isNot
  deriving DecidableEq, Repr

namespace Comparison

/-- Every comparison. -/
def all : List Comparison :=
  [.eq, .lt, .lte, .gt, .gte, .ne, .like, .notLike, .isIn, .notIn, .is, .isNot]

/-- The written form. -/
def name : Comparison → String
  | .eq => "="
  | .lt => "<"
  | .lte => "<="
  | .gt => ">"
  | .gte => ">="
  | .ne => "<>"
  | .like => "LIKE"
  | .notLike => "NOT LIKE"
  | .isIn => "IN"
  | .notIn => "NOT IN"
  | .is => "IS"
  | .isNot => "IS NOT"

/-- The comparison with a written form. -/
def ofName? (s : String) : Option Comparison := all.find? (·.name == s)

end Comparison

/-- A column that a statement names. -/
structure Column where
  name : String
  asName : Option String := none
  aggregation : Option Aggregation := none
  /-- Whether the column belongs to the joined collection. -/
  joinSourced : Bool := false

namespace Column

/-- The name that stands for all columns. -/
def wildcardName : String := "*"

/-- All columns. -/
def wildcard : Column := ⟨wildcardName, none, none, false⟩

/-- A plain column. -/
def named (name : String) : Column := ⟨name, none, none, false⟩

/-- A column of the joined collection. -/
def joined (name : String) : Column := ⟨name, none, none, true⟩

/-- An aggregate of a column. -/
def aggregated (f : Aggregation) (name : String) : Column := ⟨name, none, some f, false⟩

/-- Whether a column stands for all columns. -/
def isWildcard (c : Column) : Bool := c.name == wildcardName

end Column

/-- One comparison of a column with a literal, with its connective and brackets. -/
structure Predicate where
  column : Column
  op : Comparison
  value : Literal
  connective : Option Connective := none
  opens : Bool := false
  closes : Bool := false

namespace Predicate

/-- A comparison without connective and brackets. -/
def on (column : Column) (op : Comparison) (value : Literal) : Predicate :=
  ⟨column, op, value, none, false, false⟩

/-- The connective; a missing one is AND. -/
def effectiveConnective (p : Predicate) : Connective := p.connective.getD .and

end Predicate

end SqlGateway
