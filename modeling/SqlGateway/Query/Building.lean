import SqlGateway.Query.Statement

/-! Building statements step by step. A step that a kind of statement does not
have leaves it as it is. -/

namespace SqlGateway

namespace Column

/-- The column under another output name. -/
def withAlias (c : Column) (name : String) : Column := { c with asName := some name }

/-- An aggregate of the column. -/
def withAggregation (c : Column) (f : Aggregation) : Column := { c with aggregation := some f }

end Column

namespace Predicate

/-- Joins the predicate to the one before it. -/
def withConnective (p : Predicate) (c : Connective) : Predicate := { p with connective := some c }

/-- Opens a bracket before the predicate. -/
def withOpening (p : Predicate) : Predicate := { p with opens := true }

/-- Closes a bracket after the predicate. -/
def withClosing (p : Predicate) : Predicate := { p with closes := true }

end Predicate

/-- A join on one pair of columns. -/
def Join.on (kind : JoinKind) (collection left right : String) : Join :=
  ⟨kind, collection, [⟨left, right⟩]⟩

namespace ColumnDef

/-- A column without a type and constraints. -/
def named (name : String) : ColumnDef := { name }

/-- The column with a type. -/
def withType (c : ColumnDef) (type : String) : ColumnDef := { c with dataType := some type }

/-- The column with one more constraint. -/
def withConstraint (c : ColumnDef) (k : ConstraintKind) : ColumnDef :=
  { c with constraints := c.constraints ++ [k] }

/-- The column with a default. -/
def withDefault (c : ColumnDef) (l : Literal) : ColumnDef := { c with default := some l }

end ColumnDef

namespace Select

/-- Selects one more column. -/
def addColumn (s : Select) (c : Column) : Select := { s with columns := s.columns ++ [c] }

/-- Adds a predicate to the WHERE list. -/
def addFilter (s : Select) (p : Predicate) : Select := { s with wheres := s.wheres ++ [p] }

/-- Joins one more collection. -/
def addJoin (s : Select) (j : Join) : Select := { s with joins := s.joins ++ [j] }

/-- Groups by one more column. -/
def addGroup (s : Select) (c : Column) : Select := { s with groupBy := s.groupBy ++ [c] }

/-- Adds a predicate to the HAVING list. -/
def addHaving (s : Select) (p : Predicate) : Select := { s with having := s.having ++ [p] }

end Select

namespace Statement

/-- Adds a predicate to the WHERE list. -/
def addFilter (p : Predicate) : Statement → Statement
  | .select s => .select (s.addFilter p)
  | .update collection values wheres => .update collection values (wheres ++ [p])
  | .delete collection wheres => .delete collection (wheres ++ [p])
  | s => s

/-- Stores one more value. -/
def addValue (column : String) (l : Literal) : Statement → Statement
  | .insert collection counted values => .insert collection counted (values ++ [(column, l)])
  | .update collection values wheres => .update collection (values ++ [(column, l)]) wheres
  | s => s

/-- Counts a column. -/
def withAutoIncrement (column : String) : Statement → Statement
  | .insert collection _ values => .insert collection (some column) values
  | s => s

/-- Defines one more column. -/
def addDefinition (c : ColumnDef) : Statement → Statement
  | .create collection columns => .create collection (columns ++ [c])
  | s => s

/-- Adds a change. -/
def addAction (a : AlterAction) : Statement → Statement
  | .alter collection actions => .alter collection (actions ++ [a])
  | s => s

end Statement

end SqlGateway
