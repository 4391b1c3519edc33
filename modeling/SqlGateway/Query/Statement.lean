import SqlGateway.Query.Predicate

/-! Relational statements. A query tree holds statements and the dialect they
are meant for. -/

namespace SqlGateway

/-- What kinds of store statements are meant for. -/
inductive Dialect where
  | mariaDb | sqlite | msSql | postgreSql | oracle | document
  deriving DecidableEq, Repr

namespace Dialect

/-- Every dialect. -/
def all : List Dialect := [.mariaDb, .sqlite, .msSql, .postgreSql, .oracle, .document]

/-- The written name. -/
def name : Dialect → String
  | .mariaDb => "mariadb"
  | .sqlite => "sqlite"
  | .msSql => "mssql"
  | .postgreSql => "postgresql"
  | .oracle => "oracle"
  | .document => "document"

/-- The dialect with a written name. -/
def ofName? (s : String) : Option Dialect := all.find? (·.name == s)

end Dialect

/-! ### Clauses of a SELECT -/

/-- Which rows without a partner a join keeps. -/
inductive JoinKind where
  | inner | left | right | full
  deriving DecidableEq, Repr

namespace JoinKind

/-- Every kind of join. -/
def all : List JoinKind := [.inner, .left, .right, .full]

/-- The written name. -/
def name : JoinKind → String
  | .inner => "inner"
  | .left => "left"
  | .right => "right"
  | .full => "full"

/-- The kind of join with a written name. -/
def ofName? (s : String) : Option JoinKind := all.find? (·.name == s)

end JoinKind

/-- Two columns that a join compares. -/
structure Relation where
  left : String
  right : String

/-- A join with another collection. -/
structure Join where
  kind : JoinKind
  collection : String
  relations : List Relation

/-- One column of an ORDER BY. -/
structure OrderTerm where
  column : Column
  ascending : Bool

/-- How many rows to leave out and how many to give. -/
structure Limit where
  offset : UInt64
  count : UInt64

/-- A SELECT statement. -/
structure Select where
  collection : String
  distinct : Bool := false
  columns : List Column := []
  wheres : List Predicate := []
  joins : List Join := []
  groupBy : List Column := []
  having : List Predicate := []
  orderBy : Option (List OrderTerm) := none
  limit : Option Limit := none

/-- Whether some column is an aggregate. -/
def Select.hasAggregation (s : Select) : Bool := s.columns.any (·.aggregation.isSome)

/-! ### Definitions -/

/-- A constraint of a column. -/
inductive ConstraintKind where
  | primaryKey | unique | autoIncrement | notNull
  deriving DecidableEq, Repr

namespace ConstraintKind

/-- Every constraint. -/
def all : List ConstraintKind := [.primaryKey, .unique, .autoIncrement, .notNull]

/-- The written name. -/
def name : ConstraintKind → String
  | .primaryKey => "primary_key"
  | .unique => "unique"
  | .autoIncrement => "auto_increment"
  | .notNull => "not_null"

/-- The constraint with a written name. -/
def ofName? (s : String) : Option ConstraintKind := all.find? (·.name == s)

/-- Whether the store backs a constraint with a unique index. -/
def isIndexed : ConstraintKind → Bool
  | .primaryKey | .unique => true
  | .autoIncrement | .notNull => false

end ConstraintKind

/-- The definition of a column. -/
structure ColumnDef where
  name : String
  dataType : Option String := none
  constraints : List ConstraintKind := []
  default : Option Literal := none

/-- Whether some constraint of a column is backed by an index. -/
def ColumnDef.isIndexed (c : ColumnDef) : Bool := c.constraints.any (·.isIndexed)

/-- A new name for a column. -/
structure ColumnRename where
  source : String
  target : String
  indexed : Bool := false

/-- A constraint on a column. -/
structure ConstraintDef where
  column : String
  kind : ConstraintKind

/-- One change of an ALTER statement. -/
inductive AlterAction where
  | addColumns (columns : List ColumnDef)
  | renameColumns (renames : List ColumnRename)
  | dropColumns (columns : List ColumnDef)
  | addConstraint (constraint : ConstraintDef)
  | dropConstraint (constraint : ConstraintDef)
  | renameConstraint (source target : ConstraintDef)

/-! ### Statements -/

/-- Columns with the literals to store in them. -/
abbrev Assignments := List (String × Literal)

/-- A statement. -/
inductive Statement where
  | select (s : Select)
  | insert (collection : String) (autoIncrement : Option String) (values : Assignments)
  | update (collection : String) (values : Assignments) (wheres : List Predicate)
  | delete (collection : String) (wheres : List Predicate)
  | create (collection : String) (columns : List ColumnDef)
  | alter (collection : String) (actions : List AlterAction)
  | drop (collection : String)
  | truncate (collection : String)

namespace Statement

/-- The collection a statement works on. -/
def collection : Statement → String
  | .select s => s.collection
  | .insert c _ _ => c
  | .update c _ _ => c
  | .delete c _ => c
  | .create c _ => c
  | .alter c _ => c
  | .drop c => c
  | .truncate c => c

/-- The kind of a statement. -/
def kindName : Statement → String
  | .select _ => "SELECT"
  | .insert _ _ _ => "INSERT"
  | .update _ _ _ => "UPDATE"
  | .delete _ _ => "DELETE"
  | .create _ _ => "CREATE"
  | .alter _ _ => "ALTER"
  | .drop _ => "DROP"
  | .truncate _ => "TRUNCATE"

/-- Whether a statement reads rows. -/
def isSelect : Statement → Bool
  | .select _ => true
  | _ => false

end Statement

/-- Statements meant for one dialect. -/
structure QueryTree where
  target : Dialect
  statements : List Statement

/-- A tree of one statement for the document store. -/
def QueryTree.document (s : Statement) : QueryTree := ⟨.document, [s]⟩

end SqlGateway
