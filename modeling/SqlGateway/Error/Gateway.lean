import SqlGateway.Error.Store

/-! Why the gateway refuses a statement or a configuration. -/

namespace SqlGateway

/-- How grave an error is. -/
inductive Severity where
  | error | fatal
  deriving DecidableEq, Repr

/-- The written name of a severity. -/
def Severity.name : Severity → String
  | .error => "ERROR"
  | .fatal => "FATAL"

/-- An error of the gateway. -/
inductive GatewayError where
  /-- The statement is meant for another kind of store. -/
  | invalidGateway (target : String)
  | unsupportedStatement (reason : String)
  | unsupportedFilter (reason : String)
  | unsupportedJoin (reason : String)
  | unsupportedAggregation (reason : String)
  /-- The greatest value of a counting column is not a whole number. -/
  | nonNumericAutoIncrement (column sampled : String)
  | missingMetadata (reason : String)
  /-- No cell can hold the values of a column's type. -/
  | unknownColumnType (column type : String)
  | executionFailed (reason : String)
  /-- A call to the store brought no response. -/
  | storeFailed (cause : StoreError)
  | invalidConfig (reason : String) (cause : Option String)
  deriving DecidableEq, Repr

namespace GatewayError

/-- The code of an error. -/
def code : GatewayError → String
  | .invalidGateway _ => "AERO_SQL_INVALID_GATEWAY"
  | .unsupportedStatement _ => "AERO_SQL_UNSUPPORTED_STATEMENT"
  | .unsupportedFilter _ => "AERO_SQL_UNSUPPORTED_FILTER"
  | .unsupportedJoin _ => "AERO_SQL_UNSUPPORTED_JOIN"
  | .unsupportedAggregation _ => "AERO_SQL_UNSUPPORTED_AGGREGATION"
  | .nonNumericAutoIncrement _ _ => "AERO_SQL_NON_NUMERIC_AUTO_INCREMENT"
  | .missingMetadata _ => "AERO_SQL_MISSING_METADATA"
  | .unknownColumnType _ _ => "AERO_SQL_UNKNOWN_COLUMN_TYPE"
  | .executionFailed _ | .storeFailed _ => "AERO_SQL_EXECUTION_FAILED"
  | .invalidConfig _ _ => "AERO_SQL_INVALID_CONFIG"

/-- The message of an error, without its code and cause. -/
def message : GatewayError → String
  | .invalidGateway target =>
    "statement targets '" ++ target ++ "', expected the document store"
  | .nonNumericAutoIncrement column sampled =>
    "auto-increment column '" ++ column ++ "' holds non-numeric value '" ++ sampled ++ "'"
  | .unknownColumnType column type =>
    "column '" ++ column ++ "' has unsupported type '" ++ type ++ "'"
  | .storeFailed cause => "store call failed: " ++ cause.message
  | .unsupportedStatement reason | .unsupportedFilter reason | .unsupportedJoin reason
  | .unsupportedAggregation reason | .missingMetadata reason | .executionFailed reason
  | .invalidConfig reason _ => reason

/-- The text of an error's cause. -/
def cause? : GatewayError → Option String
  | .storeFailed cause => some cause.message
  | .invalidConfig _ cause => cause
  | _ => none

/-- How grave an error is: only an unusable configuration is fatal. -/
def severity : GatewayError → Severity
  | .invalidConfig _ _ => .fatal
  | _ => .error

/-- Whether an error is found before the store is called. -/
def isCompileTime : GatewayError → Bool
  | .invalidGateway _ | .unsupportedStatement _ | .unsupportedFilter _ | .unsupportedJoin _
  | .unsupportedAggregation _ => true
  | _ => false

/-- Severity, code and message, with the cause in brackets. -/
def text (e : GatewayError) : String :=
  let head := "[" ++ e.severity.name ++ "] " ++ e.code ++ ": " ++ e.message
  match e.cause? with
  | some cause => head ++ " (caused by: " ++ cause ++ ")"
  | none => head

end GatewayError

end SqlGateway
