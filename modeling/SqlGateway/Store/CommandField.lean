import SqlGateway.Error.Store
import SqlGateway.Number.Shortest

/-! The fields of commands that a store reads, each with the failure of a field
of the wrong kind. -/

namespace SqlGateway.CommandField

/-- The collection that a command names after its verb. -/
def target (command : Document) (verb : String) : Except CommandFailure String :=
  match command.get? verb with
  | some (.string name) => .ok name
  | _ => .error (.typeMismatch ("collection name for '" ++ verb ++ "' must be a string"))

/-- A list that has to be there. -/
def array (command : Document) (key : String) : Except CommandFailure (List Value) :=
  match command.get? key with
  | some (.array items) => .ok items
  | _ => .error (.failedToParse ("'" ++ key ++ "' must be an array"))

/-- A document that may be left out. -/
def document? (command : Document) (key : String) : Except CommandFailure (Option Document) :=
  match command.get? key with
  | none => .ok none
  | some (.document d) => .ok (some d)
  | some _ => .error (.typeMismatch ("'" ++ key ++ "' must be an object"))

/-- A count that may be left out; the sign of a number does not matter. -/
def count? (command : Document) (key : String) : Except CommandFailure (Option Nat) :=
  match command.get? key with
  | none => .ok none
  | some (.int n) => .ok (some n.toInt.natAbs)
  | some (.long n) => .ok (some n.toInt.natAbs)
  | some (.double x) =>
    match wholeOfDouble? x.toFloat with
    | some n => .ok (some n.natAbs)
    | none => .error (notANumber key)
  | some _ => .error (notANumber key)
where
  notANumber (key : String) : CommandFailure :=
    .typeMismatch ("'" ++ key ++ "' must be a number")

end SqlGateway.CommandField
