import SqlGateway.Text.Digits
import SqlGateway.Value.Basic

/-! The two ways in which a store refuses: a call that brings no response, and
a response that reports a failed command. -/

namespace SqlGateway

/-- A span of whole milliseconds in its largest unit that is not below one. -/
def spanText (millis : Nat) : String :=
  String.ofList <|
    if millis = 0 then "0ns".toList
    else if millis < 1000 then digitsOf millis ++ "ms".toList
    else
      let fraction := ((paddedDigits 3 (millis % 1000)).reverse.dropWhile (· = '0')).reverse
      digitsOf (millis / 1000) ++ (if fraction.isEmpty then [] else '.' :: fraction) ++ ['s']

/-- Why a call to a store brought no response. -/
inductive StoreError where
  | unreachable (reason : String)
  | timeout (millis : Nat)
  | transaction (reason : String)
  | malformed (reason : String)
  deriving DecidableEq, Repr

/-- The text of a store error. -/
def StoreError.message : StoreError → String
  | .unreachable reason => "Store unreachable: " ++ reason
  | .timeout millis => "Ping timed out after " ++ spanText millis
  | .transaction reason => "Transaction error: " ++ reason
  | .malformed reason => "Malformed command: " ++ reason

/-- A failure that a store reports in a response. -/
structure CommandFailure where
  code : Nat
  codeName : String
  reason : String
  deriving DecidableEq, Repr

namespace CommandFailure

def badValue (reason : String) : CommandFailure := ⟨2, "BadValue", reason⟩
def failedToParse (reason : String) : CommandFailure := ⟨9, "FailedToParse", reason⟩
def typeMismatch (reason : String) : CommandFailure := ⟨14, "TypeMismatch", reason⟩
def illegalOperation (reason : String) : CommandFailure := ⟨20, "IllegalOperation", reason⟩
def namespaceNotFound (reason : String) : CommandFailure := ⟨26, "NamespaceNotFound", reason⟩
def indexNotFound (reason : String) : CommandFailure := ⟨27, "IndexNotFound", reason⟩
def namespaceExists (reason : String) : CommandFailure := ⟨48, "NamespaceExists", reason⟩
def duplicateKey (reason : String) : CommandFailure := ⟨11000, "DuplicateKey", reason⟩

def invalidPipelineOperator (reason : String) : CommandFailure :=
  ⟨168, "InvalidPipelineOperator", reason⟩

/-- No open cursor has an id. -/
def cursorNotFound (id : Int) : CommandFailure :=
  ⟨43, "CursorNotFound", "cursor id " ++ String.ofList (signedDigits id) ++ " not found"⟩

/-- No command has a name. -/
def commandNotFound (verb : String) : CommandFailure :=
  ⟨59, "CommandNotFound", "no such command: '" ++ verb ++ "'"⟩

/-- The text of a failure. -/
def message (f : CommandFailure) : String :=
  f.codeName ++ " (" ++ String.ofList (digitsOf f.code) ++ "): " ++ f.reason

/-- The response that reports a failure. -/
def toResponse (f : CommandFailure) : Document :=
  [("ok", .ofFloat 0.0), ("errmsg", .string f.reason), ("code", .ofInt32 f.code),
    ("codeName", .string f.codeName)]

/-- The entry of a list of write errors that reports a failure of the write at an index. -/
def toWriteError (f : CommandFailure) (index : Nat) : Document :=
  [("index", .ofInt32 index), ("code", .ofInt32 f.code), ("errmsg", .string f.reason)]

end CommandFailure

end SqlGateway
