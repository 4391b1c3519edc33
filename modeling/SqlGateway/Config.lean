import SqlGateway.Error.Gateway
import SqlGateway.Host
import SqlGateway.Json.Reading

/-! The configuration of a gateway: the database it works on and how it runs
statements. -/

namespace SqlGateway

/-- The configuration of a gateway. -/
structure Config where
  database : String
  autoCommit : Bool := true
  pingTimeout : UInt64 := 1000
  logLevel : String := "info"
  /-- Whether the store runs without transactions. -/
  standalone : Bool := false
  deriving DecidableEq, Repr

namespace Config

/-- A configuration with the usual choices. -/
def ofDatabase (name : String) : Config := { database := name }

/-- The levels of logging. -/
def logLevels : List String := ["trace", "debug", "info", "warn", "error"]

/-- The characters that may not stand in the name of a database. -/
def forbiddenChars : List Char := ['\x00', '/', '\\', '.', ' ', '"', '$']

/-- A forbidden character in quotes. -/
def quotedChar (c : Char) : String :=
  if c = '\x00' then "'\\0'"
  else if c = '\\' then "'\\\\'"
  else String.ofList ['\'', c, '\'']

/-- A fault without a cause of its own. -/
def fault (reason : String) : GatewayError := .invalidConfig reason none

/-- Checks the name of the database, then the time-out, then the log level. -/
def validate (c : Config) : Except GatewayError Unit :=
  if c.database.isEmpty then .error (fault "database must not be empty")
  else match c.database.toList.find? (forbiddenChars.contains ·) with
  | some bad =>
    .error <| fault <|
      "database name '" ++ c.database ++ "' contains forbidden character " ++ quotedChar bad
  | none =>
    if c.pingTimeout = 0 then .error (fault "ping_timeout_ms must be > 0")
    else if logLevels.contains (String.ofList (c.logLevel.toList.map Char.toLower)) then .ok ()
    else
      .error <| fault <|
        "unknown log_level '" ++ c.logLevel ++ "', expected one of "
          ++ String.intercalate ", " logLevels

/-- Reads the fields of a configuration. -/
def ofJson? (j : Json) : Option Config := do
  let [database, autoCommit, pingTimeout, logLevel, standalone] ←
    j.fields? ["database", "auto_commit", "ping_timeout_ms", "log_level", "standalone"] | none
  let readMillis (j : Json) : Option UInt64 :=
    (j.integer? 0 (UInt64.size - 1)).map (UInt64.ofNat ∘ Int.toNat)
  return {
    database := ← (← database).string?
    autoCommit := ← Json.defaulted? true Json.bool? autoCommit
    pingTimeout := ← Json.defaulted? 1000 readMillis pingTimeout
    logLevel := ← Json.defaulted? "info" Json.string? logLevel
    standalone := ← Json.defaulted? false Json.bool? standalone }

/-- Reads and checks a configuration. -/
def ofText [Host] (s : String) : Except GatewayError Config := do
  match (Json.ofText? s).bind ofJson? with
  | none => throw (fault ("invalid config JSON: " ++ Host.configFault s))
  | some c =>
    c.validate
    return c

/-- Why a file cannot be read. -/
inductive FileFault where
  | missing | denied | directory
  | other (reason : String)

/-- The text of a fault. -/
def FileFault.text : FileFault → String
  | .missing => "No such file or directory (os error 2)"
  | .denied => "Permission denied (os error 13)"
  | .directory => "Is a directory (os error 21)"
  | .other reason => reason

/-- The configuration in the file at a path, or the error of a file that cannot be read. -/
def ofFile [Host] (path : String) : Except FileFault String → Except GatewayError Config
  | .ok content => ofText content
  | .error fault =>
    .error <| .invalidConfig ("failed to read config " ++ path ++ ": " ++ fault.text)
      (some fault.text)

end Config

end SqlGateway
