import SqlGateway.Service.Invocation
import SqlGateway.Service.Serving
import SqlGateway.Store.Memory

/-! The program as a function: from its arguments, the files it may read and
the lines of its input to what it prints and its exit code. -/

namespace SqlGateway.Program

variable [Host]

/-- What a run of the program leaves behind. -/
structure Outcome where
  exit : UInt8
  out : List String := []
  err : List String := []

/-- The name and the version of the program. -/
def version : String := "aerosql 0.1.0"

/-- The exit code of wrong arguments. -/
def misuse : Outcome := { exit := 2 }

/-- The outcome of an error that ends the program. -/
def failed (e : ServiceError) : Outcome := { exit := 1, err := [e.text] }

/-- The configuration in the file at a path. -/
def loadConfig (readFile : String → Except Config.FileFault String) (path : String) :
    Except ServiceError Config :=
  (Config.ofFile path (readFile path)).mapError ServiceError.ofGatewayError

/-- The store of the program and its configuration; the store must answer. -/
def openStore (config : Config) : Except ServiceError MemoryStore :=
  let (alive, s) :=
    Gateway.testConnection MemoryStore.store config.pingTimeout.toNat (.new config.standalone)
  if alive then .ok s else .error ⟨.io, "document store did not answer the ping"⟩

/-- Runs the requests on lines. -/
def query (config : Config) (lines : List String) : Option Outcome :=
  match openStore config with
  | .error e => some (failed e)
  | .ok s => do
    let (answers, _) ←
      Service.serveQueries MemoryStore.store config (Service.numbered lines) s
    return { exit := 0, out := answers }

/-- Runs the program. -/
def run (readFile : String → Except Config.FileFault String) (arguments lines : List String) :
    Option Outcome :=
  match Invocation.ofArguments arguments with
  | .version => some { exit := 0, out := [version] }
  | .help => some { exit := 0 }
  | .misuse => some misuse
  | .query path =>
    match loadConfig readFile path with
    | .error e => some (failed e)
    | .ok config => query config lines
  | .explain path =>
    match loadConfig readFile path with
    | .error e => some (failed e)
    | .ok _ => do
      guard (lines.all Service.explainComesBack)
      return { exit := 0, out := Service.serveExplain (Service.numbered lines) }

/-- The host of the executable, whose clocks are five and a half hours ahead of universal time. -/
instance host : Host where
  zone := .fixed 19800
  patternFault pattern _ := pattern
  requestFault _ := "not a query tree"
  configFault _ := "not a configuration"

end SqlGateway.Program
