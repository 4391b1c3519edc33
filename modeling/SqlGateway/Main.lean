import SqlGateway.Service.Program

/-! The program: reads requests line by line from standard input and writes
every answer as soon as it is known. -/

namespace SqlGateway.Program

/-- Why a file cannot be read. -/
def faultOf : IO.Error → Config.FileFault
  | .noFileOrDirectory .. => .missing
  | .permissionDenied .. => .denied
  | .inappropriateType .. => .directory
  | .userError _ => .other "stream did not contain valid UTF-8"
  | e => .other e.toString

/-- Reads a file, or tells why it cannot be read. -/
def readFile (path : String) : IO (Except Config.FileFault String) := do
  try
    return .ok (← IO.FS.readFile path)
  catch e =>
    return .error (faultOf e)

/-- Answers the lines of standard input, the next of which is the `n`th. -/
partial def answerLines {σ : Type} (answer : ObjectId → String → σ → Option (String × σ)) (n : Nat)
    (s : σ) : IO Unit := do
  let line ← (← IO.getStdin).getLine
  if line.isEmpty then return
  match Service.linesOf line with
  | content :: _ =>
    if isBlankText content then answerLines answer (n + 1) s
    else
      match answer (ObjectId.numbered n) content s with
      | none => return
      | some (text, s) =>
        let out ← IO.getStdout
        out.putStr (text ++ "\n")
        out.flush
        answerLines answer (n + 1) s
  | [] => answerLines answer (n + 1) s

/-- Prints an outcome. -/
def printOutcome (o : Outcome) : IO UInt32 := do
  for line in o.out do
    IO.println line
  for line in o.err do
    IO.eprintln line
  return o.exit.toUInt32

/-- Loads the configuration at a path and goes on with it. -/
def withConfig (path : String) (next : Config → IO UInt32) : IO UInt32 := do
  let content ← readFile path
  match loadConfig (fun _ => content) path with
  | .error e => printOutcome (failed e)
  | .ok config => next config

/-- Does what the arguments ask for; gives the exit code. -/
def perform : Invocation → IO UInt32
  | .version => printOutcome { exit := 0, out := [version] }
  | .help => printOutcome { exit := 0 }
  | .misuse => printOutcome misuse
  | .explain path => withConfig path fun _ => do
    let explain (id : ObjectId) (line : String) (_ : Unit) : Option (String × Unit) :=
      if Service.explainComesBack line then some (Service.answerExplain id line, ()) else none
    answerLines explain 0 ()
    return 0
  | .query path => withConfig path fun config => do
    match openStore config with
    | .error e => printOutcome (failed e)
    | .ok s =>
      answerLines (Service.answerQuery MemoryStore.store config) 0 s
      return 0

end SqlGateway.Program

/-- Runs the program. -/
def main (arguments : List String) : IO UInt32 :=
  SqlGateway.Program.perform (SqlGateway.Invocation.ofArguments arguments)
